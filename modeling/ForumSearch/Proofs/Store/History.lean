import ForumSearch.Proofs.Table
import ForumSearch.Session
import ForumSearch.Store.History

/-!
# Stores along their histories

Each write is described once, by the look-ups it changes. From this follow the facts that hold of
every store reached from nothing: threads stand under their own ids, the index row of a thread is
its segmented text, and stored votes are one or minus one.
-/

namespace ForumSearch

lemma Ballot.toInt_eq (b : Ballot) : b.toInt = 1 ∨ b.toInt = -1 := by
  cases b
  · exact .inl rfl
  · exact .inr rfl

namespace Store

@[simp] lemma after_append_singleton (history : List Write) (w : Write) :
    after (history ++ [w]) = (after history).write w := by
  simp [after, List.foldl_append]

lemma get?_addLink (links : Table (Int × Int) Counters) (thread tag : Int) (k : Int × Int) :
    (addLink thread links tag).get? k =
      if k = (thread, tag) then some ((links.get? k).getD .zero) else links.get? k := by
  unfold addLink
  by_cases hk : k = (thread, tag)
  · subst hk
    cases h : links.get? (thread, tag) <;> simp [Table.contains, h]
  · by_cases hc : links.contains (thread, tag) = true
    · simp [hc, hk]
    · simp [hc, hk, Ne.symm hk]

lemma get?_foldl_addLink (links : Table (Int × Int) Counters) (thread : Int) (tagIds : List Int)
    (k : Int × Int) :
    (tagIds.foldl (addLink thread) links).get? k =
      if k.1 = thread ∧ k.2 ∈ tagIds then some ((links.get? k).getD .zero) else links.get? k := by
  induction tagIds generalizing links with
  | nil => simp
  | cons tag tagIds ih =>
    rw [List.foldl_cons, ih, get?_addLink]
    obtain ⟨th, tg⟩ := k
    by_cases hth : th = thread
    · by_cases htg : tg = tag
      · simp [hth, htg]
      · simp [hth, htg]
    · simp [hth]

/-- The links of a thread become its listed tags; those that stay keep their counters. -/
lemma get?_relink (links : Table (Int × Int) Counters) (thread : Int) (tagIds : List Int)
    (k : Int × Int) :
    (relink links thread tagIds).get? k =
      if k.1 = thread then
        if k.2 ∈ tagIds then some ((links.get? k).getD .zero) else none
      else links.get? k := by
  have hall (o : Option Counters) : o.filter (fun _ => true) = o := by cases o <;> rfl
  unfold relink
  rw [get?_foldl_addLink, Table.get?_filter]
  by_cases hth : k.1 = thread
  · by_cases htg : k.2 ∈ tagIds
    · simp [hth, htg, hall]
    · simp [hth, htg]
  · simp [hth, hall]

lemma get?_putVote (votes : Table (Int × Int × Int) Int) (key k : Int × Int × Int)
    (b : Option Ballot) :
    (putVote votes key b).get? k = if k = key then b.map Ballot.toInt else votes.get? k := by
  cases b with
  | none => simp [putVote]
  | some b => simp [putVote, eq_comm]

lemma erase_putVote (votes : Table (Int × Int × Int) Int) (key : Int × Int × Int)
    (b : Option Ballot) : (putVote votes key b).erase key = votes.erase key := by
  cases b with
  | none => exact Table.erase_of_get?_eq_none (by simp [putVote])
  | some b => exact Table.erase_insert _ _ _

/-- The vote on a linked tag: the votes and the counters after it. -/
lemma applyVote_of_linked {s : Store} {v : Vote} {c : Counters}
    (h : s.links.get? (v.thread, v.tag) = some c) :
    s.applyVote v =
      let key := (v.user, v.thread, v.tag)
      let t := Transition.plan ((s.votes.get? key).bind Ballot.ofInt?) v.ballot
      (some t,
        { s with
          votes := putVote s.votes key t.outcome
          links := s.links.insert (v.thread, v.tag) (c.add t.change) }) := by
  simp only [applyVote, h]

lemma applyVote_of_unlinked {s : Store} {v : Vote}
    (h : s.links.get? (v.thread, v.tag) = none) : s.applyVote v = (none, s) := by
  simp only [applyVote, h]

/-- A vote changes the votes and the links at most. -/
lemma applyVote_frame (s : Store) (v : Vote) :
    (s.applyVote v).2.authors = s.authors ∧ (s.applyVote v).2.tags = s.tags ∧
      (s.applyVote v).2.threads = s.threads ∧ (s.applyVote v).2.contents = s.contents ∧
      (s.applyVote v).2.collections = s.collections := by
  unfold applyVote
  split
  · exact ⟨rfl, rfl, rfl, rfl, rfl⟩
  · exact ⟨rfl, rfl, rfl, rfl, rfl⟩

/-- What holds of every store that a history leaves. -/
structure Sound (s : Store) : Prop where
  thread_id : ∀ k t, s.threads.get? k = some t → t.id = k
  content : ∀ k t, s.threads.get? k = some t →
    s.contents.get? k = some (Index.segment (searchedText t))
  ballot : ∀ k n, s.votes.get? k = some n → n = 1 ∨ n = -1

lemma sound_empty : Sound empty where
  thread_id k t h := by simp [empty] at h
  content k t h := by simp [empty] at h
  ballot k n h := by simp [empty] at h

lemma Sound.upsertThread {s : Store} (h : Sound s) (t : Thread) (tagIds : List Int) :
    Sound (s.upsertThread t tagIds) where
  thread_id k u hu := by
    simp only [Store.upsertThread, Table.get?_insert] at hu
    by_cases hk : t.id = k
    · rw [if_pos hk] at hu
      obtain rfl := Option.some.inj hu
      exact hk
    · rw [if_neg hk] at hu
      exact h.thread_id k u hu
  content k u hu := by
    simp only [Store.upsertThread, Table.get?_insert] at hu ⊢
    by_cases hk : t.id = k
    · rw [if_pos hk] at hu ⊢
      obtain rfl := Option.some.inj hu
      rfl
    · rw [if_neg hk] at hu ⊢
      exact h.content k u hu
  ballot := h.ballot

/-- Stored votes that are one or minus one stay so. -/
lemma ballot_applyVote {s : Store} (h : ∀ k n, s.votes.get? k = some n → n = 1 ∨ n = -1)
    (v : Vote) (k : Int × Int × Int) (n : Int) (hn : (s.applyVote v).2.votes.get? k = some n) :
    n = 1 ∨ n = -1 := by
  cases hl : s.links.get? (v.thread, v.tag) with
  | none =>
    rw [applyVote_of_unlinked hl] at hn
    exact h k n hn
  | some c =>
    rw [applyVote_of_linked hl, get?_putVote] at hn
    by_cases hk : k = (v.user, v.thread, v.tag)
    · rw [if_pos hk] at hn
      obtain ⟨b, -, rfl⟩ := Option.map_eq_some_iff.mp hn
      exact Ballot.toInt_eq b
    · rw [if_neg hk] at hn
      exact h k n hn

lemma Sound.applyVote {s : Store} (h : Sound s) (v : Vote) : Sound (s.applyVote v).2 := by
  obtain ⟨-, -, hthreads, hcontents, -⟩ := applyVote_frame s v
  refine ⟨?_, ?_, ballot_applyVote h.ballot v⟩
  · rw [hthreads]
    exact h.thread_id
  · rw [hthreads, hcontents]
    exact h.content

lemma Sound.write {s : Store} (h : Sound s) (w : Write) : Sound (s.write w) := by
  cases w with
  | author a => exact ⟨h.thread_id, h.content, h.ballot⟩
  | tag t => exact ⟨h.thread_id, h.content, h.ballot⟩
  | thread t tagIds => exact h.upsertThread t tagIds
  | collect user thread time => exact ⟨h.thread_id, h.content, h.ballot⟩
  | vote v => exact h.applyVote v

theorem sound_after (history : List Write) : Sound (after history) := by
  induction history using List.reverseRecOn with
  | nil => exact sound_empty
  | append_singleton history w ih =>
    rw [after_append_singleton]
    exact ih.write w

/-- Different stored threads have different ids. -/
lemma Sound.nodup_ids {s : Store} (h : Sound s) : (s.threads.values.map Thread.id).Nodup := by
  have hkeys : s.threads.values.map Thread.id = s.threads.keys := by
    unfold Table.values Table.keys
    rw [List.map_map]
    refine List.map_congr_left ?_
    rintro ⟨k, t⟩ hr
    exact h.thread_id k t (Table.get?_eq_some_iff.mpr hr)
  rw [hkeys]
  exact s.threads.nodup_keys

/-- A thread is stored if a look-up of its id finds it. -/
lemma Sound.mem_values_iff {s : Store} (h : Sound s) {t : Thread} :
    t ∈ s.threads.values ↔ s.threads.get? t.id = some t := by
  rw [Table.mem_values]
  constructor
  · rintro ⟨k, hk⟩
    rwa [h.thread_id k t hk]
  · intro ht
    exact ⟨t.id, ht⟩

end Store

namespace Session

/-- The writes that a step of a session makes. -/
def Step.writes : Step → List Write
  | .author a => [.author a]
  | .tag t => [.tag t]
  | .thread t tagIds => [.thread t tagIds]
  | .collect user id time => [.collect user id time]
  | .vote v _ => [.vote v]
  | .applyVote v => [.vote v]
  | _ => []

lemma store_step (s : Session) (x : Step) :
    (s.step x).2.store = x.writes.foldl Store.write s.store := by
  cases x <;> rfl

/-- The store of a session is the one that the writes of its steps leave. -/
theorem store_run (s : Session) (steps : List Step) :
    (s.run steps).2.store = (steps.flatMap Step.writes).foldl Store.write s.store := by
  induction steps generalizing s with
  | nil => rfl
  | cons x steps ih =>
    rw [List.flatMap_cons, List.foldl_append, ← store_step]
    exact ih (s.step x).2

end Session

end ForumSearch
