import ForumSearch.Proofs.Store.Links
import ForumSearch.Proofs.Store.VotingRuns

/-!
# Reading back what was written

What a history says last of a thread and of its author is what the store gives back of them,
whatever was written in between. The index holds the text of each written thread and no other text,
and only threads that were written have tags.
-/

namespace ForumSearch

/-- A thread with its times in whole seconds. -/
def Thread.inSeconds (t : Thread) : Thread :=
  { t with createdAt := ⟨t.createdAt.seconds, 0⟩, lastActiveAt := ⟨t.lastActiveAt.seconds, 0⟩ }

namespace Write

/-- What a write says of one thread: the thread and its tags. -/
def threadOf (id : Int) : Write → Option (Thread × List Int)
  | .thread t tagIds => if t.id = id then some (t, tagIds) else none
  | _ => none

def authorOf (id : Int) : Write → Option Author
  | .author a => if a.id = id then some a else none
  | _ => none

end Write

namespace Store

/-- What is said last in a history. -/
def last? {α : Type} (said : Write → Option α) (history : List Write) : Option α :=
  history.reverse.findSome? said

def lastThread? (history : List Write) (id : Int) : Option (Thread × List Int) :=
  last? (Write.threadOf id) history

def lastAuthor? (history : List Write) (id : Int) : Option Author :=
  last? (Write.authorOf id) history

lemma last?_concat {α : Type} (said : Write → Option α) (history : List Write) (w : Write) :
    last? said (history ++ [w]) = (said w).or (last? said history) := by
  rw [last?, List.reverse_concat, List.findSome?_cons]
  cases said w with
  | none => rfl
  | some a => rfl

lemma last?_concat_ite {α : Type} {said : Write → Option α} {w : Write} {p : Prop} [Decidable p]
    {a : α} (hw : said w = if p then some a else none) (history : List Write) :
    last? said (history ++ [w]) = if p then some a else last? said history := by
  rw [last?_concat, hw]
  by_cases hp : p
  · rw [if_pos hp, if_pos hp]
    rfl
  · rw [if_neg hp, if_neg hp]
    rfl

lemma lastThread?_thread (history : List Write) (t : Thread) (tagIds : List Int) (id : Int) :
    lastThread? (history ++ [.thread t tagIds]) id =
      if t.id = id then some (t, tagIds) else lastThread? history id :=
  last?_concat_ite rfl history

lemma lastAuthor?_author (history : List Write) (a : Author) (id : Int) :
    lastAuthor? (history ++ [.author a]) id =
      if a.id = id then some a else lastAuthor? history id :=
  last?_concat_ite rfl history

/-- The tables of a store hold what a history says last of each thread and author. -/
structure Recalls (history : List Write) (s : Store) : Prop where
  authors : ∀ id, s.authors.get? id = lastAuthor? history id
  threads : ∀ id, s.threads.get? id = (lastThread? history id).map fun x => x.1.inSeconds
  contents : ∀ id, s.contents.get? id =
    (lastThread? history id).map fun x => Index.segment (searchedText x.1)
  links : ∀ id tag, s.links.contains (id, tag) = true ↔
    ∃ x, lastThread? history id = some x ∧ tag ∈ x.2

lemma recalls_empty : Recalls [] empty where
  authors id := rfl
  threads id := rfl
  contents id := rfl
  links id tag := by simp [empty, Table.contains, lastThread?, last?]

lemma Recalls.upsertThread {history : List Write} {s : Store} (h : Recalls history s) (t : Thread)
    (tagIds : List Int) : Recalls (history ++ [.thread t tagIds]) (s.upsertThread t tagIds) where
  authors id := by
    rw [lastAuthor?, last?_concat]
    exact h.authors id
  threads id := by
    rw [lastThread?_thread, Store.upsertThread, Table.get?_insert]
    by_cases hid : t.id = id
    · rw [if_pos hid, if_pos hid]
      rfl
    · rw [if_neg hid, if_neg hid, h.threads]
  contents id := by
    rw [lastThread?_thread, Store.upsertThread, Table.get?_insert]
    by_cases hid : t.id = id
    · rw [if_pos hid, if_pos hid]
      rfl
    · rw [if_neg hid, if_neg hid, h.contents]
  links id tag := by
    rw [lastThread?_thread]
    by_cases hid : t.id = id
    · subst hid
      rw [if_pos rfl, ← mem_map_tag_linksOf, (relinked_upsertThread s t tagIds).listed]
      simp
    · rw [if_neg hid, ← h.links, Table.contains, Table.contains,
        (relinked_upsertThread s t tagIds).otherLinks _ (Ne.symm hid)]

lemma Recalls.of_last_eq {history history' : List Write} {s s' : Store} (h : Recalls history s)
    (hauthors : ∀ id, s'.authors.get? id = lastAuthor? history' id)
    (hlast : ∀ id, lastThread? history' id = lastThread? history id)
    (hthreads : s'.threads = s.threads) (hcontents : s'.contents = s.contents)
    (hlinks : ∀ k, s'.links.contains k = s.links.contains k) : Recalls history' s' where
  authors := hauthors
  threads id := by rw [hthreads, hlast, h.threads]
  contents id := by rw [hcontents, hlast, h.contents]
  links id tag := by rw [hlinks, hlast, h.links]

lemma Recalls.write {history : List Write} {s : Store} (h : Recalls history s) (w : Write) :
    Recalls (history ++ [w]) (s.write w) := by
  cases w with
  | author a =>
    refine h.of_last_eq ?_ (fun id => last?_concat _ history _) rfl rfl fun _ => rfl
    intro id
    rw [lastAuthor?_author, Store.write, upsertAuthor, Table.get?_insert, h.authors]
  | thread t tagIds => exact h.upsertThread t tagIds
  | vote v =>
    obtain ⟨hauthors, -, hthreads, hcontents, -⟩ := applyVote_frame s v
    refine h.of_last_eq ?_ (fun id => last?_concat _ history _) hthreads hcontents
      (contains_links_applyVote s v)
    intro id
    rw [Store.write, hauthors, lastAuthor?, last?_concat]
    exact h.authors id
  | tag _ | collect _ _ _ =>
    refine h.of_last_eq ?_ (fun id => last?_concat _ history _) rfl rfl fun _ => rfl
    intro id
    rw [lastAuthor?, last?_concat]
    exact h.authors id

theorem recalls_after (history : List Write) : Recalls history (after history) := by
  induction history using List.reverseRecOn with
  | nil => exact recalls_empty
  | append_singleton history w ih =>
    rw [after_append_singleton]
    exact ih.write w

lemma lastThread?_id {history : List Write} {id : Int} {x : Thread × List Int}
    (h : lastThread? history id = some x) : x.1.id = id := by
  obtain ⟨w, -, hw⟩ := List.exists_of_findSome?_eq_some h
  cases w with
  | thread t tagIds =>
    obtain ⟨hid, hx⟩ := Option.ite_none_right_eq_some.mp hw
    obtain rfl := Option.some.inj hx
    exact hid
  | author _ | tag _ | collect _ _ _ | vote _ => exact absurd hw (by simp [Write.threadOf])

end Store

end ForumSearch
