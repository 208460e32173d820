import ForumSearch.Proofs.Store.Links
import ForumSearch.Proofs.Store.VotingRuns

/-!
# Independent writes

Writes of different things can be made in either order. Two votes on one tag share its counters, but
they add to them; only a vote and a write of its thread depend on each other, as the vote counts only
while the thread carries the tag.
-/

namespace ForumSearch

/-- Writes under different keys, or of different kinds. A vote depends on the tags of its thread. -/
def Write.Independent : Write → Write → Prop
  | .author a, .author b => a.id ≠ b.id
  | .tag a, .tag b => a.id ≠ b.id
  | .thread t _, .thread u _ => t.id ≠ u.id
  | .collect user id _, .collect user' id' _ => (user, id) ≠ (user', id')
  | .vote v, .vote w => (v.user, v.thread, v.tag) ≠ (w.user, w.thread, w.tag)
  | .vote v, .thread t _ => v.thread ≠ t.id
  | .thread t _, .vote v => v.thread ≠ t.id
  | _, _ => True

lemma Counters.add_right_comm (c a b : Counters) : (c.add a).add b = (c.add b).add a := by
  simp only [Counters.add, Counters.mk.injEq]
  omega

attribute [ext] Store

namespace Store

variable (s : Store)

/-- The vote that a ballot makes of the stored one. -/
def transition (v : Vote) : Transition :=
  Transition.plan ((s.votes.get? (v.user, v.thread, v.tag)).bind Ballot.ofInt?) v.ballot

lemma get?_links_vote (v : Vote) (k : Int × Int) :
    (s.applyVote v).2.links.get? k =
      if (v.thread, v.tag) = k then (s.links.get? k).map (·.add (s.transition v).change)
      else s.links.get? k := by
  cases h : s.links.get? (v.thread, v.tag) with
  | none =>
    rw [applyVote_of_unlinked h]
    by_cases hk : (v.thread, v.tag) = k
    · rw [if_pos hk, ← hk, h]
      rfl
    · rw [if_neg hk]
  | some c =>
    rw [get?_links_applyVote h]
    by_cases hk : (v.thread, v.tag) = k
    · rw [if_pos hk, if_pos hk, ← hk, h]
      rfl
    · rw [if_neg hk, if_neg hk]

/-- What a vote makes of the stored one does not depend on votes by others or on other tags. -/
lemma transition_applyVote {v w : Vote}
    (h : (v.user, v.thread, v.tag) ≠ (w.user, w.thread, w.tag)) :
    (s.applyVote v).2.transition w = s.transition w := by
  rw [transition, get?_votes_applyVote, if_neg fun hk => h hk.2, transition]

lemma vote_vote {v w : Vote} (h : (v.user, v.thread, v.tag) ≠ (w.user, w.thread, w.tag)) :
    ((s.applyVote v).2.applyVote w).2 = ((s.applyVote w).2.applyVote v).2 := by
  apply Store.ext
  case links =>
    apply Table.ext_get?
    intro k
    simp only [get?_links_vote, transition_applyVote s h, transition_applyVote s h.symm]
    by_cases hv : (v.thread, v.tag) = k
    · by_cases hw : (w.thread, w.tag) = k
      -- Two users vote on one tag: each change is added to what the other one left.
      · simp only [hv, hw, if_true, Option.map_map, Function.comp_def,
          Counters.add_right_comm]
      · simp only [hv, hw, if_true, if_false]
    · simp only [hv, if_false]
  case votes =>
    apply Table.ext_get?
    intro k
    simp only [get?_votes_applyVote, contains_links_applyVote]
    by_cases hv : (v.user, v.thread, v.tag) = k
    · have hw : (w.user, w.thread, w.tag) ≠ k := fun hw => h (hv.trans hw.symm)
      simp only [hw, and_false, if_false]
    · simp only [hv, and_false, if_false]
  all_goals simp only [applyVote_frame]

lemma vote_upsertThread {v : Vote} {t : Thread} (h : v.thread ≠ t.id) (tagIds : List Int) :
    ((s.upsertThread t tagIds).applyVote v).2 = (s.applyVote v).2.upsertThread t tagIds := by
  have hget (k : Int × Int) (hk : k.1 ≠ t.id) :
      (s.upsertThread t tagIds).links.get? k = s.links.get? k :=
    (relinked_upsertThread s t tagIds).otherLinks k hk
  apply Store.ext
  case links =>
    apply Table.ext_get?
    intro k
    have htransition : (s.upsertThread t tagIds).transition v = s.transition v := rfl
    rw [get?_links_vote, htransition]
    by_cases hk : k.1 = t.id
    · have hne : (v.thread, v.tag) ≠ k := fun heq => h ((congrArg Prod.fst heq).trans hk)
      rw [if_neg hne, upsertThread, upsertThread, get?_relink, get?_relink, get?_links_vote,
        if_neg hne]
    · rw [hget k hk, (relinked_upsertThread (s.applyVote v).2 t tagIds).otherLinks k hk,
        get?_links_vote]
  case votes =>
    apply Table.ext_get?
    intro k
    have hlinked : (s.upsertThread t tagIds).links.contains (v.thread, v.tag) =
        s.links.contains (v.thread, v.tag) := by
      rw [Table.contains, Table.contains, hget _ h]
    change _ = (s.applyVote v).2.votes.get? k
    rw [get?_votes_applyVote, get?_votes_applyVote, hlinked]
    rfl
  all_goals simp only [upsertThread, applyVote_frame]

/-- A write that neither looks at the links and votes nor changes them can be made on either side of
a vote. -/
lemma vote_other {f : Store → Store}
    (hf : ∀ s votes links, f { s with votes, links } = { f s with votes, links }) (v : Vote) :
    ((f s).applyVote v).2 = f (s.applyVote v).2 := by
  have hkept : f s = { f s with votes := s.votes, links := s.links } := hf s s.votes s.links
  have hlinks : (f s).links = s.links := by rw [hkept]
  have hvotes : (f s).votes = s.votes := by rw [hkept]
  cases hl : s.links.get? (v.thread, v.tag) with
  | none => rw [applyVote_of_unlinked hl, applyVote_of_unlinked (hlinks ▸ hl)]
  | some c =>
    rw [applyVote_of_linked hl, applyVote_of_linked (hlinks ▸ hl), hvotes, hlinks]
    exact (hf _ _ _).symm

lemma relink_comm (links : Table (Int × Int) Counters) {thread thread' : Int}
    (h : thread ≠ thread') (tagIds tagIds' : List Int) :
    relink (relink links thread tagIds) thread' tagIds' =
      relink (relink links thread' tagIds') thread tagIds := by
  apply Table.ext_get?
  intro k
  simp only [get?_relink]
  by_cases hk : k.1 = thread
  · have hk' : k.1 ≠ thread' := fun hk' => h (hk.symm.trans hk')
    simp only [hk, h, if_true, if_false]
  · simp only [hk, if_false]

variable {a b : Write}

/-- Independent writes leave the same store in either order. -/
theorem write_comm (h : a.Independent b) : (s.write a).write b = (s.write b).write a := by
  cases a with
  | author a =>
    cases b with
    | author b => exact congrArg ({ s with authors := · }) (s.authors.insert_comm h a b)
    | vote v => exact vote_other s (f := (·.upsertAuthor a)) (fun _ _ _ => rfl) v
    | tag _ | thread _ _ | collect _ _ _ => rfl
  | tag a =>
    cases b with
    | tag b => exact congrArg ({ s with tags := · }) (s.tags.insert_comm h a.name b.name)
    | vote v => exact vote_other s (f := (·.upsertTag a)) (fun _ _ _ => rfl) v
    | author _ | thread _ _ | collect _ _ _ => rfl
  | thread t tagIds =>
    cases b with
    | thread u tagIds' =>
      simp only [write, upsertThread]
      rw [s.threads.insert_comm h, s.contents.insert_comm h, relink_comm s.links h]
    | vote v => exact vote_upsertThread s h tagIds
    | author _ | tag _ | collect _ _ _ => rfl
  | collect user id time =>
    cases b with
    | collect user' id' time' =>
      exact congrArg ({ s with collections := · }) (s.collections.insert_comm h _ _)
    | vote v => exact vote_other s (f := (·.collect user id time)) (fun _ _ _ => rfl) v
    | author _ | tag _ | thread _ _ => rfl
  | vote v =>
    cases b with
    | author a => exact (vote_other s (f := (·.upsertAuthor a)) (fun _ _ _ => rfl) v).symm
    | tag a => exact (vote_other s (f := (·.upsertTag a)) (fun _ _ _ => rfl) v).symm
    | thread t tagIds => exact (vote_upsertThread s h tagIds).symm
    | collect user id time =>
      exact (vote_other s (f := (·.collect user id time)) (fun _ _ _ => rfl) v).symm
    | vote w => exact vote_vote s h

lemma foldl_write_comm {later : List Write} (h : ∀ b ∈ later, a.Independent b) :
    later.foldl write (s.write a) = (later.foldl write s).write a := by
  induction later generalizing s with
  | nil => rfl
  | cons b later ih =>
    rw [List.foldl_cons, List.foldl_cons, write_comm s (h b List.mem_cons_self)]
    exact ih _ fun c hc => h c (List.mem_cons_of_mem b hc)

/-- Two runs of writes can be made in either order if each write of one is independent of each write
of the other. -/
theorem after_append_comm (history : List Write) {xs ys : List Write}
    (h : ∀ x ∈ xs, ∀ y ∈ ys, x.Independent y) :
    after (history ++ xs ++ ys) = after (history ++ ys ++ xs) := by
  simp only [after, List.foldl_append]
  generalize history.foldl write empty = s
  induction xs generalizing s with
  | nil => rfl
  | cons x xs ih =>
    -- The first write of `xs` is moved behind the whole of `ys`.
    rw [List.foldl_cons, List.foldl_cons, ← foldl_write_comm s (h x List.mem_cons_self)]
    exact ih (fun x' hx' => h x' (List.mem_cons_of_mem x hx')) (s.write x)

/-- Stores that no read tells apart. What match expressions are compared with are the index rows. -/
structure SameAnswers (s s' : Store) : Prop where
  tags : s.loadTags = s'.loadTags
  links : ∀ thread, s.linksOf thread = s'.linksOf thread
  contents : ∀ thread, s.contents.get? thread = s'.contents.get? thread
  count : ∀ filter, s.count filter = s'.count filter
  page : ∀ filter order offset limit,
    s.page filter order offset limit = s'.page filter order offset limit
  fetch : ∀ ids, s.fetch ids = s'.fetch ids
  collected : ∀ user ids, s.collectedAmong user ids = s'.collectedAmong user ids
  ranked : ∀ filter tagIds, (s.rankRows filter tagIds).Perm (s'.rankRows filter tagIds)
  search : ∀ engine settings request now,
    Search.run (s.backend engine) settings request now =
      Search.run (s'.backend engine) settings request now
  stats : ∀ names thread,
    Voting.readStats voteBackend names thread s = Voting.readStats voteBackend names thread s'
  recorded : ∀ names v,
    (Voting.record voteBackend names v s).answer = (Voting.record voteBackend names v s').answer

lemma SameAnswers.refl : SameAnswers s s where
  tags := rfl
  links _ := rfl
  contents _ := rfl
  count _ := rfl
  page _ _ _ _ := rfl
  fetch _ := rfl
  collected _ _ := rfl
  ranked _ _ := List.Perm.refl _
  search _ _ _ _ := rfl
  stats _ _ := rfl
  recorded _ _ := rfl

/-- No read tells in which order two independent writes were made, whatever is written later. -/
theorem independent_writes_commute (history later : List Write) (h : a.Independent b) :
    SameAnswers (after (history ++ [a] ++ [b] ++ later)) (after (history ++ [b] ++ [a] ++ later)) := by
  have hpair : after (history ++ [a] ++ [b]) = after (history ++ [b] ++ [a]) := by
    refine after_append_comm history ?_
    intro x hx y hy
    rw [List.mem_singleton] at hx hy
    rwa [hx, hy]
  have hlater : after (history ++ [a] ++ [b] ++ later) = after (history ++ [b] ++ [a] ++ later) := by
    unfold after at hpair ⊢
    rw [List.foldl_append, hpair]
    exact List.foldl_append.symm
  rw [hlater]
  exact SameAnswers.refl _

/-- Votes of two users share the counters of one tag, and one of the votes is taken back later. -/
theorem independent_writes_commute_shared :
    let t : Thread := ⟨1, 1, 1, ['x'], ⟨0, 0⟩, ⟨0, 0⟩, 0, 0, none, [], 0⟩
    let history : List Write := [.thread t [10]]
    let a : Write := .vote ⟨7, 1, 10, .up⟩
    let b : Write := .vote ⟨8, 1, 10, .down⟩
    let later : List Write := [.vote ⟨7, 1, 10, .up⟩]
    a.Independent b ∧
      (after (history ++ [a] ++ [b] ++ later)).linksOf 1 = [⟨1, 10, ⟨0, 1⟩⟩] ∧
      SameAnswers (after (history ++ [a] ++ [b] ++ later))
        (after (history ++ [b] ++ [a] ++ later)) := by
  intro t history a b later
  have h : a.Independent b := by
    change ((7, 1, 10) : Int × Int × Int) ≠ (8, 1, 10)
    decide
  exact ⟨h, by decide, independent_writes_commute history later h⟩

end Store

end ForumSearch
