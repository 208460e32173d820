import ForumSearch.Proofs.Store.VoteCounters

/-!
# One vote

What one vote does to any store, also to one that no history leaves: its counters may disagree with
its votes, and stored votes may be other numbers than one and minus one. A vote moves the counters of
its link as it moves the stored votes, so whatever the counters missed before they miss after it.
-/

namespace ForumSearch

lemma outcome_plan (old : Option Ballot) (b : Ballot) :
    (Transition.plan old b).outcome = if old = some b then none else some b := by
  cases old with
  | none => rfl
  | some a =>
    by_cases h : a = b
    · simp [Transition.plan, Transition.outcome, h]
    · simp [Transition.plan, Transition.outcome, h]

namespace Store

/-- The vote of a user on a tag of a thread. Numbers other than one and minus one are no votes. -/
def voteOf (s : Store) (user thread tag : Int) : Option Ballot :=
  if s.votes.get? (user, thread, tag) = some 1 then some .up
  else if s.votes.get? (user, thread, tag) = some (-1) then some .down
  else none

lemma bind_ofInt?_eq_voteOf (s : Store) (user thread tag : Int) :
    (s.votes.get? (user, thread, tag)).bind Ballot.ofInt? = s.voteOf user thread tag := by
  unfold voteOf
  cases s.votes.get? (user, thread, tag) with
  | none => rfl
  | some n => simp only [Option.bind_some, Ballot.ofInt?, Option.some.injEq]

/-- No vote makes or takes away a link. -/
lemma contains_links_applyVote (s : Store) (v : Vote) (k : Int × Int) :
    (s.applyVote v).2.links.contains k = s.links.contains k := by
  cases hl : s.links.get? (v.thread, v.tag) with
  | none => rw [applyVote_of_unlinked hl]
  | some c =>
    rw [Table.contains, Table.contains, get?_links_applyVote hl]
    by_cases hk : (v.thread, v.tag) = k
    · simp [← hk, hl]
    · rw [if_neg hk]

/-- A vote touches the stored vote of its own user on its own tag, if that tag is linked. -/
lemma get?_votes_applyVote (s : Store) (v : Vote) (k : Int × Int × Int) :
    (s.applyVote v).2.votes.get? k =
      if s.links.contains (v.thread, v.tag) = true ∧ (v.user, v.thread, v.tag) = k then
        (Transition.plan ((s.votes.get? k).bind Ballot.ofInt?) v.ballot).outcome.map Ballot.toInt
      else s.votes.get? k := by
  cases hl : s.links.get? (v.thread, v.tag) with
  | none =>
    rw [applyVote_of_unlinked hl, Table.not_contains_iff.mpr hl]
    simp
  | some c =>
    rw [applyVote_of_linked hl, Table.contains_iff.mpr ⟨c, hl⟩]
    simp only [get?_putVote, true_and]
    by_cases hk : (v.user, v.thread, v.tag) = k
    · rw [if_pos hk, if_pos hk.symm, hk]
    · rw [if_neg hk, if_neg (Ne.symm hk)]

/-- What a vote with a given transition changes and what it leaves alone. The stored vote and the
counters follow the transition; all other votes and links and all other tables are as before. -/
structure Voted (v : Vote) (t : Transition) (s s' : Store) : Prop where
  vote : s'.votes.get? (v.user, v.thread, v.tag) = t.outcome.map Ballot.toInt
  counters : ∀ c, s.links.get? (v.thread, v.tag) = some c →
    s'.links.get? (v.thread, v.tag) = some (c.add t.change)
  otherVotes : ∀ k, k ≠ (v.user, v.thread, v.tag) → s'.votes.get? k = s.votes.get? k
  otherLinks : ∀ k, k ≠ (v.thread, v.tag) → s'.links.get? k = s.links.get? k
  authors : s'.authors = s.authors
  tags : s'.tags = s.tags
  threads : s'.threads = s.threads
  contents : s'.contents = s.contents
  collections : s'.collections = s.collections

variable {s : Store} {v : Vote}

lemma applyVote_eq_none_iff :
    (s.applyVote v).1 = none ↔ s.links.contains (v.thread, v.tag) = false := by
  rw [Table.not_contains_iff]
  cases hl : s.links.get? (v.thread, v.tag) with
  | none => simp [applyVote_of_unlinked hl]
  | some c => simp [applyVote_of_linked hl]

lemma applyVote_planned (h : s.links.contains (v.thread, v.tag) = true) :
    (s.applyVote v).1 = some (Transition.plan (s.voteOf v.user v.thread v.tag) v.ballot) := by
  obtain ⟨c, hc⟩ := Table.contains_iff.mp h
  rw [applyVote_of_linked hc, ← bind_ofInt?_eq_voteOf]

lemma voted_applyVote (h : s.links.contains (v.thread, v.tag) = true) :
    Voted v (Transition.plan (s.voteOf v.user v.thread v.tag) v.ballot) s (s.applyVote v).2 := by
  obtain ⟨c, hc⟩ := Table.contains_iff.mp h
  obtain ⟨hauthors, htags, hthreads, hcontents, hcollections⟩ := applyVote_frame s v
  refine ⟨?_, ?_, ?_, ?_, hauthors, htags, hthreads, hcontents, hcollections⟩
  · rw [get?_votes_applyVote, if_pos ⟨h, rfl⟩, bind_ofInt?_eq_voteOf]
  · intro d hd
    rw [get?_links_applyVote hd, if_pos rfl, bind_ofInt?_eq_voteOf]
  · intro k hk
    rw [get?_votes_applyVote, if_neg fun hkey => hk hkey.2.symm]
  · intro k hk
    rw [get?_links_applyVote hc, if_neg (Ne.symm hk)]

/-- What the counters of a link have more or less than the stored votes, a vote leaves as it is. -/
lemma sub_votesStored_applyVote (s : Store) (v : Vote) {thread tag : Int} {c c' : Counters}
    (h : s.links.get? (thread, tag) = some c)
    (h' : (s.applyVote v).2.links.get? (thread, tag) = some c') :
    c'.up - (s.applyVote v).2.votesStored thread tag 1 = c.up - s.votesStored thread tag 1 ∧
      c'.down - (s.applyVote v).2.votesStored thread tag (-1) =
        c.down - s.votesStored thread tag (-1) := by
  have hkept := counters_kept (w := .vote v) h h'
  simp only [write, Counters.add, tally, Counters.mk.injEq] at hkept
  constructor <;> omega

/-- In every store a vote is answered by nothing if its tag is not linked, and then does nothing. Else
the answer is the transition planned from the stored vote of the user, and only that vote and the
counters of the tag change. No link is made or taken away, and the counters of each miss or exceed the
stored votes as they did before; there is at most one vote of a user on a tag of a thread, and votes
of one and minus one stay such votes. -/
theorem applyVote_step (s : Store) (v : Vote) :
    let s' := (s.applyVote v).2
    let planned := Transition.plan (s.voteOf v.user v.thread v.tag) v.ballot
    ((s.applyVote v).1 = none ↔ s.links.contains (v.thread, v.tag) = false) ∧
      (s.links.contains (v.thread, v.tag) = false → s' = s) ∧
      (s.links.contains (v.thread, v.tag) = true →
        (s.applyVote v).1 = some planned ∧ Voted v planned s s') ∧
      (∀ k, s'.links.contains k = s.links.contains k) ∧
      (∀ thread tag c c', s.links.get? (thread, tag) = some c →
        s'.links.get? (thread, tag) = some c' →
          c'.up - s'.votesStored thread tag 1 = c.up - s.votesStored thread tag 1 ∧
          c'.down - s'.votesStored thread tag (-1) = c.down - s.votesStored thread tag (-1)) ∧
      (∀ user thread tag,
        (s'.votes.rows.filter fun r => r.1 = (user, thread, tag)).length ≤ 1) ∧
      ((∀ k n, s.votes.get? k = some n → n = 1 ∨ n = -1) →
        ∀ k n, s'.votes.get? k = some n → n = 1 ∨ n = -1) := by
  intro s' planned
  refine ⟨applyVote_eq_none_iff, ?_, fun h => ⟨applyVote_planned h, voted_applyVote h⟩,
    contains_links_applyVote s v, ?_, ?_, fun h => ballot_applyVote h v⟩
  · intro h
    exact congrArg Prod.snd (applyVote_of_unlinked (Table.not_contains_iff.mp h))
  · intro thread tag c c' h h'
    exact sub_votesStored_applyVote s v h h'
  · intro user thread tag
    rw [Table.filter_key_rows]
    cases s'.votes.get? (user, thread, tag) with
    | none => exact zero_le_one
    | some n => exact le_rfl

/-- Five upvotes are counted where one is stored, and fewer than no downvotes where one is stored. The
user of the upvote takes it back, and votes on a tag that is not linked. -/
theorem applyVote_step_disagreeing :
    let s : Store := { empty with
      links := .ofList [((1, 10), ⟨5, -2⟩), ((1, 20), ⟨0, 3⟩)]
      votes := .ofList [((7, 1, 10), 1), ((8, 1, 10), -1)] }
    let s' := (s.applyVote ⟨7, 1, 10, .up⟩).2
    s.links.contains (1, 10) = true ∧ s.links.get? (1, 10) = some ⟨5, -2⟩ ∧
      s'.links.get? (1, 10) = some ⟨4, -2⟩ ∧
      (∀ k n, s.votes.get? k = some n → n = 1 ∨ n = -1) ∧
      (s.applyVote ⟨7, 1, 10, .up⟩).1 = some (.retracted .up) ∧
      Voted ⟨7, 1, 10, .up⟩ (.retracted .up) s s' ∧
      (4 : Int) - s'.votesStored 1 10 1 = 5 - s.votesStored 1 10 1 ∧
      (∀ k n, s'.votes.get? k = some n → n = 1 ∨ n = -1) ∧
      s.links.contains (1, 30) = false ∧ (s.applyVote ⟨7, 1, 30, .up⟩).2 = s := by
  intro s s'
  have hlink : s.links.contains (1, 10) = true := by decide
  have hunlinked : s.links.contains (1, 30) = false := by decide
  have hcounters : s.links.get? (1, 10) = some ⟨5, -2⟩ := by decide
  have hcounters' : s'.links.get? (1, 10) = some ⟨4, -2⟩ := by decide
  have hballots : ∀ k n, s.votes.get? k = some n → n = 1 ∨ n = -1 := by
    intro k n hn
    have hrow : (k, n) ∈ [(((7, 1, 10) : Int × Int × Int), (1 : Int)), ((8, 1, 10), -1)] :=
      Table.get?_eq_some_iff.mp hn
    simp only [List.mem_cons, Prod.mk.injEq, List.not_mem_nil, or_false] at hrow
    exact hrow.imp And.right And.right
  obtain ⟨-, -, hvoted, -, hdifference, -, hkept⟩ := applyVote_step s ⟨7, 1, 10, .up⟩
  obtain ⟨-, hnothing, -⟩ := applyVote_step s ⟨7, 1, 30, .up⟩
  exact ⟨hlink, hcounters, hcounters', hballots, (hvoted hlink).1, (hvoted hlink).2,
    (hdifference 1 10 _ _ hcounters hcounters').1, hkept hballots, hunlinked, hnothing hunlinked⟩

/-- A stored three is no vote. -/
example :
    let s : Store := { empty with
      links := .ofList [((1, 10), .zero)]
      votes := .ofList [((7, 1, 10), 3)] }
    (s.applyVote ⟨7, 1, 10, .up⟩).1 = some (.created .up) := by
  decide

end Store

end ForumSearch
