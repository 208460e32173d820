import ForumSearch.Proofs.Store.VoteStep

/-!
# Runs of votes

What a run of votes leaves where nothing was voted before. The vote of a user on a linked tag is
decided by the user's last equal ballots on it: it stands when their number is odd. The counters of
the tag count the users whose votes stand, however the votes of different users are mixed.
-/

namespace ForumSearch

/-- The number of ballots of one kind at the end of a list. -/
def finalRun (b : Ballot) (ballots : List Ballot) : Nat :=
  (ballots.rtakeWhile (· = b)).length

/-- What stands of a user's vote on a tag after some ballots. -/
def standing (ballots : List Ballot) : Option Ballot :=
  ballots.foldl (fun old b => (Transition.plan old b).outcome) none

lemma finalRun_concat (b a : Ballot) (ballots : List Ballot) :
    finalRun b (ballots ++ [a]) = if a = b then finalRun b ballots + 1 else 0 := by
  unfold finalRun
  rw [List.rtakeWhile_concat]
  by_cases h : a = b
  · simp [h]
  · simp [h]

lemma standing_concat (ballots : List Ballot) (a : Ballot) :
    standing (ballots ++ [a]) = if standing ballots = some a then none else some a := by
  rw [standing, List.foldl_append]
  exact outcome_plan (standing ballots) a

/-- A vote stands after an odd number of equal ballots at the end, and only then. -/
lemma standing_eq_some_iff (b : Ballot) (ballots : List Ballot) :
    standing ballots = some b ↔ Odd (finalRun b ballots) := by
  induction ballots using List.reverseRecOn with
  | nil => simp [standing, finalRun]
  | append_singleton ballots a ih =>
    rw [standing_concat, finalRun_concat]
    by_cases hab : a = b
    · subst hab
      rw [if_pos rfl, Nat.odd_add_one, ← ih]
      by_cases h : standing ballots = some a
      · simp [h]
      · simp [h]
    · rw [if_neg hab]
      by_cases h : standing ballots = some a
      · simp [h]
      · simp [h, hab]

lemma Ballot.ofInt?_toInt (b : Ballot) : Ballot.ofInt? b.toInt = some b := by
  cases b <;> rfl

lemma Ballot.toInt_eq_some_iff (o : Option Ballot) (b : Ballot) :
    o.map Ballot.toInt = some b.toInt ↔ o = some b := by
  rcases o with - | a
  · simp
  · cases a <;> cases b <;> decide

namespace Store

/-- The store after votes that are cast one after the other. -/
def afterVotes (s : Store) (votes : List Vote) : Store :=
  votes.foldl (fun s v => (s.applyVote v).2) s

/-- The ballots of one user on a tag of a thread. -/
def ballotsOf (votes : List Vote) (user thread tag : Int) : List Ballot :=
  (votes.filter fun v => (v.user, v.thread, v.tag) = (user, thread, tag)).map (·.ballot)

@[simp] lemma afterVotes_concat (s : Store) (votes : List Vote) (v : Vote) :
    s.afterVotes (votes ++ [v]) = ((s.afterVotes votes).applyVote v).2 := by
  simp [afterVotes, List.foldl_append]

lemma ballotsOf_concat (votes : List Vote) (v : Vote) (user thread tag : Int) :
    ballotsOf (votes ++ [v]) user thread tag =
      if (v.user, v.thread, v.tag) = (user, thread, tag) then
        ballotsOf votes user thread tag ++ [v.ballot]
      else ballotsOf votes user thread tag := by
  unfold ballotsOf
  rw [List.filter_append, List.map_append, List.filter_singleton]
  by_cases h : (v.user, v.thread, v.tag) = (user, thread, tag)
  · rw [if_pos h, decide_eq_true h]
    rfl
  · rw [if_neg h, decide_eq_false h]
    exact List.append_nil _

lemma contains_links_afterVotes (s : Store) (votes : List Vote) (k : Int × Int) :
    (s.afterVotes votes).links.contains k = s.links.contains k := by
  induction votes using List.reverseRecOn with
  | nil => rfl
  | append_singleton votes v ih => rw [afterVotes_concat, contains_links_applyVote, ih]

/-- Along a run of votes the stored vote of each user is what stands of the user's ballots. -/
lemma get?_votes_afterVotes {s : Store} (hvotes : ∀ k, s.votes.get? k = none) (votes : List Vote)
    {thread tag : Int} (hlink : s.links.contains (thread, tag) = true) (user : Int) :
    (s.afterVotes votes).votes.get? (user, thread, tag) =
      (standing (ballotsOf votes user thread tag)).map Ballot.toInt := by
  induction votes using List.reverseRecOn with
  | nil => exact hvotes _
  | append_singleton votes v ih =>
    rw [afterVotes_concat, get?_votes_applyVote, contains_links_afterVotes, ballotsOf_concat, ih]
    by_cases hk : (v.user, v.thread, v.tag) = (user, thread, tag)
    · have hpair : (v.thread, v.tag) = (thread, tag) := congrArg Prod.snd hk
      have hbind : ((standing (ballotsOf votes user thread tag)).map Ballot.toInt).bind
          Ballot.ofInt? = standing (ballotsOf votes user thread tag) := by
        cases standing (ballotsOf votes user thread tag) with
        | none => rfl
        | some b => exact Ballot.ofInt?_toInt b
      rw [if_pos ⟨hpair ▸ hlink, hk⟩, if_pos hk, hbind, outcome_plan, standing_concat]
    · rw [if_neg fun h => hk h.2, if_neg hk]

/-- Along a run of votes the counters of a link move as the stored votes on its tag do. -/
lemma counters_afterVotes {s : Store} (votes : List Vote) {thread tag : Int} {c : Counters}
    (h : s.links.get? (thread, tag) = some c) :
    ∃ c', (s.afterVotes votes).links.get? (thread, tag) = some c' ∧
      c'.add (s.tally thread tag) = c.add ((s.afterVotes votes).tally thread tag) := by
  induction votes using List.reverseRecOn with
  | nil => exact ⟨c, h, rfl⟩
  | append_singleton votes v ih =>
    obtain ⟨d, hd, hadd⟩ := ih
    have hlinked : (s.afterVotes (votes ++ [v])).links.contains (thread, tag) = true := by
      rw [contains_links_afterVotes]
      exact Table.contains_iff.mpr ⟨c, h⟩
    obtain ⟨c', hc'⟩ := Table.contains_iff.mp hlinked
    refine ⟨c', hc', ?_⟩
    rw [afterVotes_concat] at hc' ⊢
    have hkept := counters_kept (w := .vote v) hd hc'
    simp only [write, Counters.add, tally, Counters.mk.injEq] at hadd hkept ⊢
    constructor <;> omega

/-- The stored votes of one value on a tag are those of as many users. -/
lemma votesStored_eq_ncard (s : Store) (thread tag value : Int) :
    {user | s.votes.get? (user, thread, tag) = some value}.Finite ∧
      s.votesStored thread tag value =
        {user | s.votes.get? (user, thread, tag) = some value}.ncard := by
  set rows := s.votes.rows.filter fun r => r.1.2 = (thread, tag) ∧ r.2 = value with hrows
  have hmem (r : (Int × Int × Int) × Int) (hr : r ∈ rows) :
      r ∈ s.votes.rows ∧ r.1.2 = (thread, tag) ∧ r.2 = value := by
    simpa [hrows] using hr
  have hnodup : (rows.map fun r => r.1.1).Nodup := by
    refine List.Nodup.map_on ?_ (s.votes.nodup_rows.filter _)
    intro r hr r' hr' huser
    obtain ⟨-, hpair, hvalue⟩ := hmem r hr
    obtain ⟨-, hpair', hvalue'⟩ := hmem r' hr'
    exact Prod.ext (Prod.ext huser (hpair.trans hpair'.symm)) (hvalue.trans hvalue'.symm)
  have husers : {user | s.votes.get? (user, thread, tag) = some value} =
      ((rows.map fun r => r.1.1).toFinset : Set Int) := by
    ext user
    simp only [Set.mem_ofPred_eq, Table.get?_eq_some_iff, List.coe_toFinset, List.mem_map]
    constructor
    · intro hrow
      exact ⟨((user, thread, tag), value), by simpa [hrows] using hrow, rfl⟩
    · rintro ⟨⟨⟨user', pair⟩, n⟩, hr, rfl⟩
      obtain ⟨hr, hpair, hvalue⟩ := hmem _ hr
      dsimp only at hpair hvalue ⊢
      rwa [hpair, hvalue] at hr
  rw [husers]
  refine ⟨Finset.finite_toSet _, ?_⟩
  rw [Set.ncard_coe_finset, List.toFinset_card_of_nodup hnodup, List.length_map, votesStored,
    List.countP_eq_length_filter]

section Fresh

variable {s : Store} (hvotes : ∀ k, s.votes.get? k = none) (votes : List Vote) {thread tag : Int}

include hvotes

lemma stored_afterVotes_iff (hlink : s.links.contains (thread, tag) = true) (user : Int)
    (b : Ballot) :
    (s.afterVotes votes).votes.get? (user, thread, tag) = some b.toInt ↔
      Odd (finalRun b (ballotsOf votes user thread tag)) := by
  rw [get?_votes_afterVotes hvotes votes hlink, Ballot.toInt_eq_some_iff, standing_eq_some_iff]

lemma not_stored_afterVotes (hlink : s.links.contains (thread, tag) = true) (user : Int)
    (hnone : ∀ b, ¬Odd (finalRun b (ballotsOf votes user thread tag))) :
    (s.afterVotes votes).votes.get? (user, thread, tag) = none := by
  have hstanding : standing (ballotsOf votes user thread tag) = none := by
    rw [Option.eq_none_iff_forall_ne_some]
    intro b hb
    exact hnone b ((standing_eq_some_iff b _).mp hb)
  rw [get?_votes_afterVotes hvotes votes hlink, hstanding]
  rfl

/-- As many votes are stored on a linked tag as users end in an odd run. -/
lemma votesStored_afterVotes (hlink : s.links.contains (thread, tag) = true) (b : Ballot) :
    {user | Odd (finalRun b (ballotsOf votes user thread tag))}.Finite ∧
      (s.afterVotes votes).votesStored thread tag b.toInt =
        {user | Odd (finalRun b (ballotsOf votes user thread tag))}.ncard := by
  have husers : {user | (s.afterVotes votes).votes.get? (user, thread, tag) = some b.toInt} =
      {user | Odd (finalRun b (ballotsOf votes user thread tag))} := by
    ext user
    exact stored_afterVotes_iff hvotes votes hlink user b
  rw [← husers]
  exact votesStored_eq_ncard _ thread tag b.toInt

/-- Counters that start from zero are the numbers of stored votes. -/
lemma counters_afterVotes_eq_tally (h : s.links.get? (thread, tag) = some .zero) :
    (s.afterVotes votes).links.get? (thread, tag) =
      some ((s.afterVotes votes).tally thread tag) := by
  obtain ⟨c, hc, hadd⟩ := counters_afterVotes votes h
  have hempty (value : Int) : s.votesStored thread tag value = 0 := by
    rw [(votesStored_eq_ncard s thread tag value).2]
    simp [hvotes]
  have hcount : c.up = (s.afterVotes votes).votesStored thread tag 1 ∧
      c.down = (s.afterVotes votes).votesStored thread tag (-1) := by
    simpa [Counters.add, Counters.zero, tally, hempty] using hadd
  rw [hc, tally, ← hcount.1, ← hcount.2]

end Fresh

/-- Where no vote is stored and all counters are zero, a run of votes by any users leaves on each
linked tag the votes of the users whose final run of equal ballots is odd, and counters that count
them. A vote on a tag that is not linked is answered by nothing and does nothing. -/
theorem afterVotes_of_unvoted (s : Store) (votes : List Vote)
    (hvotes : ∀ k, s.votes.get? k = none)
    (hcounters : ∀ k c, s.links.get? k = some c → c = .zero) :
    (∀ thread tag, s.links.contains (thread, tag) = true →
      (∀ user,
        (∀ b, Odd (finalRun b (ballotsOf votes user thread tag)) →
          (s.afterVotes votes).votes.get? (user, thread, tag) = some b.toInt) ∧
        ((∀ b, ¬Odd (finalRun b (ballotsOf votes user thread tag))) →
          (s.afterVotes votes).votes.get? (user, thread, tag) = none)) ∧
      (∀ b, {user | Odd (finalRun b (ballotsOf votes user thread tag))}.Finite) ∧
      (s.afterVotes votes).links.get? (thread, tag) = some
        ⟨{user | Odd (finalRun .up (ballotsOf votes user thread tag))}.ncard,
          {user | Odd (finalRun .down (ballotsOf votes user thread tag))}.ncard⟩) ∧
    ∀ before v after, votes = before ++ v :: after →
      s.links.contains (v.thread, v.tag) = false →
        (s.afterVotes before).applyVote v = (none, s.afterVotes before) := by
  constructor
  · intro thread tag hlink
    refine ⟨fun user => ⟨?_, ?_⟩, ?_, ?_⟩
    · intro b
      exact (stored_afterVotes_iff hvotes votes hlink user b).mpr
    · exact not_stored_afterVotes hvotes votes hlink user
    · intro b
      exact (votesStored_afterVotes hvotes votes hlink b).1
    · obtain ⟨c, hc⟩ := Table.contains_iff.mp hlink
      obtain rfl := hcounters _ _ hc
      rw [counters_afterVotes_eq_tally hvotes votes hc,
        ← (votesStored_afterVotes hvotes votes hlink .up).2,
        ← (votesStored_afterVotes hvotes votes hlink .down).2]
      rfl
  · rintro before v after - hlink
    refine applyVote_of_unlinked (Table.not_contains_iff.mp ?_)
    rw [contains_links_afterVotes, hlink]

/-- One user votes up three times in a row, another switches to down, and a third votes on a tag
that the thread does not carry. -/
theorem afterVotes_of_unvoted_mixed :
    let t : Thread := ⟨1, 1, 1, ['a'], ⟨0, 0⟩, ⟨0, 0⟩, 0, 0, none, [], 0⟩
    let s := after [.thread t [10]]
    let votes : List Vote := [⟨7, 1, 10, .up⟩, ⟨8, 1, 10, .up⟩, ⟨7, 1, 10, .up⟩, ⟨9, 1, 11, .up⟩,
      ⟨8, 1, 10, .down⟩, ⟨7, 1, 10, .up⟩]
    (∀ k, s.votes.get? k = none) ∧ (∀ k c, s.links.get? k = some c → c = .zero) ∧
      s.links.contains (1, 10) = true ∧
      Odd (finalRun .up (ballotsOf votes 7 1 10)) ∧
      (s.afterVotes votes).votes.get? (7, 1, 10) = some 1 ∧
      Odd (finalRun .down (ballotsOf votes 8 1 10)) ∧
      (s.afterVotes votes).votes.get? (8, 1, 10) = some (-1) ∧
      (s.afterVotes votes).links.get? (1, 10) = some
        ⟨{user | Odd (finalRun .up (ballotsOf votes user 1 10))}.ncard,
          {user | Odd (finalRun .down (ballotsOf votes user 1 10))}.ncard⟩ ∧
      s.links.contains (1, 11) = false ∧
      (s.afterVotes (votes.take 3)).applyVote ⟨9, 1, 11, .up⟩ =
        (none, s.afterVotes (votes.take 3)) := by
  intro t s votes
  have hvotes : ∀ k, s.votes.get? k = none := fun _ => rfl
  have hcounters : ∀ k c, s.links.get? k = some c → c = .zero := by
    intro k c hc
    have hrow : (k, c) ∈ [(((1, 10) : Int × Int), Counters.zero)] := Table.get?_eq_some_iff.mp hc
    exact congrArg Prod.snd (List.mem_singleton.mp hrow)
  obtain ⟨hlinked, hunlinked⟩ := afterVotes_of_unvoted s votes hvotes hcounters
  obtain ⟨hstored, -, hcount⟩ := hlinked 1 10 (by decide)
  have hup : Odd (finalRun .up (ballotsOf votes 7 1 10)) := by decide
  have hdown : Odd (finalRun .down (ballotsOf votes 8 1 10)) := by decide
  exact ⟨hvotes, hcounters, by decide, hup, (hstored 7).1 .up hup, hdown,
    (hstored 8).1 .down hdown, hcount, by decide, hunlinked _ _ _ rfl (by decide)⟩

end Store

end ForumSearch
