import ForumSearch.Proofs.Store.History

/-!
# Vote counters

The counters of a link move together with the votes that are stored for its tag, so what they miss
is what was stored when the link was made. A tag that is taken off a thread loses its counters but
not its votes: put back, it starts from zero with the old votes still stored.
-/

namespace ForumSearch.Store

/-- The number of stored votes of one value on a tag of a thread. -/
def votesStored (s : Store) (thread tag value : Int) : Nat :=
  s.votes.rows.countP fun r => r.1.2 = (thread, tag) ∧ r.2 = value

def tally (s : Store) (thread tag : Int) : Counters :=
  ⟨s.votesStored thread tag 1, s.votesStored thread tag (-1)⟩

/-- The vote of one user counts apart from those of all others. -/
lemma votesStored_eq_erase (s : Store) (user th tg thread tag value : Int) :
    s.votesStored thread tag value =
      (if (th, tg) = (thread, tag) ∧ s.votes.get? (user, th, tg) = some value then 1 else 0) +
        { s with votes := s.votes.erase (user, th, tg) }.votesStored thread tag value := by
  unfold votesStored
  cases h : s.votes.get? (user, th, tg) with
  | none => simp [Table.erase_of_get?_eq_none h]
  | some n =>
    rw [(Table.rows_perm_of_get? h).countP_eq, List.countP_cons, Nat.add_comm]
    simp

/-- A transition adds to each counter what it adds to the stored votes. -/
lemma change_eq (stored : Option Int) (b : Ballot) :
    let t := Transition.plan (stored.bind Ballot.ofInt?) b
    t.change.up + (if stored = some 1 then 1 else 0) =
        (if t.outcome.map Ballot.toInt = some 1 then 1 else 0) ∧
      t.change.down + (if stored = some (-1) then 1 else 0) =
        (if t.outcome.map Ballot.toInt = some (-1) then 1 else 0) := by
  by_cases hu : stored = some 1
  · subst hu
    cases b <;> decide
  by_cases hd : stored = some (-1)
  · subst hd
    cases b <;> decide
  have hnone : stored.bind Ballot.ofInt? = none := by
    cases stored with
    | none => rfl
    | some n =>
      have h1 : n ≠ 1 := fun h => hu (by rw [h])
      have h2 : n ≠ -1 := fun h => hd (by rw [h])
      simp [Ballot.ofInt?, h1, h2]
  rw [hnone]
  simp only [hu, hd, if_false]
  cases b <;> decide

/-- A vote on a linked tag changes the stored votes of that tag as it changes the counters, and
those of no other tag. -/
lemma tally_applyVote {s : Store} {v : Vote} {c : Counters}
    (h : s.links.get? (v.thread, v.tag) = some c) (thread tag : Int) :
    (s.applyVote v).2.tally thread tag =
      if (v.thread, v.tag) = (thread, tag) then
        (s.tally thread tag).add (Transition.plan
          ((s.votes.get? (v.user, v.thread, v.tag)).bind Ballot.ofInt?) v.ballot).change
      else s.tally thread tag := by
  set key := (v.user, v.thread, v.tag) with hkey
  set t := Transition.plan ((s.votes.get? key).bind Ballot.ofInt?) v.ballot with ht
  set s' := (s.applyVote v).2 with hs'
  have hvotes : s'.votes = putVote s.votes key t.outcome := by rw [hs', applyVote_of_linked h]
  have hget : s'.votes.get? key = t.outcome.map Ballot.toInt := by
    rw [hvotes, get?_putVote, if_pos rfl]
  have hrest (value : Int) : { s' with votes := s'.votes.erase key }.votesStored thread tag value =
      { s with votes := s.votes.erase key }.votesStored thread tag value := by
    simp only [votesStored, hvotes, erase_putVote]
  have hold (value : Int) := s.votesStored_eq_erase v.user v.thread v.tag thread tag value
  have hnew (value : Int) := s'.votesStored_eq_erase v.user v.thread v.tag thread tag value
  rw [← hkey] at hold hnew
  simp only [hrest, hget] at hnew
  have hchange := change_eq (s.votes.get? key) v.ballot
  rw [← ht] at hchange
  unfold tally
  by_cases hp : (v.thread, v.tag) = (thread, tag)
  · rw [if_pos hp]
    simp only [hp, true_and] at hold hnew
    have hu := hchange.1
    have hd := hchange.2
    simp only [Counters.add, Counters.mk.injEq, hold, hnew]
    push_cast
    constructor <;> omega
  · rw [if_neg hp]
    simp only [hp, false_and, if_false] at hold hnew
    simp only [hold, hnew]

lemma tally_congr {s s' : Store} (h : s'.votes = s.votes) (thread tag : Int) :
    s'.tally thread tag = s.tally thread tag := by
  simp only [tally, votesStored, h]

lemma get?_links_applyVote {s : Store} {v : Vote} {c : Counters}
    (h : s.links.get? (v.thread, v.tag) = some c) (k : Int × Int) :
    (s.applyVote v).2.links.get? k =
      if (v.thread, v.tag) = k then
        some (c.add (Transition.plan
          ((s.votes.get? (v.user, v.thread, v.tag)).bind Ballot.ofInt?) v.ballot).change)
      else s.links.get? k := by
  rw [applyVote_of_linked h]
  exact Table.get?_insert _ _ _ _

/-- A new link starts from zero, and no vote is cast by making it. -/
lemma counters_made {s : Store} {w : Write} {thread tag : Int} {c : Counters}
    (h : s.links.get? (thread, tag) = none)
    (hw : (s.write w).links.get? (thread, tag) = some c) :
    c = .zero ∧ (s.write w).tally thread tag = s.tally thread tag := by
  cases w with
  | author a => exact absurd (h.symm.trans hw) (by simp)
  | tag t => exact absurd (h.symm.trans hw) (by simp)
  | collect user id time => exact absurd (h.symm.trans hw) (by simp)
  | thread t tagIds =>
    refine ⟨?_, tally_congr rfl _ _⟩
    change (relink s.links t.id tagIds).get? (thread, tag) = some c at hw
    rw [get?_relink, h] at hw
    split_ifs at hw with hth htg
    exact (Option.some.inj hw).symm
  | vote v =>
    change (s.applyVote v).2.links.get? (thread, tag) = some c at hw
    cases hl : s.links.get? (v.thread, v.tag) with
    | none =>
      rw [applyVote_of_unlinked hl] at hw
      exact absurd (h.symm.trans hw) (by simp)
    | some d =>
      rw [get?_links_applyVote hl] at hw
      split_ifs at hw with hp
      · rw [hp, h] at hl
        exact absurd hl (by simp)
      · exact absurd (h.symm.trans hw) (by simp)

/-- The counters of a link that a write keeps move as the stored votes on its tag do. -/
lemma counters_kept {s : Store} {w : Write} {thread tag : Int} {c c' : Counters}
    (h : s.links.get? (thread, tag) = some c)
    (hw : (s.write w).links.get? (thread, tag) = some c') :
    c'.add (s.tally thread tag) = c.add ((s.write w).tally thread tag) := by
  have hsame (hv : (s.write w).votes = s.votes) (hc : c' = c) :
      c'.add (s.tally thread tag) = c.add ((s.write w).tally thread tag) := by
    rw [tally_congr hv, hc]
  cases w with
  | author a => exact hsame rfl (Option.some.inj (hw.symm.trans h))
  | tag t => exact hsame rfl (Option.some.inj (hw.symm.trans h))
  | collect user id time => exact hsame rfl (Option.some.inj (hw.symm.trans h))
  | thread t tagIds =>
    refine hsame rfl ?_
    change (relink s.links t.id tagIds).get? (thread, tag) = some c' at hw
    rw [get?_relink, h] at hw
    split_ifs at hw with hth htg
    · exact (Option.some.inj hw).symm
    · exact (Option.some.inj hw).symm
  | vote v =>
    change (s.applyVote v).2.links.get? (thread, tag) = some c' at hw
    change c'.add (s.tally thread tag) = c.add ((s.applyVote v).2.tally thread tag)
    cases hl : s.links.get? (v.thread, v.tag) with
    | none =>
      rw [applyVote_of_unlinked hl] at hw ⊢
      rw [Option.some.inj (hw.symm.trans h)]
    | some d =>
      rw [get?_links_applyVote hl] at hw
      rw [tally_applyVote hl]
      by_cases hp : (v.thread, v.tag) = (thread, tag)
      · rw [if_pos hp] at hw ⊢
        rw [hp, h] at hl
        obtain rfl := Option.some.inj hl
        obtain rfl := Option.some.inj hw
        simp only [Counters.add, Counters.mk.injEq]
        constructor <;> omega
      · rw [if_neg hp] at hw ⊢
        rw [Option.some.inj (hw.symm.trans h)]

/-- The part of a history before the write that made the present link of a thread to a tag. -/
structure LinkedSince (history before : List Write) (thread tag : Int) : Prop where
  part : before <+: history
  unlinked : (after before).links.contains (thread, tag) = false
  linked : ∀ p, before <+: p → p ≠ before → p <+: history →
    (after p).links.contains (thread, tag) = true

lemma LinkedSince.append {history before : List Write} {w : Write} {thread tag : Int}
    (h : LinkedSince history before thread tag)
    (hw : (after (history ++ [w])).links.contains (thread, tag) = true) :
    LinkedSince (history ++ [w]) before thread tag where
  part := h.part.trans (List.prefix_append _ _)
  unlinked := h.unlinked
  linked p hbp hne hp := by
    rcases List.prefix_concat_iff.mp hp with rfl | hp
    · exact hw
    · exact h.linked p hbp hne hp

lemma linkedSince_made {history : List Write} {w : Write} {thread tag : Int}
    (h : (after history).links.contains (thread, tag) = false)
    (hw : (after (history ++ [w])).links.contains (thread, tag) = true) :
    LinkedSince (history ++ [w]) history thread tag where
  part := List.prefix_append _ _
  unlinked := h
  linked p hbp hne hp := by
    rcases List.prefix_concat_iff.mp hp with rfl | hp
    · exact hw
    · exact absurd (hp.eq_of_length_le hbp.length_le) hne

/-- There is only one such part. -/
lemma LinkedSince.unique {history before before' : List Write} {thread tag : Int}
    (h : LinkedSince history before thread tag) (h' : LinkedSince history before' thread tag) :
    before = before' := by
  by_contra hne
  rcases List.prefix_or_prefix_of_prefix h.part h'.part with hp | hp
  · have hlinked := h.linked before' hp (Ne.symm hne) h'.part
    exact Bool.false_ne_true (h'.unlinked.symm.trans hlinked)
  · have hlinked := h'.linked before hp hne h.part
    exact Bool.false_ne_true (h.unlinked.symm.trans hlinked)

/-- Along every history the counters of a link miss the votes that were stored when it was made,
and nothing else. -/
lemma counters_add_tally (history : List Write) (thread tag : Int) (c : Counters)
    (h : (after history).links.get? (thread, tag) = some c) :
    ∃ before, LinkedSince history before thread tag ∧
      c.add ((after before).tally thread tag) = (after history).tally thread tag := by
  -- Only a write that makes the link starts a new part; all others keep the difference.
  induction history using List.reverseRecOn generalizing c with
  | nil => exact absurd h (by simp [after, empty])
  | append_singleton history w ih =>
    have hlinked : (after (history ++ [w])).links.contains (thread, tag) = true :=
      Table.contains_iff.mpr ⟨c, h⟩
    rw [after_append_singleton] at h ⊢
    cases hold : (after history).links.get? (thread, tag) with
    | none =>
      obtain ⟨rfl, htally⟩ := counters_made hold h
      refine ⟨history, linkedSince_made (Table.not_contains_iff.mpr hold) hlinked, ?_⟩
      rw [htally]
      simp [Counters.add, Counters.zero, tally]
    | some d =>
      obtain ⟨before, hsince, hd⟩ := ih d hold
      refine ⟨before, hsince.append hlinked, ?_⟩
      have hkept := counters_kept hold h
      simp only [Counters.add, tally, Counters.mk.injEq] at hd hkept ⊢
      constructor <;> omega

/-- No vote is stored on a tag exactly when neither value is. -/
lemma votesStored_eq_zero_iff {s : Store} (hs : Sound s) (thread tag : Int) :
    (s.votesStored thread tag 1 = 0 ∧ s.votesStored thread tag (-1) = 0) ↔
      ∀ user, s.votes.get? (user, thread, tag) = none := by
  unfold votesStored
  rw [List.countP_eq_zero, List.countP_eq_zero]
  constructor
  · rintro ⟨hup, hdown⟩ user
    by_contra hne
    obtain ⟨n, hn⟩ := Option.ne_none_iff_exists'.mp hne
    have hrow := Table.get?_eq_some_iff.mp hn
    rcases hs.ballot _ n hn with rfl | rfl
    · exact hup _ hrow (by simp)
    · exact hdown _ hrow (by simp)
  · intro hnone
    have habsent (value : Int) :
        ∀ r ∈ s.votes.rows, ¬decide (r.1.2 = (thread, tag) ∧ r.2 = value) := by
      rintro ⟨⟨user, pair⟩, n⟩ hr hc
      obtain ⟨hpair, -⟩ := of_decide_eq_true hc
      dsimp only at hpair
      rw [← Table.get?_eq_some_iff, hpair, hnone user] at hr
      exact absurd hr (by simp)
    exact ⟨habsent 1, habsent (-1)⟩

/-- The counters of a link are the numbers of stored votes exactly when no vote on its tag was
stored at the time the link was made; they miss the votes that were. -/
theorem counters_exact_iff (history : List Write) (thread tag : Int) (c : Counters)
    (h : (after history).links.get? (thread, tag) = some c) :
    ∃ before, LinkedSince history before thread tag ∧
      (∀ before', LinkedSince history before' thread tag → before' = before) ∧
      c.up = (after history).votesStored thread tag 1 - (after before).votesStored thread tag 1 ∧
      c.down =
        (after history).votesStored thread tag (-1) - (after before).votesStored thread tag (-1) ∧
      (c.up = (after history).votesStored thread tag 1 ∧
          c.down = (after history).votesStored thread tag (-1) ↔
        ∀ user, (after before).votes.get? (user, thread, tag) = none) := by
  obtain ⟨before, hsince, hadd⟩ := counters_add_tally history thread tag c h
  simp only [Counters.add, tally, Counters.mk.injEq] at hadd
  refine ⟨before, hsince, fun before' h' => h'.unique hsince, by omega, by omega, ?_⟩
  rw [← votesStored_eq_zero_iff (sound_after before)]
  constructor
  · rintro ⟨hup, hdown⟩
    constructor <;> omega
  · rintro ⟨hup, hdown⟩
    constructor <;> omega

/-- A tag is voted up, taken off its thread and put back. -/
def relinking : List Write :=
  let t : Thread := ⟨1, 1, 1, ['a'], ⟨0, 0⟩, ⟨0, 0⟩, 0, 0, none, [], 0⟩
  [.thread t [10], .vote ⟨7, 1, 10, .up⟩, .thread t [], .thread t [10]]

theorem counters_exact_iff_relinking :
    (after relinking).links.get? (1, 10) = some ⟨0, 0⟩ ∧
      ∃ before, LinkedSince relinking before 1 10 ∧
        (∀ before', LinkedSince relinking before' 1 10 → before' = before) ∧
        0 = ((after relinking).votesStored 1 10 1 : Int) - (after before).votesStored 1 10 1 ∧
        0 = ((after relinking).votesStored 1 10 (-1) : Int) -
          (after before).votesStored 1 10 (-1) ∧
        ((0 : Int) = (after relinking).votesStored 1 10 1 ∧
            (0 : Int) = (after relinking).votesStored 1 10 (-1) ↔
          ∀ user, (after before).votes.get? (user, 1, 10) = none) :=
  ⟨by decide, counters_exact_iff relinking 1 10 ⟨0, 0⟩ (by decide)⟩

/-- The vote is still stored while the counters say zero, and when the user takes it back the
number of upvotes falls below zero. -/
theorem relinking_loses_counters :
    (after relinking).links.get? (1, 10) = some ⟨0, 0⟩ ∧
      (after relinking).votesStored 1 10 1 = 1 ∧
      (after (relinking ++ [.vote ⟨7, 1, 10, .up⟩])).links.get? (1, 10) = some ⟨-1, 0⟩ ∧
      (after (relinking ++ [.vote ⟨7, 1, 10, .up⟩])).votesStored 1 10 1 = 0 := by
  decide

end ForumSearch.Store
