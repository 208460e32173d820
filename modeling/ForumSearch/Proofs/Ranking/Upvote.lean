import ForumSearch.Proofs.Ranking.Bounds

/-!
# What an upvote does to a score

One more upvote changes two parts of a score. The tag score does not fall, but for the first vote of
all, which replaces the default. The penalty gets no harsher, but where the votes become as many as
it takes for a penalty and the tag score is still low, or where the mild penalty is the harsher one.
-/

namespace ForumSearch

/-- The row of a thread after one more upvote. -/
def RankRow.upvoted (row : RankRow) : RankRow :=
  { row with votes := row.votes.add (.of .up) }

namespace Ranking

variable {c : RankingConfig ℝ} {votes : Counters}

section Penalty

/-- The tags are voted down so often that the severe penalty applies. -/
def Severe (c : RankingConfig ℝ) (votes : Counters) : Prop :=
  tagScore c true votes < c.severeThreshold ∧ c.severeMinVotes ≤ totalVotes true votes

/-- The mild penalty applies, unless the severe one does. -/
def Mild (c : RankingConfig ℝ) (votes : Counters) : Prop :=
  tagScore c true votes < c.mildThreshold ∧ c.mildMinVotes ≤ totalVotes true votes

/-- The penalty for the tags that were asked for. -/
noncomputable def tagPenalty (c : RankingConfig ℝ) (votes : Counters) : ℝ :=
  penalty c (tagScore c true votes) (totalVotes true votes)

lemma tagPenalty_of_severe (h : Severe c votes) : tagPenalty c votes = c.severeFactor :=
  penalty_of_severe h

lemma tagPenalty_of_mild (hsevere : ¬Severe c votes) (h : Mild c votes) :
    tagPenalty c votes = c.mildFactor :=
  penalty_of_mild hsevere h

lemma tagPenalty_of_none (hsevere : ¬Severe c votes) (hmild : ¬Mild c votes) :
    tagPenalty c votes = 1 :=
  penalty_of_none hsevere hmild

lemma tagPenalty_mem (h : c.Valid) (votes : Counters) :
    0 ≤ tagPenalty c votes ∧ tagPenalty c votes ≤ 1 :=
  penalty_mem h _ _

end Penalty

/-- The ways in which one more upvote can lower a score. -/
inductive Setback (c : RankingConfig ℝ) (votes : Counters) : Prop where
  /-- The upvote is the first vote, and the default was above the bound for one upvote. -/
  | first (hnone : totalVotes true votes = 0)
      (hdefault : 1 / (1 + c.confidence ^ 2) < c.defaultTagScore)
  /-- The votes become as many as it takes for the severe penalty. -/
  | severe (hcount : totalVotes true votes + 1 = c.severeMinVotes)
      (hlow : tagScore c true (votes.add (.of .up)) < c.severeThreshold)
      (hharsher : c.severeFactor < tagPenalty c votes)
  /-- The votes become as many as it takes for the mild penalty, and the severe one does not apply. -/
  | mild (hcount : totalVotes true votes + 1 = c.mildMinVotes)
      (hlow : tagScore c true (votes.add (.of .up)) < c.mildThreshold)
      (hbefore : ¬Severe c votes) (hafter : ¬Severe c (votes.add (.of .up)))
      (hharsher : c.mildFactor < 1)
  /-- The mild penalty takes the place of the severe one, and is the harsher of the two. -/
  | inverted (hbefore : Severe c votes) (hafter : ¬Severe c (votes.add (.of .up)))
      (hmild : Mild c (votes.add (.of .up))) (hharsher : c.mildFactor < c.severeFactor)

section Upvote

lemma totalVotes_upvote (votes : Counters) :
    totalVotes true (votes.add (.of .up)) = totalVotes true votes + 1 := by
  simp only [totalVotes, Counters.add, Counters.of, if_true]
  omega

variable (h : c.Valid) (hup : 0 ≤ votes.up) (hdown : 0 ≤ votes.down)

include h hup hdown

omit h in
lemma tagScore_upvote :
    tagScore c true (votes.add (.of .up)) = wilson (votes.up + 1) votes.down c.confidence := by
  have hvotes : 0 < totalVotes true votes + 1 := by
    simp only [totalVotes, if_true]
    omega
  rw [tagScore, totalVotes_upvote, if_pos hvotes, Counters.add, Counters.of, add_zero]

lemma tagScore_le_tagScore_upvote (hvotes : 0 < totalVotes true votes) :
    tagScore c true votes ≤ tagScore c true (votes.add (.of .up)) := by
  rw [tagScore_upvote hup hdown, tagScore, if_pos hvotes]
  exact wilson_le_wilson_succ_up hup hdown h.confidence_pos hvotes

lemma tagScore_upvote_lt_iff : tagScore c true (votes.add (.of .up)) < tagScore c true votes ↔
    totalVotes true votes = 0 ∧ 1 / (1 + c.confidence ^ 2) < c.defaultTagScore := by
  have htotal : totalVotes true votes = votes.up + votes.down := rfl
  by_cases hvotes : 0 < totalVotes true votes
  · have hle := tagScore_le_tagScore_upvote h hup hdown hvotes
    exact iff_of_false hle.not_gt fun hnone => by omega
  · have hnone : votes.up = 0 ∧ votes.down = 0 := by omega
    rw [tagScore_upvote hup hdown, tagScore, if_neg hvotes, hnone.1, hnone.2, zero_add,
      wilson_one_zero h.confidence_pos]
    exact (and_iff_right (by omega)).symm

lemma tagScore_le_of_not_setback (hsetback : ¬Setback c votes) :
    tagScore c true votes ≤ tagScore c true (votes.add (.of .up)) := by
  refine not_lt.mp fun hless => ?_
  obtain ⟨hnone, hdefault⟩ := (tagScore_upvote_lt_iff h hup hdown).mp hless
  exact hsetback (.first hnone hdefault)

lemma tagPenalty_le_of_not_setback (hsetback : ¬Setback c votes) :
    tagPenalty c votes ≤ tagPenalty c (votes.add (.of .up)) := by
  have htag := tagScore_le_of_not_setback h hup hdown hsetback
  have htotal := totalVotes_upvote votes
  refine not_lt.mp fun hless => ?_
  -- With a higher tag score, a penalty that applies after the vote and not before has just got its
  -- number of votes.
  by_cases hafter : Severe c (votes.add (.of .up))
  · rw [tagPenalty_of_severe hafter] at hless
    have hmin := hafter.2
    by_cases hcount : totalVotes true votes + 1 = c.severeMinVotes
    · exact hsetback (.severe hcount hafter.1 hless)
    · have hbefore : Severe c votes := ⟨htag.trans_lt hafter.1, by omega⟩
      rw [tagPenalty_of_severe hbefore] at hless
      exact lt_irrefl _ hless
  by_cases hmild : Mild c (votes.add (.of .up))
  · rw [tagPenalty_of_mild hafter hmild] at hless
    have hmin := hmild.2
    by_cases hbefore : Severe c votes
    · rw [tagPenalty_of_severe hbefore] at hless
      exact hsetback (.inverted hbefore hafter hmild hless)
    by_cases hcount : totalVotes true votes + 1 = c.mildMinVotes
    · have hharsher := hless.trans_le (tagPenalty_mem h votes).2
      exact hsetback (.mild hcount hmild.1 hbefore hafter hharsher)
    · have hmild' : Mild c votes := ⟨htag.trans_lt hmild.1, by omega⟩
      rw [tagPenalty_of_mild hbefore hmild'] at hless
      exact lt_irrefl _ hless
  · rw [tagPenalty_of_none hafter hmild] at hless
    exact hless.not_ge (tagPenalty_mem h votes).2

/-- There is no other setback: in each case the tag score falls or the penalty gets harsher. -/
lemma setback_iff : Setback c votes ↔
    tagScore c true (votes.add (.of .up)) < tagScore c true votes ∨
      tagPenalty c (votes.add (.of .up)) < tagPenalty c votes := by
  constructor
  · have htotal := totalVotes_upvote votes
    rintro (⟨hnone, hdefault⟩ | ⟨hcount, hlow, hharsher⟩ |
      ⟨hcount, hlow, hbefore, hafter, hharsher⟩ | ⟨hbefore, hafter, hmild, hharsher⟩)
    · exact .inl ((tagScore_upvote_lt_iff h hup hdown).mpr ⟨hnone, hdefault⟩)
    · have hafter : Severe c (votes.add (.of .up)) := ⟨hlow, by omega⟩
      exact .inr (by rwa [tagPenalty_of_severe hafter])
    · have hmild : Mild c (votes.add (.of .up)) := ⟨hlow, by omega⟩
      have hnone : ¬Mild c votes := fun hmild => by
        have hmin := hmild.2
        omega
      exact .inr (by rwa [tagPenalty_of_mild hafter hmild, tagPenalty_of_none hbefore hnone])
    · exact .inr (by rwa [tagPenalty_of_mild hafter hmild, tagPenalty_of_severe hbefore])
  · intro hworse
    by_contra hsetback
    exact hworse.elim (tagScore_le_of_not_setback h hup hdown hsetback).not_gt
      (tagPenalty_le_of_not_setback h hup hdown hsetback).not_gt

end Upvote

section Value

variable {now : Instant} {row : RankRow}

lemma value_eq (c : RankingConfig ℝ) (now : Instant) (row : RankRow) :
    (score c true now row).value = (score c true now row).base * tagPenalty c row.votes := rfl

end Value

/-- By every valid configuration one more upvote lowers the score of a thread only in a setback. The
setbacks are just the cases in which it lowers the tag score or makes the penalty harsher: the default
is lost with the first vote, and a penalty comes with a number of votes or is harsher than the one for
worse tags. -/
theorem value_le_value_upvoted {c : RankingConfig ℝ} (hc : c.validate = .ok ()) (now : Instant)
    {row : RankRow} (hup : 0 ≤ row.votes.up) (hdown : 0 ≤ row.votes.down) :
    let before := score c true now row
    let after := score c true now row.upvoted
    (¬Setback c row.votes → before.value ≤ after.value) ∧
      (Setback c row.votes ↔ after.tag < before.tag ∨ after.penalty < before.penalty) := by
  intro before after
  have h := RankingConfig.validate_eq_ok_iff.mp hc
  refine ⟨fun hsetback => ?_, setback_iff h hup hdown⟩
  have hbase : before.base ≤ after.base := by
    have htag := mul_le_mul_of_nonneg_left (tagScore_le_of_not_setback h hup hdown hsetback)
      h.factors_nonneg.2.1
    rw [base_eq, base_eq]
    exact add_le_add_left (add_le_add_right htag _) _
  rw [value_eq, value_eq]
  exact mul_le_mul hbase (tagPenalty_le_of_not_setback h hup hdown hsetback)
    (tagPenalty_mem h _).1 ((base_nonneg h hup hdown).trans hbase)

/-- The second upvote at the standard configuration. -/
theorem value_le_value_upvoted_second :
    ¬Setback (.standard : RankingConfig ℝ) ⟨1, 0⟩ ∧
      (score (.standard : RankingConfig ℝ) true ⟨0, 0⟩ ⟨1, ⟨0, 0⟩, 0, ⟨1, 0⟩⟩).value ≤
        (score (.standard : RankingConfig ℝ) true ⟨0, 0⟩ ⟨1, ⟨0, 0⟩, 0, ⟨2, 0⟩⟩).value := by
  have hsetback : ¬Setback (.standard : RankingConfig ℝ) ⟨1, 0⟩ := by
    rintro (⟨hnone, -⟩ | ⟨hcount, -⟩ | ⟨hcount, -⟩ | ⟨hbefore, -⟩)
    · exact absurd hnone (by decide)
    · exact absurd hcount (by decide)
    · exact absurd hcount (by decide)
    · exact absurd hbefore.2 (by decide)
  have hvalid : (RankingConfig.standard : RankingConfig ℝ).validate = .ok () :=
    RankingConfig.validate_eq_ok_iff.mpr RankingConfig.valid_standard
  let row : RankRow := ⟨1, ⟨0, 0⟩, 0, ⟨1, 0⟩⟩
  have hup : 0 ≤ row.votes.up := by decide
  have hdown : 0 ≤ row.votes.down := by decide
  exact ⟨hsetback, (value_le_value_upvoted hvalid ⟨0, 0⟩ hup hdown).1 hsetback⟩

section Standard

/-- By the clock of its last activity a thread without reactions scores by its tags alone. -/
lemma value_standard (votes : Counters) :
    (score (.standard : RankingConfig ℝ) true ⟨0, 0⟩ ⟨1, ⟨0, 0⟩, 0, votes⟩).value =
      (1 / 2 + 3 / 10 * tagScore .standard true votes) * tagPenalty .standard votes := by
  have htime : timeScore (.standard : RankingConfig ℝ) (ageDays ⟨0, 0⟩ ⟨0, 0⟩) = 1 := by
    have hage : (ageDays ⟨0, 0⟩ ⟨0, 0⟩ : ℝ) = 0 := by
      simp [ageDays, Arithmetic.positivePart, Instant.secondsSince, Instant.leapBetween]
    rw [hage, timeScore, mul_zero]
    exact Real.exp_zero
  have hreaction : reactionScore (.standard : RankingConfig ℝ) 0 = 0 := by
    rw [reactionScore, Arithmetic.capped_eq_min]
    norm_num [RankingConfig.standard]
  rw [value_eq, base_eq, htime, hreaction, RankingConfig.valid_standard.factors_eq]
  norm_num [RankingConfig.standard]

lemma le_tagScore_standard_iff {up down : Int} (hup : 0 ≤ up) (hdown : 0 ≤ down)
    (hn : 0 < up + down) {x : ℝ} :
    x ≤ tagScore .standard true ⟨up, down⟩ ↔ x < 1 ∧ (up + down) * x ≤ up ∧
      (1.96 : ℝ) ^ 2 * (up + down) * (x * (1 - x)) ≤ (up - (up + down) * x) ^ 2 := by
  have hz : (RankingConfig.standard : RankingConfig ℝ).confidence = 1.96 := by
    norm_num [RankingConfig.standard]
  have htag : tagScore (.standard : RankingConfig ℝ) true ⟨up, down⟩ = wilson up down 1.96 :=
    (if_pos hn).trans (by rw [hz])
  rw [htag, le_wilson_iff hup hdown (by norm_num) hn]

lemma severe_standard_iff : Severe .standard votes ↔
    ¬1 / 5 ≤ tagScore (.standard : RankingConfig ℝ) true votes ∧ 5 ≤ totalVotes true votes := by
  have hthreshold : (RankingConfig.standard : RankingConfig ℝ).severeThreshold = 1 / 5 := by
    norm_num [RankingConfig.standard]
  rw [Severe, hthreshold, not_le]
  rfl

lemma mild_standard_iff : Mild .standard votes ↔
    ¬7 / 20 ≤ tagScore (.standard : RankingConfig ℝ) true votes ∧ 10 ≤ totalVotes true votes := by
  have hthreshold : (RankingConfig.standard : RankingConfig ℝ).mildThreshold = 7 / 20 := by
    norm_num [RankingConfig.standard]
  rw [Mild, hthreshold, not_le]
  rfl

lemma tagPenalty_standard_of_few (hvotes : totalVotes true votes < 5) :
    tagPenalty (.standard : RankingConfig ℝ) votes = 1 := by
  refine tagPenalty_of_none (fun h => ?_) fun h => ?_
  · exact absurd (severe_standard_iff.mp h).2 (by omega)
  · exact absurd (mild_standard_iff.mp h).2 (by omega)

/-- At the standard configuration the first upvote lowers the score, and so do the fifth vote and the
tenth where they bring on a penalty. -/
theorem upvotes_lower_value :
    let value (up down : Int) : ℝ :=
      (score (.standard : RankingConfig ℝ) true ⟨0, 0⟩ ⟨1, ⟨0, 0⟩, 0, ⟨up, down⟩⟩).value
    (.standard : RankingConfig ℝ).validate = .ok () ∧ value 1 0 < value 0 0 ∧
      value 1 4 < value 0 4 ∧ value 6 4 < value 5 4 := by
  intro value
  have hvalue (up down : Int) : value up down = _ := value_standard ⟨up, down⟩
  refine ⟨RankingConfig.validate_eq_ok_iff.mpr RankingConfig.valid_standard, ?_, ?_, ?_⟩
  · have hbefore : tagScore (.standard : RankingConfig ℝ) true ⟨0, 0⟩ = 1 / 2 := by
      norm_num [tagScore, totalVotes, RankingConfig.standard]
    have hafter : ¬1 / 2 ≤ tagScore (.standard : RankingConfig ℝ) true ⟨1, 0⟩ := by
      rw [le_tagScore_standard_iff (by decide) (by decide) (by decide)]
      norm_num
    rw [hvalue, hvalue, tagPenalty_standard_of_few (by decide),
      tagPenalty_standard_of_few (by decide), hbefore]
    linarith
  · have hbefore : 0 ≤ tagScore (.standard : RankingConfig ℝ) true ⟨0, 4⟩ :=
      tagScore_nonneg RankingConfig.valid_standard (by decide) (by decide)
    have hafter : ¬1 / 5 ≤ tagScore (.standard : RankingConfig ℝ) true ⟨1, 4⟩ := by
      rw [le_tagScore_standard_iff (by decide) (by decide) (by decide)]
      norm_num
    have hsevere : tagPenalty (.standard : RankingConfig ℝ) ⟨1, 4⟩ = 1 / 10 := by
      rw [tagPenalty_of_severe (severe_standard_iff.mpr ⟨hafter, by decide⟩)]
      norm_num [RankingConfig.standard]
    rw [hvalue, hvalue, hsevere, tagPenalty_standard_of_few (by decide)]
    linarith
  · have hbefore : 1 / 5 ≤ tagScore (.standard : RankingConfig ℝ) true ⟨5, 4⟩ := by
      rw [le_tagScore_standard_iff (by decide) (by decide) (by decide)]
      norm_num
    have hafter : 1 / 5 ≤ tagScore (.standard : RankingConfig ℝ) true ⟨6, 4⟩ := by
      rw [le_tagScore_standard_iff (by decide) (by decide) (by decide)]
      norm_num
    have hafter' : ¬7 / 20 ≤ tagScore (.standard : RankingConfig ℝ) true ⟨6, 4⟩ := by
      rw [le_tagScore_standard_iff (by decide) (by decide) (by decide)]
      norm_num
    have hnone : tagPenalty (.standard : RankingConfig ℝ) ⟨5, 4⟩ = 1 :=
      tagPenalty_of_none (fun h => (severe_standard_iff.mp h).1 hbefore) fun h =>
        absurd (mild_standard_iff.mp h).2 (by decide)
    have hmild : tagPenalty (.standard : RankingConfig ℝ) ⟨6, 4⟩ = 1 / 2 := by
      rw [tagPenalty_of_mild (fun h => (severe_standard_iff.mp h).1 hafter)
        (mild_standard_iff.mpr ⟨hafter', by decide⟩)]
      norm_num [RankingConfig.standard]
    rw [hvalue, hvalue, hnone, hmild]
    linarith

end Standard

end Ranking

end ForumSearch
