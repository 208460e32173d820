import ForumSearch.Proofs.Ranking.Checked
import ForumSearch.Proofs.Ranking.Penalty

/-!
# Bounds of scores

By a valid configuration the factors are a convex combination, so the base of a score lies between
its least and its greatest part. The time and tag scores are at most one and the reaction score is at
most its cap; the penalty only takes away from the base.
-/

namespace ForumSearch

variable {c : RankingConfig ℝ}

namespace RankingConfig

lemma Valid.factors_sum (h : c.Valid) :
    c.factors.time + c.factors.tag + c.factors.reaction = 1 := by
  rw [h.factors_eq, ← add_div, ← add_div]
  exact div_self h.totalWeight_pos.ne'

/-- The configured weights are the factors, scaled. -/
lemma Valid.weights_eq (h : c.Valid) :
    let sum := c.timeWeight + c.tagWeight + c.reactionWeight
    c.timeWeight = sum * c.factors.time ∧ c.tagWeight = sum * c.factors.tag ∧
      c.reactionWeight = sum * c.factors.reaction := by
  intro sum
  have hsum : sum ≠ 0 := h.totalWeight_pos.ne'
  rw [h.factors_eq]
  exact ⟨(mul_div_cancel₀ _ hsum).symm, (mul_div_cancel₀ _ hsum).symm,
    (mul_div_cancel₀ _ hsum).symm⟩

end RankingConfig

namespace Ranking

lemma ageDays_nonneg (now lastActiveAt : Instant) : 0 ≤ (ageDays now lastActiveAt : ℝ) := by
  unfold ageDays
  exact Arithmetic.positivePart_nonneg _

lemma timeScore_le_one (h : c.Valid) {age : ℝ} (hage : 0 ≤ age) : timeScore c age ≤ 1 := by
  refine Real.exp_le_one_iff.mpr ?_
  rw [neg_mul]
  exact neg_nonpos.mpr (mul_nonneg h.decayRate_pos.le hage)

lemma reactionScore_le (c : RankingConfig ℝ) (reactions : Int) :
    reactionScore c reactions ≤ c.reactionCap := by
  rw [reactionScore, Arithmetic.capped_eq_min]
  exact min_le_right _ _

lemma base_eq (c : RankingConfig ℝ) (byTag : Bool) (now : Instant) (row : RankRow) :
    (score c byTag now row).base = c.factors.time * timeScore c (ageDays now row.lastActiveAt) +
      c.factors.tag * tagScore c byTag row.votes +
        c.factors.reaction * reactionScore c row.reactions := rfl

/-- A mean of three numbers lies between any bounds of them. -/
lemma mean_mem {f g r x y z least greatest : ℝ} (hf : 0 ≤ f) (hg : 0 ≤ g) (hr : 0 ≤ r)
    (hsum : f + g + r = 1) (hx : least ≤ x ∧ x ≤ greatest) (hy : least ≤ y ∧ y ≤ greatest)
    (hz : least ≤ z ∧ z ≤ greatest) :
    least ≤ f * x + g * y + r * z ∧ f * x + g * y + r * z ≤ greatest := by
  have hbound (b : ℝ) : f * b + g * b + r * b = b := by rw [← add_mul, ← add_mul, hsum, one_mul]
  constructor
  · rw [← hbound least]
    exact add_le_add (add_le_add (mul_le_mul_of_nonneg_left hx.1 hf)
      (mul_le_mul_of_nonneg_left hy.1 hg)) (mul_le_mul_of_nonneg_left hz.1 hr)
  · rw [← hbound greatest]
    exact add_le_add (add_le_add (mul_le_mul_of_nonneg_left hx.2 hf)
      (mul_le_mul_of_nonneg_left hy.2 hg)) (mul_le_mul_of_nonneg_left hz.2 hr)

section Score

variable (h : c.Valid) (byTag : Bool) (now : Instant) {row : RankRow}

include h

/-- The base lies between any bounds of the three parts. -/
lemma base_mem {least greatest : ℝ}
    (htime : least ≤ (score c byTag now row).time ∧ (score c byTag now row).time ≤ greatest)
    (htag : least ≤ (score c byTag now row).tag ∧ (score c byTag now row).tag ≤ greatest)
    (hreaction : least ≤ (score c byTag now row).reaction ∧
      (score c byTag now row).reaction ≤ greatest) :
    least ≤ (score c byTag now row).base ∧ (score c byTag now row).base ≤ greatest := by
  obtain ⟨hf, hg, hr⟩ := h.factors_nonneg
  rw [base_eq]
  exact mean_mem hf hg hr h.factors_sum htime htag hreaction

lemma time_mem (row : RankRow) :
    0 < (score c byTag now row).time ∧ (score c byTag now row).time ≤ 1 :=
  ⟨timeScore_pos _, timeScore_le_one h (ageDays_nonneg _ _)⟩

lemma reaction_mem (row : RankRow) :
    0 ≤ (score c byTag now row).reaction ∧ (score c byTag now row).reaction ≤ c.reactionCap :=
  ⟨reactionScore_nonneg h _, reactionScore_le c _⟩

variable (hup : 0 ≤ row.votes.up) (hdown : 0 ≤ row.votes.down)

include hup hdown

lemma tag_mem : 0 ≤ (score c byTag now row).tag ∧ (score c byTag now row).tag ≤ 1 :=
  ⟨tag_score_nonneg h byTag now hup hdown, tagScore_le_one h hup hdown⟩

lemma base_mem_cap :
    0 ≤ (score c byTag now row).base ∧ (score c byTag now row).base ≤ max 1 c.reactionCap := by
  obtain ⟨htime, htime'⟩ := time_mem h byTag now row
  obtain ⟨htag, htag'⟩ := tag_mem h byTag now hup hdown
  obtain ⟨hreaction, hreaction'⟩ := reaction_mem h byTag now row
  exact base_mem h byTag now ⟨htime.le, htime'.trans (le_max_left _ _)⟩
    ⟨htag, htag'.trans (le_max_left _ _)⟩ ⟨hreaction, hreaction'.trans (le_max_right _ _)⟩

end Score

lemma base_nonneg (h : c.Valid) {byTag : Bool} {now : Instant} {row : RankRow}
    (hup : 0 ≤ row.votes.up) (hdown : 0 ≤ row.votes.down) : 0 ≤ (score c byTag now row).base :=
  (base_mem_cap h byTag now hup hdown).1

/-- By a valid configuration the factors are the weights scaled to a sum of one. The time score of
any row without negative counters is above zero and at most one, its tag score from zero to one and
its reaction score from zero to the cap; the base lies between the least and the greatest of them, and
the score between zero and the base. No operation of scoring lacks a value at its arguments: checked
arithmetic gives the same score. -/
theorem score_bounded {c : RankingConfig ℝ} (hc : c.validate = .ok ()) (byTag : Bool)
    (now : Instant) {row : RankRow} (hup : 0 ≤ row.votes.up) (hdown : 0 ≤ row.votes.down) :
    let f := c.factors
    let s := score c byTag now row
    (0 ≤ f.time ∧ 0 ≤ f.tag ∧ 0 ≤ f.reaction ∧ f.time + f.tag + f.reaction = 1) ∧
      (∃ sum : ℝ, 0 < sum ∧ c.timeWeight = sum * f.time ∧ c.tagWeight = sum * f.tag ∧
        c.reactionWeight = sum * f.reaction) ∧
      (0 < s.time ∧ s.time ≤ 1) ∧ (0 ≤ s.tag ∧ s.tag ≤ 1) ∧
      (0 ≤ s.reaction ∧ s.reaction ≤ c.reactionCap) ∧
      (min s.time (min s.tag s.reaction) ≤ s.base ∧ s.base ≤ max s.time (max s.tag s.reaction)) ∧
      (0 ≤ s.value ∧ s.value ≤ s.base ∧ s.base ≤ max 1 c.reactionCap) ∧
      ∀ verdict, (c.map (Checked.of verdict)).factors = f.map (Checked.of verdict) ∧
        score (c.map (Checked.of verdict)) byTag now row = s.map (Checked.of verdict) := by
  intro f s
  have h := RankingConfig.validate_eq_ok_iff.mp hc
  obtain ⟨hfactors, hfactors', hfactors''⟩ := h.factors_nonneg
  have hbase : 0 ≤ s.base := base_nonneg h hup hdown
  obtain ⟨hpenalty, hpenalty'⟩ := penalty_mem h s.tag (totalVotes byTag row.votes)
  refine ⟨⟨hfactors, hfactors', hfactors'', h.factors_sum⟩,
    ⟨c.timeWeight + c.tagWeight + c.reactionWeight, h.totalWeight_pos, h.weights_eq⟩,
    time_mem h byTag now row, tag_mem h byTag now hup hdown, reaction_mem h byTag now row, ?_,
    ⟨mul_nonneg hbase hpenalty, mul_le_of_le_one_right hbase hpenalty',
      (base_mem_cap h byTag now hup hdown).2⟩,
    fun verdict => ⟨h.factors_checked, score_checked h byTag now hup hdown⟩⟩
  exact base_mem h byTag now ⟨min_le_left _ _, le_max_left _ _⟩
    ⟨(min_le_right _ _).trans (min_le_left _ _), (le_max_left _ _).trans (le_max_right _ _)⟩
    ⟨(min_le_right _ _).trans (min_le_right _ _), (le_max_right _ _).trans (le_max_right _ _)⟩

/-- A thread that was active after the clock, with six downvotes and fewer than no reactions. -/
theorem score_bounded_future :
    let row : RankRow := ⟨1, ⟨86400, 0⟩, -3, ⟨0, 6⟩⟩
    let s : Score ℝ := score .standard true ⟨0, 0⟩ row
    (.standard : RankingConfig ℝ).validate = .ok () ∧ 0 ≤ row.votes.up ∧ 0 ≤ row.votes.down ∧
      s.time ≤ 1 ∧ 0 ≤ s.tag ∧ 0 ≤ s.reaction ∧ s.value ≤ s.base ∧
      s.base ≤ max 1 (RankingConfig.standard : RankingConfig ℝ).reactionCap ∧
      ∀ verdict, score (RankingConfig.standard.map (Checked.of verdict)) true ⟨0, 0⟩ row =
        s.map (Checked.of verdict) := by
  intro row s
  have hc : (.standard : RankingConfig ℝ).validate = .ok () :=
    RankingConfig.validate_eq_ok_iff.mpr RankingConfig.valid_standard
  have hup : 0 ≤ row.votes.up := by decide
  have hdown : 0 ≤ row.votes.down := by decide
  obtain ⟨-, -, htime, htag, hreaction, -, hvalue, hchecked⟩ :=
    score_bounded hc true ⟨0, 0⟩ hup hdown
  exact ⟨hc, hup, hdown, htime.2, htag.1, hreaction.1, hvalue.2.1, hvalue.2.2, fun verdict =>
    (hchecked verdict).2⟩

end Ranking

end ForumSearch
