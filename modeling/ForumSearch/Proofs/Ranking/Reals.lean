import ForumSearch.Ranking.Score
import Mathlib

/-!
# Scores of real numbers

Over the real numbers, where every operation is exact, scoring has laws. A configuration is valid
if it has the properties listed here; its factors are then a convex combination, and all parts of a
score are non-negative.
-/

namespace ForumSearch

/-- Quotients of reals are those of the field, also where the operations below are in sight. -/
noncomputable instance divReal : Div ℝ := DivInvMonoid.toDiv

noncomputable instance : Arithmetic ℝ where
  ofInt n := n
  exp := Real.exp
  log := Real.log
  sqrt := Real.sqrt
  lt x y := x < y
  le x y := x ≤ y
  finite _ := true

namespace Arithmetic

@[simp]
lemma ofInt_real (n : Int) : (ofInt n : ℝ) = n := rfl

@[simp]
lemma exp_real (x : ℝ) : exp x = Real.exp x := rfl

@[simp]
lemma log_real (x : ℝ) : log x = Real.log x := rfl

@[simp]
lemma sqrt_real (x : ℝ) : sqrt x = √x := rfl

@[simp]
lemma lt_real (x y : ℝ) : lt x y = decide (x < y) := rfl

@[simp]
lemma le_real (x y : ℝ) : le x y = decide (x ≤ y) := rfl

@[simp]
lemma finite_real (x : ℝ) : finite x = true := rfl

@[simp]
lemma zero_real : (zero : ℝ) = 0 := Int.cast_zero

@[simp]
lemma one_real : (one : ℝ) = 1 := Int.cast_one

@[simp]
lemma milli_real (n : Int) : (milli n : ℝ) = n / 1000 := by
  simp [milli]

@[simp]
lemma inUnit_real (x : ℝ) : inUnit x = true ↔ 0 ≤ x ∧ x ≤ 1 := by
  simp [inUnit]

lemma positivePart_of_nonneg {x : ℝ} (hx : 0 ≤ x) : positivePart x = x := by
  rcases hx.eq_or_lt with rfl | hpos
  · simp [positivePart]
  · simp [positivePart, hpos]

lemma positivePart_nonneg (x : ℝ) : 0 ≤ positivePart x := by
  by_cases h : 0 < x
  · simp [positivePart, h, h.le]
  · simp [positivePart, h]

lemma capped_eq_min (x cap : ℝ) : capped x cap = min x cap := by
  by_cases h : cap < x
  · simp [capped, h, h.le]
  · simp [capped, h, le_of_not_gt h]

end Arithmetic

open Arithmetic

namespace RankingConfig

/-- What a configuration without a fault satisfies. -/
@[mk_iff]
structure Valid (c : RankingConfig ℝ) : Prop where
  timeWeight_nonneg : 0 ≤ c.timeWeight
  tagWeight_nonneg : 0 ≤ c.tagWeight
  reactionWeight_nonneg : 0 ≤ c.reactionWeight
  totalWeight_pos : 0 < c.timeWeight + c.tagWeight + c.reactionWeight
  decayRate_pos : 0 < c.decayRate
  confidence_pos : 0 < c.confidence
  logBase_pos : 0 < c.logBase
  reactionCap_nonneg : 0 ≤ c.reactionCap
  defaultTagScore_mem : 0 ≤ c.defaultTagScore ∧ c.defaultTagScore ≤ 1
  severeThreshold_mem : 0 ≤ c.severeThreshold ∧ c.severeThreshold ≤ 1
  mildThreshold_mem : 0 ≤ c.mildThreshold ∧ c.mildThreshold ≤ 1
  severeThreshold_lt : c.severeThreshold < c.mildThreshold
  severeFactor_mem : 0 ≤ c.severeFactor ∧ c.severeFactor ≤ 1
  mildFactor_mem : 0 ≤ c.mildFactor ∧ c.mildFactor ≤ 1
  severeMinVotes_nonneg : 0 ≤ c.severeMinVotes
  mildMinVotes_nonneg : 0 ≤ c.mildMinVotes

variable {c : RankingConfig ℝ}

lemma ite_some_eq_none_iff {p : Prop} [Decidable p] {fault : RankingFault}
    {rest : Option RankingFault} :
    (if p then some fault else rest) = none ↔ ¬p ∧ rest = none := by
  by_cases hp : p <;> simp [hp]

lemma validate_eq_ok_iff : c.validate = .ok () ↔ c.Valid := by
  have hfinite : c.allFinite = true := by simp [allFinite]
  rw [validate_eq_ok_iff_fault?, fault?]
  simp only [ite_some_eq_none_iff, hfinite, Bool.not_eq_true', Bool.or_eq_true, decide_eq_true_eq,
    lt_real, le_real, zero_real, not_or, not_lt, not_le, Bool.not_eq_false, inUnit_real, true_and,
    and_true, and_assoc, valid_iff]

lemma Valid.factors_eq (h : c.Valid) :
    c.factors = ⟨c.timeWeight / (c.timeWeight + c.tagWeight + c.reactionWeight),
      c.tagWeight / (c.timeWeight + c.tagWeight + c.reactionWeight),
      c.reactionWeight / (c.timeWeight + c.tagWeight + c.reactionWeight)⟩ := by
  rw [factors, positivePart_of_nonneg h.timeWeight_nonneg, positivePart_of_nonneg h.tagWeight_nonneg,
    positivePart_of_nonneg h.reactionWeight_nonneg]
  exact if_neg (by simpa using h.totalWeight_pos)

lemma Valid.factors_nonneg (h : c.Valid) :
    0 ≤ c.factors.time ∧ 0 ≤ c.factors.tag ∧ 0 ≤ c.factors.reaction := by
  rw [h.factors_eq]
  have hsum := h.totalWeight_pos.le
  exact ⟨div_nonneg h.timeWeight_nonneg hsum, div_nonneg h.tagWeight_nonneg hsum,
    div_nonneg h.reactionWeight_nonneg hsum⟩

lemma valid_standard : (standard : RankingConfig ℝ).Valid := by
  rw [valid_iff]
  norm_num [standard]

end RankingConfig

namespace Ranking

variable {c : RankingConfig ℝ}

lemma timeScore_pos (age : ℝ) : 0 < timeScore c age :=
  Real.exp_pos _

lemma reactionScore_nonneg (h : c.Valid) (reactions : Int) : 0 ≤ reactionScore c reactions := by
  have hcount : (1 : ℝ) ≤ (max reactions 0 : Int) + 1 := by
    have hmax : (0 : ℝ) ≤ (max reactions 0 : Int) := by exact_mod_cast le_max_right _ _
    linarith
  have hbase : 1 ≤ c.logBase + 1 := by linarith [h.logBase_pos]
  rw [reactionScore, capped_eq_min]
  simp only [log_real, ofInt_real, one_real]
  exact le_min (div_nonneg (Real.log_nonneg hcount) (Real.log_nonneg hbase)) h.reactionCap_nonneg

end Ranking

end ForumSearch
