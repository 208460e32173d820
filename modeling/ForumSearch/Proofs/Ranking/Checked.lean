import ForumSearch.Proofs.Ranking.Wilson

/-!
# Scores in checked arithmetic

In checked arithmetic a division by zero, the logarithm of a number that is not positive and the root
of a negative number have no value, and neither has what is computed from them. By a valid
configuration every score has a value there, the one it has over the reals, so no such operation
takes place.
-/

namespace ForumSearch

/-- A real number, or no value. How a comparison with no value turns out is up to `verdict`. -/
def Checked (_verdict : Option ℝ → Option ℝ → Bool) : Type := Option ℝ

namespace Checked

variable {verdict : Option ℝ → Option ℝ → Bool}

def of (verdict : Option ℝ → Option ℝ → Bool) (x : ℝ) : Checked verdict := some x

/-- A comparison of two real numbers, left to the verdict if one of them is missing. -/
def compare (verdict : Option ℝ → Option ℝ → Bool) (r : ℝ → ℝ → Bool) :
    Option ℝ → Option ℝ → Bool
  | some x, some y => r x y
  | x, y => verdict x y

noncomputable instance : Arithmetic (Checked verdict) where
  add := Option.map₂ (· + ·)
  sub := Option.map₂ (· - ·)
  mul := Option.map₂ (· * ·)
  div a b := Option.bind a fun x => Option.bind b fun y => if y = 0 then none else some (x / y)
  neg := Option.map fun x => -x
  ofInt n := some (n : ℝ)
  exp := Option.map Real.exp
  log a := Option.bind a fun x => if 0 < x then some (Real.log x) else none
  sqrt a := Option.bind a fun x => if 0 ≤ x then some √x else none
  lt := compare verdict fun x y => decide (x < y)
  le := compare verdict fun x y => decide (x ≤ y)
  finite a := compare verdict (fun _ _ => true) a a

open Arithmetic

@[simp]
lemma ofInt_checked (n : Int) : (ofInt n : Checked verdict) = of verdict n := rfl

@[simp]
lemma zero_checked : (zero : Checked verdict) = of verdict 0 :=
  congrArg (of verdict) Int.cast_zero

@[simp]
lemma one_checked : (one : Checked verdict) = of verdict 1 :=
  congrArg (of verdict) Int.cast_one

@[simp]
lemma add_of (x y : ℝ) : of verdict x + of verdict y = of verdict (x + y) := rfl

@[simp]
lemma sub_of (x y : ℝ) : of verdict x - of verdict y = of verdict (x - y) := rfl

@[simp]
lemma mul_of (x y : ℝ) : of verdict x * of verdict y = of verdict (x * y) := rfl

@[simp]
lemma neg_of (x : ℝ) : -of verdict x = of verdict (-x) := rfl

@[simp]
lemma exp_of (x : ℝ) : exp (of verdict x) = of verdict (Real.exp x) := rfl

lemma div_of {x y : ℝ} (h : y ≠ 0) : of verdict x / of verdict y = of verdict (x / y) :=
  if_neg h

lemma log_of {x : ℝ} (h : 0 < x) : log (of verdict x) = of verdict (Real.log x) :=
  if_pos h

lemma sqrt_of {x : ℝ} (h : 0 ≤ x) : sqrt (of verdict x) = of verdict √x :=
  if_pos h

@[simp]
lemma lt_of (x y : ℝ) : lt (of verdict x) (of verdict y) = decide (x < y) := rfl

@[simp]
lemma le_of (x y : ℝ) : le (of verdict x) (of verdict y) = decide (x ≤ y) := rfl

@[simp]
lemma finite_of (x : ℝ) : finite (of verdict x) = true := rfl

@[simp]
lemma positivePart_of (x : ℝ) : positivePart (of verdict x) = of verdict (positivePart x) := by
  by_cases h : 0 < x <;> simp [positivePart, h]

@[simp]
lemma capped_of (x cap : ℝ) :
    capped (of verdict x) (of verdict cap) = of verdict (capped x cap) := by
  by_cases h : cap < x <;> simp [capped, h]

end Checked

namespace RankingConfig

def map {α β : Type} (f : α → β) (c : RankingConfig α) : RankingConfig β where
  timeWeight := f c.timeWeight
  tagWeight := f c.tagWeight
  reactionWeight := f c.reactionWeight
  decayRate := f c.decayRate
  confidence := f c.confidence
  defaultTagScore := f c.defaultTagScore
  logBase := f c.logBase
  reactionCap := f c.reactionCap
  severeThreshold := f c.severeThreshold
  severeMinVotes := c.severeMinVotes
  severeFactor := f c.severeFactor
  mildThreshold := f c.mildThreshold
  mildMinVotes := c.mildMinVotes
  mildFactor := f c.mildFactor

def Factors.map {α β : Type} (f : α → β) (s : Factors α) : Factors β :=
  ⟨f s.time, f s.tag, f s.reaction⟩

end RankingConfig

def Score.map {α β : Type} (f : α → β) (s : Score α) : Score β :=
  ⟨f s.time, f s.tag, f s.reaction, f s.base, f s.penalty, f s.value⟩

open Arithmetic Checked

variable {verdict : Option ℝ → Option ℝ → Bool} {c : RankingConfig ℝ}

lemma RankingConfig.Valid.factors_checked (h : c.Valid) :
    (c.map (of verdict)).factors = c.factors.map (of verdict) := by
  have hsum := h.totalWeight_pos
  rw [h.factors_eq, Factors.map, factors]
  simp only [map, positivePart_of, positivePart_of_nonneg h.timeWeight_nonneg,
    positivePart_of_nonneg h.tagWeight_nonneg,
    positivePart_of_nonneg h.reactionWeight_nonneg, add_of, zero_checked, lt_of,
    finite_of, hsum, decide_true, Bool.not_true, Bool.or_self, Bool.false_eq_true, if_false,
    div_of hsum.ne']

namespace Ranking

lemma ageDays_checked (now lastActiveAt : Instant) :
    (ageDays now lastActiveAt : Checked verdict) = of verdict (ageDays now lastActiveAt) := by
  have hday : ((86400 : Int) : ℝ) ≠ 0 := by norm_num
  rw [ageDays, ageDays, ofInt_checked, ofInt_checked, div_of hday, positivePart_of]
  rfl

lemma timeScore_checked (age : ℝ) :
    timeScore (c.map (of verdict)) (of verdict age) = of verdict (timeScore c age) := rfl

lemma reactionScore_checked (h : c.Valid) (reactions : Int) :
    reactionScore (c.map (of verdict)) reactions = of verdict (reactionScore c reactions) := by
  have hcount : (0 : ℝ) < (max reactions 0 : Int) + 1 := by
    have hmax : (0 : ℝ) ≤ (max reactions 0 : Int) := by exact_mod_cast le_max_right _ _
    linarith
  have hbase : 1 < c.logBase + 1 := by linarith [h.logBase_pos]
  have hlog : Real.log (c.logBase + 1) ≠ 0 := (Real.log_pos hbase).ne'
  simp only [reactionScore, RankingConfig.map, ofInt_checked, one_checked, add_of, log_of hcount,
    log_of (zero_lt_one.trans hbase), div_of hlog, capped_of, ofInt_real,
    one_real, log_real]

lemma wilson_checked {up down : Int} {z : ℝ} (hup : 0 ≤ up) (hdown : 0 ≤ down) :
    wilson up down (of verdict z) = of verdict (wilson up down z) := by
  rcases (add_nonneg hup hdown).eq_or_lt with hn | hn
  · simp [wilson, ← hn]
  · have hn' : (0 : ℝ) < (up + down : Int) := by exact_mod_cast hn
    have hshare : (0 : ℝ) ≤ up / (up + down : Int) ∧ (up : ℝ) / (up + down : Int) ≤ 1 := by
      push_cast
      exact share_bounds hup hdown hn
    have hvariance : 0 ≤ (up : ℝ) / (up + down : Int) * (1 - up / (up + down : Int)) :=
      mul_nonneg hshare.1 (sub_nonneg.mpr hshare.2)
    have hsquare : 0 ≤ z * z := mul_self_nonneg z
    have hdouble : ((2 : Int) : ℝ) * (up + down : Int) ≠ 0 := by positivity
    have hfourfold : ((4 : Int) : ℝ) * (up + down : Int) ≠ 0 := by positivity
    have hscale : 1 + z * z / (up + down : Int) ≠ 0 := by positivity
    have hradicand : 0 ≤ ((up : ℝ) / (up + down : Int) * (1 - up / (up + down : Int)) +
        z * z / (((4 : Int) : ℝ) * (up + down : Int))) / (up + down : Int) := by positivity
    simp only [wilson, ofInt_checked, zero_checked, one_checked, le_of, mul_of, add_of, sub_of,
      div_of hn'.ne', div_of hdouble, div_of hfourfold, sqrt_of hradicand, div_of hscale,
      ofInt_real, le_real, zero_real, one_real, sqrt_real, decide_eq_true_eq, hn'.not_ge, if_false]

lemma tagScore_checked (byTag : Bool) {votes : Counters} (hup : 0 ≤ votes.up)
    (hdown : 0 ≤ votes.down) :
    tagScore (c.map (of verdict)) byTag votes = of verdict (tagScore c byTag votes) := by
  unfold tagScore
  split_ifs
  · exact wilson_checked hup hdown
  · rfl

lemma penalty_checked (tag : ℝ) (total : Int) :
    penalty (c.map (of verdict)) (of verdict tag) total = of verdict (penalty c tag total) := by
  rw [penalty, penalty, apply_ite (of verdict), apply_ite (of verdict), one_checked, one_real]
  rfl

/-- All that makes up a score has a value, whatever comparisons without one would say. -/
lemma score_checked (h : c.Valid) (byTag : Bool) (now : Instant) {row : RankRow}
    (hup : 0 ≤ row.votes.up) (hdown : 0 ≤ row.votes.down) :
    score (c.map (of verdict)) byTag now row = (score c byTag now row).map (of verdict) := by
  simp only [score, ageDays_checked, timeScore_checked, tagScore_checked byTag hup hdown,
    reactionScore_checked h, h.factors_checked, RankingConfig.Factors.map, penalty_checked, mul_of,
    add_of, Score.map]

end Ranking

end ForumSearch
