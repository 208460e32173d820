import ForumSearch.Proofs.Ranking.Reals

/-!
# The Wilson bound

The Wilson bound is the smaller of the two shares from which the observed share lies a given number
of standard deviations away, that is, the smaller root of a quadratic equation. A number is at most
the bound if it passes a test in which no root occurs, and what a further vote does to the bound is
seen from the test. More votes of the same share only make the spread smaller, which brings the root
closer to the share.
-/

namespace ForumSearch.Ranking

open Arithmetic

section Root

/-- The smaller number `x` with `(p - x) ^ 2 = a * (x * (1 - x))`. -/
noncomputable def lowerRoot (p a : ℝ) : ℝ :=
  (p + a / 2 - √(a * (p * (1 - p) + a / 4))) / (1 + a)

/-- The greater number `x` with `(p - x) ^ 2 = a * (x * (1 - x))`. -/
noncomputable def upperRoot (p a : ℝ) : ℝ :=
  (p + a / 2 + √(a * (p * (1 - p) + a / 4))) / (1 + a)

variable {p a : ℝ} (hp : 0 ≤ p) (hp' : p ≤ 1) (ha : 0 < a)

include hp hp' ha

lemma sq_sub_eq_roots (x : ℝ) :
    (p - x) ^ 2 - a * (x * (1 - x)) = (1 + a) * ((x - lowerRoot p a) * (x - upperRoot p a)) := by
  have hvariance : 0 ≤ p * (1 - p) := mul_nonneg hp (sub_nonneg.mpr hp')
  have hsq : √(a * (p * (1 - p) + a / 4)) ^ 2 = a * (p * (1 - p) + a / 4) :=
    Real.sq_sqrt (by positivity)
  have hpos : 1 + a ≠ 0 := by positivity
  rw [lowerRoot, upperRoot]
  generalize √(a * (p * (1 - p) + a / 4)) = root at hsq ⊢
  field_simp
  linear_combination 4 * hsq

/-- The observed share lies between the roots. -/
lemma lowerRoot_le_and_le_upperRoot : lowerRoot p a ≤ p ∧ p ≤ upperRoot p a := by
  have hvariance : 0 ≤ p * (1 - p) := mul_nonneg hp (sub_nonneg.mpr hp')
  have habs : |a * (p - 1 / 2)| ≤ √(a * (p * (1 - p) + a / 4)) := by
    refine Real.abs_le_sqrt ?_
    nlinarith [mul_nonneg ha.le hvariance, mul_nonneg (mul_nonneg ha.le ha.le) hvariance]
  obtain ⟨hlower, hupper⟩ := abs_le.mp habs
  have hpos : 0 < 1 + a := by positivity
  rw [lowerRoot, upperRoot, div_le_iff₀ hpos, le_div_iff₀ hpos]
  constructor <;> linarith

lemma lowerRoot_nonneg : 0 ≤ lowerRoot p a := by
  have hvariance : 0 ≤ p * (1 - p) := mul_nonneg hp (sub_nonneg.mpr hp')
  have hroot : √(a * (p * (1 - p) + a / 4)) ≤ p + a / 2 := by
    refine Real.sqrt_le_iff.mpr ⟨by positivity, ?_⟩
    nlinarith [mul_nonneg ha.le (sq_nonneg p), sq_nonneg p]
  exact div_nonneg (sub_nonneg.mpr hroot) (by positivity)

omit hp in
lemma lowerRoot_lt_one : lowerRoot p a < 1 := by
  have hroot := Real.sqrt_nonneg (a * (p * (1 - p) + a / 4))
  rw [lowerRoot, div_lt_one (by positivity)]
  linarith

/-- Below the observed share the quadratic is non-negative up to the smaller root. -/
lemma le_lowerRoot_iff {x : ℝ} :
    x ≤ lowerRoot p a ↔ x < 1 ∧ x ≤ p ∧ a * (x * (1 - x)) ≤ (p - x) ^ 2 := by
  obtain ⟨hlower, hupper⟩ := lowerRoot_le_and_le_upperRoot hp hp' ha
  have hroots := sq_sub_eq_roots hp hp' ha x
  have hpos : 0 < 1 + a := by positivity
  constructor
  · intro h
    have hproduct : 0 ≤ (x - lowerRoot p a) * (x - upperRoot p a) :=
      mul_nonneg_of_nonpos_of_nonpos (by linarith) (by linarith)
    have htest := mul_nonneg hpos.le hproduct
    exact ⟨h.trans_lt (lowerRoot_lt_one hp' ha), h.trans hlower, by linarith⟩
  · rintro ⟨hone, hshare, htest⟩
    by_contra hlt
    rw [not_le] at hlt
    -- The test leaves only the observed share, which is then itself the greater root.
    have hx : x = upperRoot p a := by
      refine le_antisymm (hshare.trans hupper) ?_
      by_contra hless
      rw [not_le] at hless
      have hneg : (x - lowerRoot p a) * (x - upperRoot p a) < 0 :=
        mul_neg_of_pos_of_neg (by linarith) (by linarith)
      have := mul_neg_of_pos_of_neg hpos hneg
      linarith
    have hxp : x = p := le_antisymm hshare (hx ▸ hupper)
    have hxpos : 0 < x := (lowerRoot_nonneg hp hp' ha).trans_lt hlt
    have hvariance : 0 < a * (x * (1 - x)) := mul_pos ha (mul_pos hxpos (by linarith))
    rw [← hxp] at htest
    linarith

lemma lowerRoot_lt_upperRoot : lowerRoot p a < upperRoot p a := by
  have hvariance : 0 ≤ p * (1 - p) := mul_nonneg hp (sub_nonneg.mpr hp')
  have hroot : 0 < √(a * (p * (1 - p) + a / 4)) := Real.sqrt_pos.mpr (by positivity)
  rw [lowerRoot, upperRoot]
  gcongr
  linarith

lemma sq_sub_eq_iff {x : ℝ} :
    (p - x) ^ 2 = a * (x * (1 - x)) ↔ x = lowerRoot p a ∨ x = upperRoot p a := by
  have hpos : 1 + a ≠ 0 := by positivity
  rw [← sub_eq_zero, sq_sub_eq_roots hp hp' ha, mul_eq_zero, or_iff_right hpos, mul_eq_zero,
    sub_eq_zero, sub_eq_zero]

lemma lowerRoot_eq_zero_iff : lowerRoot p a = 0 ↔ p = 0 := by
  constructor
  · intro hzero
    have hsq := (sq_sub_eq_iff hp hp' ha).mpr (.inl hzero.symm)
    simpa using hsq
  · intro hshare
    have hle := (lowerRoot_le_and_le_upperRoot hp hp' ha).1
    exact le_antisymm (hle.trans hshare.le) (lowerRoot_nonneg hp hp' ha)

lemma lowerRoot_lt (hpos : 0 < p) : lowerRoot p a < p := by
  refine (lowerRoot_le_and_le_upperRoot hp hp' ha).1.lt_of_ne fun heq => ?_
  -- At the share itself the distance is zero and the spread is not.
  have hsq := (sq_sub_eq_iff hp hp' ha).mpr (.inl heq.symm)
  have hone : p < 1 := heq ▸ lowerRoot_lt_one hp' ha
  have hspread : 0 < a * (p * (1 - p)) := mul_pos ha (mul_pos hpos (sub_pos.mpr hone))
  rw [sub_self] at hsq
  linarith

/-- Where the spread is smaller, the root is closer to the share. -/
lemma lowerRoot_lt_lowerRoot (hpos : 0 < p) {b : ℝ} (hb : 0 < b) (hba : b < a) :
    lowerRoot p a < lowerRoot p b := by
  have hx : 0 < lowerRoot p a := (lowerRoot_nonneg hp hp' ha).lt_of_ne fun hzero =>
    hpos.ne' ((lowerRoot_eq_zero_iff hp hp' ha).mp hzero.symm)
  have hone : lowerRoot p a < 1 := lowerRoot_lt_one hp' ha
  have hroot := (sq_sub_eq_iff hp hp' ha).mpr (.inl rfl)
  have hspread := mul_lt_mul_of_pos_right hba (mul_pos hx (sub_pos.mpr hone))
  have hle : lowerRoot p a ≤ lowerRoot p b :=
    (le_lowerRoot_iff hp hp' hb).mpr ⟨hone, (lowerRoot_lt hp hp' ha hpos).le, by linarith⟩
  refine hle.lt_of_ne fun heq => ?_
  have hroot' := (sq_sub_eq_iff hp hp' hb).mpr (.inl heq)
  linarith

end Root

section Counts

variable {up down : Int} {z : ℝ}

lemma wilson_eq_lowerRoot (hn : 0 < up + down) (hz : 0 ≤ z) :
    wilson up down z = lowerRoot (up / (up + down)) (z ^ 2 / (up + down)) := by
  have hn' : (0 : ℝ) < up + down := by exact_mod_cast hn
  have hmargin (v : ℝ) : z * √((v + z * z / (4 * (up + down))) / (up + down)) =
      √(z ^ 2 / (up + down) * (v + z ^ 2 / (up + down) / 4)) := by
    conv_lhs => rw [← Real.sqrt_sq hz, ← Real.sqrt_mul (sq_nonneg z)]
    congr 1
    rw [Real.sqrt_sq hz]
    field_simp
  have hspread : z * z / (2 * (up + down)) = z ^ 2 / (up + down) / 2 := by field_simp
  rw [wilson, lowerRoot, ← hmargin]
  simp only [ofInt_real, le_real, zero_real, one_real, sqrt_real, Int.cast_add, Int.cast_ofNat]
  rw [if_neg (by simpa using hn'), hspread, sq]

lemma share_bounds (hup : 0 ≤ up) (hdown : 0 ≤ down) (hn : 0 < up + down) :
    0 ≤ (up : ℝ) / (up + down) ∧ (up : ℝ) / (up + down) ≤ 1 := by
  have hup' : (0 : ℝ) ≤ up := by exact_mod_cast hup
  have hdown' : (0 : ℝ) ≤ down := by exact_mod_cast hdown
  have hn' : (0 : ℝ) < up + down := by exact_mod_cast hn
  exact ⟨div_nonneg hup' hn'.le, (div_le_one hn').mpr (by linarith)⟩

variable (hup : 0 ≤ up) (hdown : 0 ≤ down) (hz : 0 < z)

include hup hdown hz

lemma wilson_nonneg : 0 ≤ wilson up down z := by
  rcases (add_nonneg hup hdown).eq_or_lt with hn | hn
  · rw [wilson, ← hn]
    simp
  · have hn' : (0 : ℝ) < up + down := by exact_mod_cast hn
    obtain ⟨hshare, hshare'⟩ := share_bounds hup hdown hn
    rw [wilson_eq_lowerRoot hn hz.le]
    exact lowerRoot_nonneg hshare hshare' (by positivity)

lemma le_wilson_iff (hn : 0 < up + down) {x : ℝ} :
    x ≤ wilson up down z ↔ x < 1 ∧ (up + down) * x ≤ up ∧
      z ^ 2 * (up + down) * (x * (1 - x)) ≤ (up - (up + down) * x) ^ 2 := by
  have hn' : (0 : ℝ) < up + down := by exact_mod_cast hn
  obtain ⟨hshare, hshare'⟩ := share_bounds hup hdown hn
  have hspread : 0 < z ^ 2 / ((up : ℝ) + down) := by positivity
  have hscaled : z ^ 2 / (up + down) * (x * (1 - x)) ≤ (up / (up + down) - x) ^ 2 ↔
      z ^ 2 * (up + down) * (x * (1 - x)) ≤ (up - (up + down) * x) ^ 2 := by
    have hsq : (0 : ℝ) < (up + down) ^ 2 := by positivity
    rw [← mul_le_mul_iff_right₀ hsq]
    refine iff_of_eq (congrArg₂ (· ≤ ·) ?_ ?_) <;> field_simp
  rw [wilson_eq_lowerRoot hn hz.le, le_lowerRoot_iff hshare hshare' hspread, le_div_iff₀' hn', hscaled]

/-- One more upvote does not lower the bound. -/
lemma wilson_le_wilson_succ_up (hn : 0 < up + down) : wilson up down z ≤ wilson (up + 1) down z := by
  obtain ⟨hone, hshare, htest⟩ := (le_wilson_iff hup hdown hz hn).mp (le_refl (wilson up down z))
  have hx := wilson_nonneg hup hdown hz
  set x := wilson up down z
  have hn' : (0 : ℝ) < up + down := by exact_mod_cast hn
  have hdown' : (0 : ℝ) ≤ down := by exact_mod_cast hdown
  have hrest : 0 < 1 - x := by linarith
  have hdistance : 0 ≤ up - (up + down) * x := by linarith
  -- The share is at most one, so the distance from it grows faster than the spread.
  have hmore : z ^ 2 * (x * (1 - x)) ≤ (up - (up + down) * x) * (1 - x) := by
    have hatmost : (up : ℝ) - (up + down) * x ≤ (up + down) * (1 - x) := by linarith
    refine le_of_mul_le_mul_left ?_ hn'
    calc ((up : ℝ) + down) * (z ^ 2 * (x * (1 - x)))
        = z ^ 2 * (up + down) * (x * (1 - x)) := by ring
      _ ≤ (up - (up + down) * x) ^ 2 := htest
      _ ≤ (up - (up + down) * x) * ((up + down) * (1 - x)) := by
        rw [sq]
        exact mul_le_mul_of_nonneg_left hatmost hdistance
      _ = (up + down) * ((up - (up + down) * x) * (1 - x)) := by ring
  refine (le_wilson_iff (by omega) hdown hz (by omega)).mpr ⟨hone, ?_, ?_⟩
  · push_cast
    linarith
  · push_cast
    have hcross := mul_nonneg hdistance hrest.le
    calc z ^ 2 * (up + 1 + down) * (x * (1 - x))
        = z ^ 2 * (up + down) * (x * (1 - x)) + z ^ 2 * (x * (1 - x)) := by ring
      _ ≤ (up - (up + down) * x) ^ 2 + (up - (up + down) * x) * (1 - x) := add_le_add htest hmore
      _ ≤ (up - (up + down) * x + (1 - x)) ^ 2 := by linarith [sq_nonneg (1 - x)]
      _ = (up + 1 - (up + 1 + down) * x) ^ 2 := by ring

lemma wilson_le_wilson_of_up_le (hn : 0 < up + down) {up' : Int} (h : up ≤ up') :
    wilson up down z ≤ wilson up' down z := by
  induction up', h using Int.leInduction with
  | base => exact le_rfl
  | succ up' h ih => exact ih.trans (wilson_le_wilson_succ_up (by omega) hdown hz (by omega))

/-- One more downvote does not raise the bound. -/
lemma wilson_succ_down_le_wilson (hn : 0 < up + down) : wilson up (down + 1) z ≤ wilson up down z := by
  have hdown' : 0 ≤ down + 1 := by omega
  have hn' : 0 < up + (down + 1) := by omega
  obtain ⟨hone, hshare, htest⟩ :=
    (le_wilson_iff hup hdown' hz hn').mp (le_refl (wilson up (down + 1) z))
  have hx := wilson_nonneg hup hdown' hz
  set x := wilson up (down + 1) z
  push_cast at hshare htest
  have hspread : 0 ≤ z ^ 2 * (x * (1 - x)) :=
    mul_nonneg (sq_nonneg z) (mul_nonneg hx (sub_nonneg.mpr hone.le))
  refine (le_wilson_iff hup hdown hz hn).mpr ⟨hone, by linarith, ?_⟩
  calc z ^ 2 * (up + down) * (x * (1 - x))
      ≤ z ^ 2 * (up + (down + 1)) * (x * (1 - x)) := by linarith
    _ ≤ (up - (up + (down + 1)) * x) ^ 2 := htest
    _ ≤ (up - (up + down) * x) ^ 2 := pow_le_pow_left₀ (by linarith) (by linarith) 2

lemma wilson_le_wilson_of_down_le (hn : 0 < up + down) {down' : Int} (h : down ≤ down') :
    wilson up down' z ≤ wilson up down z := by
  induction down', h using Int.leInduction with
  | base => exact le_rfl
  | succ down' h ih => exact (wilson_succ_down_le_wilson hup (by omega) hz (by omega)).trans ih

/-- More votes of the same share bring the bound closer to the share. -/
lemma wilson_lt_wilson_mul (hpos : 0 < up) {k : Int} (hk : 1 < k) :
    wilson up down z < wilson (k * up) (k * down) z := by
  have hn : 0 < up + down := by omega
  have hkn : 0 < k * up + k * down := by
    rw [← mul_add]
    exact mul_pos (by omega) hn
  have hk' : (1 : ℝ) < k := by exact_mod_cast hk
  have hpos' : (0 : ℝ) < up := by exact_mod_cast hpos
  have hn' : (0 : ℝ) < up + down := by exact_mod_cast hn
  obtain ⟨hshare, hshare'⟩ := share_bounds hup hdown hn
  have hsame : ((k * up : Int) : ℝ) / ((k * up : Int) + (k * down : Int)) = up / (up + down) := by
    push_cast
    rw [← mul_add]
    exact mul_div_mul_left _ _ (by positivity)
  have hspread : z ^ 2 / ((k * up : Int) + (k * down : Int)) < z ^ 2 / ((up : ℝ) + down) := by
    push_cast
    rw [← mul_add]
    refine div_lt_div_of_pos_left (by positivity) hn' ?_
    exact lt_mul_of_one_lt_left hn' hk'
  have hkn' : (0 : ℝ) < (k * up : Int) + (k * down : Int) := by exact_mod_cast hkn
  rw [wilson_eq_lowerRoot hn hz.le, wilson_eq_lowerRoot hkn hz.le, hsame]
  exact lowerRoot_lt_lowerRoot hshare hshare' (by positivity) (by positivity) (by positivity) hspread

lemma wilson_eq_zero_iff (hn : 0 < up + down) : wilson up down z = 0 ↔ up = 0 := by
  have hn' : (0 : ℝ) < up + down := by exact_mod_cast hn
  obtain ⟨hshare, hshare'⟩ := share_bounds hup hdown hn
  rw [wilson_eq_lowerRoot hn hz.le, lowerRoot_eq_zero_iff hshare hshare' (by positivity),
    div_eq_zero_iff, or_iff_left hn'.ne', Int.cast_eq_zero]

lemma wilson_lt_one (hn : 0 < up + down) : wilson up down z < 1 := by
  have hn' : (0 : ℝ) < up + down := by exact_mod_cast hn
  rw [wilson_eq_lowerRoot hn hz.le]
  exact lowerRoot_lt_one (share_bounds hup hdown hn).2 (by positivity)

omit hup hdown in
/-- The first upvote gives a bound that the default may exceed. -/
lemma wilson_one_zero : wilson 1 0 z = 1 / (1 + z ^ 2) := by
  rw [wilson_eq_lowerRoot (by decide) hz.le, lowerRoot]
  have hroot : √(z ^ 2 * (z ^ 2 / 4)) = z ^ 2 / 2 := by
    rw [show z ^ 2 * (z ^ 2 / 4) = (z ^ 2 / 2) ^ 2 by ring, Real.sqrt_sq (by positivity)]
  simp [hroot]

end Counts

section TagScore

variable {c : RankingConfig ℝ} {byTag : Bool} {votes : Counters} (h : c.Valid) (hup : 0 ≤ votes.up)
  (hdown : 0 ≤ votes.down)

include h hup hdown

lemma tagScore_nonneg : 0 ≤ tagScore c byTag votes := by
  unfold tagScore
  split_ifs
  · exact wilson_nonneg hup hdown h.confidence_pos
  · exact h.defaultTagScore_mem.1

lemma tagScore_le_one : tagScore c byTag votes ≤ 1 := by
  unfold tagScore
  split_ifs with hvotes
  · have hn : 0 < votes.up + votes.down := by
      cases byTag with
      | false => exact absurd hvotes (lt_irrefl 0)
      | true => exact hvotes
    exact (wilson_lt_one hup hdown h.confidence_pos hn).le
  · exact h.defaultTagScore_mem.2

end TagScore

/-- The Wilson bound of at least one vote is the smaller root of its equation. It is at least zero and
below one, zero without upvotes only, and below the share of upvotes otherwise. It does not fall with
the upvotes, does not rise with the downvotes, and rises when both are multiplied. -/
theorem wilson_smaller_root {up down : Int} {z : ℝ} (hup : 0 ≤ up) (hdown : 0 ≤ down)
    (hn : 0 < up + down) (hz : 0 < z) :
    (∃ greater, wilson up down z < greater ∧ ∀ x : ℝ,
      ((up : ℝ) / (up + down) - x) ^ 2 = z ^ 2 * x * (1 - x) / (up + down) ↔
        x = wilson up down z ∨ x = greater) ∧
      0 ≤ wilson up down z ∧ wilson up down z < 1 ∧ (wilson up down z = 0 ↔ up = 0) ∧
      (0 < up → wilson up down z < (up : ℝ) / (up + down)) ∧
      (∀ up', up ≤ up' → wilson up down z ≤ wilson up' down z) ∧
      (∀ down', down ≤ down' → wilson up down' z ≤ wilson up down z) ∧
      (0 < up → ∀ k : Int, 1 < k → wilson up down z < wilson (k * up) (k * down) z) := by
  have hn' : (0 : ℝ) < up + down := by exact_mod_cast hn
  obtain ⟨hshare, hshare'⟩ := share_bounds hup hdown hn
  have hspread : 0 < z ^ 2 / ((up : ℝ) + down) := by positivity
  have hw := wilson_eq_lowerRoot hn hz.le
  refine ⟨⟨upperRoot (up / (up + down)) (z ^ 2 / (up + down)), ?_, fun x => ?_⟩,
    wilson_nonneg hup hdown hz, wilson_lt_one hup hdown hz hn, wilson_eq_zero_iff hup hdown hz hn,
    fun h => ?_, fun up' h => wilson_le_wilson_of_up_le hup hdown hz hn h,
    fun down' h => wilson_le_wilson_of_down_le hup hdown hz hn h,
    fun h k hk => wilson_lt_wilson_mul hup hdown hz h hk⟩
  · rw [hw]
    exact lowerRoot_lt_upperRoot hshare hshare' hspread
  · have hform : z ^ 2 * x * (1 - x) / (up + down) = z ^ 2 / (up + down) * (x * (1 - x)) := by ring
    rw [hw, hform]
    exact sq_sub_eq_iff hshare hshare' hspread
  · have hpos : (0 : ℝ) < up / (up + down) := div_pos (by exact_mod_cast h) hn'
    rw [hw]
    exact lowerRoot_lt hshare hshare' hspread hpos

/-- Eight upvotes of ten votes, and eighty of a hundred. -/
theorem wilson_smaller_root_ten_votes :
    (0 : Int) ≤ 8 ∧ (0 : Int) ≤ 2 ∧ (0 : Int) < 8 + 2 ∧ (0 : ℝ) < 1.96 ∧
      0 ≤ wilson 8 2 (1.96 : ℝ) ∧ wilson 8 2 (1.96 : ℝ) < ((8 : Int) : ℝ) / ((8 : Int) + (2 : Int)) ∧
      wilson 8 2 (1.96 : ℝ) < wilson (10 * 8) (10 * 2) (1.96 : ℝ) := by
  have hup : (0 : Int) ≤ 8 := by decide
  have hdown : (0 : Int) ≤ 2 := by decide
  have hn : (0 : Int) < 8 + 2 := by decide
  have hz : (0 : ℝ) < 1.96 := by norm_num
  obtain ⟨-, hnonneg, -, -, hbelow, -, -, hscaled⟩ := wilson_smaller_root hup hdown hn hz
  exact ⟨hup, hdown, hn, hz, hnonneg, hbelow (by decide), hscaled (by decide) 10 (by decide)⟩

end ForumSearch.Ranking
