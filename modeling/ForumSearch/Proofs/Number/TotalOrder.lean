import ForumSearch.Number.Binary64
import Mathlib

/-!
# The total order of floating-point numbers

Bit patterns are compared as integers. On numbers that are not NaN this is the usual order, except
that minus zero comes before zero. The sign and the magnitude of a pattern are what the two orders
have in common.
-/

namespace ForumSearch.Binary64

open Float.Model Float.Model.UnpackedFloat

/-- One number comes before another one: it is less, or they are minus zero and zero. -/
def Below (x y : Float) : Prop :=
  x < y ∨ x = -0 ∧ y = 0

/-- The bits of a value but for its sign. -/
def magnitude : UnpackedFloat → ℤ
  | .zero _ => 0
  | .finite _ mantissa exponent _ => (exponent + 1074) * 2 ^ 52 + mantissa
  | .infinity _ => 2047 * 2 ^ 52
  | .notANumber => 0

def signed : Sign → ℤ → ℤ
  | .positive, n => n
  | .negative, n => -n

def signOf (bits : ℕ) : Sign :=
  if bits < 2 ^ 63 then .positive else .negative

/-- What bits stand for unless it is NaN. A mantissa has its leading bit unless the exponent is the
least one. -/
inductive Encoded (s : Sign) : UnpackedFloat → Prop where
  | zero : Encoded s (.zero s)
  | finite {m : ℕ} {e : ℤ} (hm : 0 < m) (fits : m < 2 ^ 53) (least : -1074 ≤ e) (most : e ≤ 971)
      (leading : 2 ^ 52 ≤ m ∨ e = -1074) : Encoded s (.finite s m e hm)
  | infinity : Encoded s (.infinity s)

/-- Exponents decide before mantissas. -/
lemma compare_finite {e f : ℤ} {m n : ℕ} (hm : m < 2 ^ 53) (hn : n < 2 ^ 53) (he : -1074 ≤ e)
    (hf : -1074 ≤ f) (hme : 2 ^ 52 ≤ m ∨ e = -1074) (hnf : 2 ^ 52 ≤ n ∨ f = -1074) :
    (compare e f).then (compare m n) =
      compare ((e + 1074) * 2 ^ 52 + m : ℤ) ((f + 1074) * 2 ^ 52 + n) := by
  rcases lt_trichotomy e f with h | rfl | h
  · have hlt : (e + 1074) * 2 ^ 52 + m < (f + 1074) * 2 ^ 52 + n := by omega
    rw [compare_lt_iff_lt.mpr h, compare_lt_iff_lt.mpr hlt]
    rfl
  · rw [compare_eq_iff_eq.mpr rfl]
    rcases lt_trichotomy m n with h | rfl | h
    · have hlt : (e + 1074) * 2 ^ 52 + m < (e + 1074) * 2 ^ 52 + (n : ℤ) := by omega
      rw [compare_lt_iff_lt.mpr h, compare_lt_iff_lt.mpr hlt]
      rfl
    · simp
    · have hgt : (e + 1074) * 2 ^ 52 + (n : ℤ) < (e + 1074) * 2 ^ 52 + m := by omega
      rw [compare_gt_iff_gt.mpr h, compare_gt_iff_gt.mpr hgt]
      rfl
  · have hgt : (f + 1074) * 2 ^ 52 + n < (e + 1074) * 2 ^ 52 + m := by omega
    rw [compare_gt_iff_gt.mpr h, compare_gt_iff_gt.mpr hgt]
    rfl

lemma lt_iff_signed_finite {s t : Sign} {m n : ℕ} {e f : ℤ} {hm : 0 < m} {hn : 0 < n}
    (hu : Encoded s (.finite s m e hm)) (hv : Encoded t (.finite t n f hn)) :
    (UnpackedFloat.finite s m e hm).lt (.finite t n f hn) = true ↔
      signed s ((e + 1074) * 2 ^ 52 + m) < signed t ((f + 1074) * 2 ^ 52 + n) := by
  cases hu with | finite _ fits least most leading =>
  cases hv with | finite _ fits' least' most' leading' =>
  have hcompare := compare_finite fits fits' least least' leading leading'
  have hk : 0 < (e + 1074) * 2 ^ 52 + (m : ℤ) := by omega
  have hl : 0 < (f + 1074) * 2 ^ 52 + (n : ℤ) := by omega
  revert hcompare hk hl
  generalize (e + 1074) * 2 ^ 52 + (m : ℤ) = k
  generalize (f + 1074) * 2 ^ 52 + (n : ℤ) = l
  intro hcompare hk hl
  unfold UnpackedFloat.lt
  cases s <;> cases t <;> simp only [UnpackedFloat.compare, hcompare, signed, beq_iff_eq]
  · rw [← Std.OrientedOrd.eq_swap, Option.some.injEq, compare_lt_iff_lt, neg_lt_neg_iff]
  · simp; omega
  · simp; omega
  · rw [Option.some.injEq, compare_lt_iff_lt]

lemma lt_iff_signed {s t : Sign} {u v : UnpackedFloat} (hu : Encoded s u) (hv : Encoded t v) :
    u.lt v = true ↔ signed s (magnitude u) < signed t (magnitude v) := by
  cases hu with
  | zero =>
    cases hv with
    | zero => cases s <;> cases t <;> decide
    | finite hn fits least most leading =>
      unfold UnpackedFloat.lt
      cases s <;> cases t <;> simp [UnpackedFloat.compare, signed, magnitude] <;> omega
    | infinity => cases s <;> cases t <;> decide
  | finite hm fits least most leading =>
    have hu := Encoded.finite (s := s) hm fits least most leading
    cases hv with
    | zero =>
      unfold UnpackedFloat.lt
      cases s <;> cases t <;> simp [UnpackedFloat.compare, signed, magnitude] <;> omega
    | finite hn fits' least' most' leading' =>
      exact lt_iff_signed_finite hu (.finite hn fits' least' most' leading')
    | infinity =>
      unfold UnpackedFloat.lt
      cases s <;> cases t <;> simp [UnpackedFloat.compare, signed, magnitude] <;> omega
  | infinity =>
    cases hv with
    | zero => cases s <;> cases t <;> decide
    | finite hn fits least most leading =>
      unfold UnpackedFloat.lt
      cases s <;> cases t <;> simp [UnpackedFloat.compare, signed, magnitude] <;> omega
    | infinity => cases s <;> cases t <;> decide

section Unpack

variable (b : BitVec Format.binary64.numBits)

lemma toNat_unpackMantissa :
    (unpackMantissa b).toNat = b.toNat % 2 ^ 52 := by
  simp [unpackMantissa]

lemma toNat_unpackExponent :
    (unpackExponent b).toNat = b.toNat / 2 ^ 52 % 2048 := by
  simp [unpackExponent, Nat.shiftRight_eq_div_pow]

lemma ofBitVec_unpackSign :
    Sign.ofBitVec (unpackSign b) = signOf b.toNat := by
  have hb : b.toNat < 2 ^ 64 := b.isLt
  have hsign : (unpackSign b).toNat = b.toNat / 2 ^ 63 := by
    simp [unpackSign, Nat.shiftRight_eq_div_pow]
    omega
  have hpositive : unpackSign b = 0#1 ↔ b.toNat < 2 ^ 63 := by
    rw [← BitVec.toNat_inj, hsign]
    simp
  simp only [Sign.ofBitVec, signOf, hpositive]

/-- Bits that do not stand for NaN stand for a value that gives them back. -/
lemma encoded_unpack (h : (UnpackedFloat.unpack .binary64 b).isNaN = false) :
    Encoded (signOf b.toNat) (UnpackedFloat.unpack .binary64 b) ∧
      magnitude (UnpackedFloat.unpack .binary64 b) = (b.toNat % 2 ^ 63 : ℕ) := by
  have hdigits : b.toNat % 2 ^ 63 = b.toNat / 2 ^ 52 % 2048 * 2 ^ 52 + b.toNat % 2 ^ 52 := by
    omega
  have hbias : (Format.binary64.exponentBias : ℤ) = 1023 := rfl
  have hmantissa : (unpackMantissa b).toNat < 2 ^ 52 := (unpackMantissa b).isLt
  have hexponent : (unpackExponent b).toNat < 2 ^ 11 := (unpackExponent b).isLt
  rw [hdigits, ← toNat_unpackMantissa, ← toNat_unpackExponent]
  unfold UnpackedFloat.unpack at h ⊢
  simp only [ofBitVec_unpackSign, hbias] at h ⊢
  split_ifs at h ⊢ with hmost hzero hleast hzero
  · rw [hmost, hzero]
    exact ⟨.infinity, rfl⟩
  · simp [UnpackedFloat.isNaN] at h
  · rw [hleast, hzero]
    exact ⟨.zero, rfl⟩
  · have hpos : 0 < (unpackMantissa b).toNat :=
      Nat.pos_of_ne_zero fun h => hzero (BitVec.eq_of_toNat_eq h)
    have hexponent : (unpackExponent b).toNat = 0 := by rw [hleast]; rfl
    refine ⟨.finite hpos (by omega) (by omega) (by omega) (.inr (by omega)), ?_⟩
    simp only [magnitude]
    omega
  · have hpos : (unpackExponent b).toNat ≠ 0 :=
      fun h => hleast (BitVec.eq_of_toNat_eq h)
    have hfinite : (unpackExponent b).toNat ≠ 2047 :=
      fun h => hmost (BitVec.eq_of_toNat_eq h)
    have happend : (1#1 ++ unpackMantissa b).toNat =
        2 ^ 52 + (unpackMantissa b).toNat := by
      rw [BitVec.toNat_append, ← Nat.shiftLeft_add_eq_or_of_lt hmantissa]
      rfl
    refine ⟨.finite (by omega) (by omega) (by omega) (by omega) (.inl (by omega)), ?_⟩
    simp only [magnitude]
    omega

end Unpack

lemma orderKey_eq (bits : ℕ) :
    orderKey bits = if bits < 2 ^ 63 then (bits : ℤ) else 2 ^ 63 - 1 - bits := rfl

lemma signed_signOf (bits : ℕ) (n : ℤ) :
    signed (signOf bits) n = if bits < 2 ^ 63 then n else -n := by
  unfold signOf
  split_ifs <;> rfl

section Float

variable {x y : Float}

lemma toBits_inj : x.toBits = y.toBits ↔ x = y := by
  refine ⟨fun h => ?_, congrArg _⟩
  rw [← Float.ofBits_toBits x, ← Float.ofBits_toBits y, h]

lemma eq_neg_zero_iff : x = -0 ↔ x.toBits.toNat = 2 ^ 63 := by
  have hbits : (-0 : Float).toBits.toNat = 2 ^ 63 := by decide +kernel
  rw [← toBits_inj, ← UInt64.toNat_inj, hbits]

lemma eq_zero_iff : x = 0 ↔ x.toBits.toNat = 0 := by
  have hbits : (0 : Float).toBits.toNat = 0 := by decide +kernel
  rw [← toBits_inj, ← UInt64.toNat_inj, hbits]

lemma orderKey_inj : orderKey x.toBits.toNat = orderKey y.toBits.toNat ↔ x = y := by
  refine ⟨fun h => ?_, fun h => h ▸ rfl⟩
  have hx := x.toBits.toNat_lt
  have hy := y.toBits.toNat_lt
  rw [← toBits_inj, ← UInt64.toNat_inj]
  rw [orderKey_eq, orderKey_eq] at h
  split_ifs at h <;> omega

lemma lt_iff_signed_bits (hx : x.isNaN = false) (hy : y.isNaN = false) :
    x < y ↔ signed (signOf x.toBits.toNat) (x.toBits.toNat % 2 ^ 63 : ℕ) <
      signed (signOf y.toBits.toNat) (y.toBits.toNat % 2 ^ 63 : ℕ) := by
  obtain ⟨hu, hmx⟩ := encoded_unpack x.toBits.toBitVec hx
  obtain ⟨hv, hmy⟩ := encoded_unpack y.toBits.toBitVec hy
  have hlt := lt_iff_signed hu hv
  rw [hmx, hmy] at hlt
  change decide (x.toModel.lt y.toModel = true) = true ↔ _
  rw [decide_eq_true_iff]
  exact hlt

/-- The comparison of bit patterns is the total order. -/
theorem orderKey_lt_iff (hx : x.isNaN = false) (hy : y.isNaN = false) :
    orderKey x.toBits.toNat < orderKey y.toBits.toNat ↔ Below x y := by
  have hxbits := x.toBits.toNat_lt
  have hybits := y.toBits.toNat_lt
  unfold Below
  rw [lt_iff_signed_bits hx hy, eq_neg_zero_iff, eq_zero_iff]
  rw [orderKey_eq, orderKey_eq, signed_signOf, signed_signOf]
  split_ifs <;> omega

end Float

end ForumSearch.Binary64
