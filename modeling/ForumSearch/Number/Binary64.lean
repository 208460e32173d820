import ForumSearch.Number.Power

/-!
Binary floating-point numbers of 64 bits: their exact value, the total order of their bit
patterns, and the nearest one to a decimal.
-/

namespace ForumSearch

/-- A sign and the magnitude mantissa · 2 ^ exponent. -/
structure Dyadic where
  negative : Bool
  mantissa : Nat
  exponent : Int
  deriving DecidableEq, Repr

inductive Binary64 where
  | finite (value : Dyadic)
  | infinite (negative : Bool)
  | nan
  deriving DecidableEq, Repr

namespace Binary64

def ofBits (bits : Nat) : Binary64 :=
  let negative := bits / twoTo 63 == 1
  let biased : Nat := bits / twoTo 52 % 2048
  let fraction : Nat := bits % twoTo 52
  if biased = 2047 then if fraction = 0 then .infinite negative else .nan
  else if biased = 0 then .finite ⟨negative, fraction, -1074⟩
  else .finite ⟨negative, twoTo 52 + fraction, biased - 1075⟩

def ofFloat (x : Float) : Binary64 :=
  ofBits x.toBits.toNat

/-- Orders bit patterns as numbers: negative ones below positive ones, larger magnitudes
further from zero, infinities outside and NaN outermost. -/
def orderKey (bits : Nat) : Int :=
  if bits < twoTo 63 then bits else (twoTo 63 : Int) - 1 - bits

/-- The float nearest to ± digits · 10 ^ exponent. -/
def ofDecimal (negative : Bool) (digits : Nat) (exponent : Int) : Float :=
  let size := (Nat.log2 digits : Int) * 3 / 10 + exponent
  let magnitude :=
    if digits = 0 ∨ size < -400 then 0.0
    else if size > 400 then 1.0 / 0.0
    else if exponent < 0 then Float.ofScientific digits true exponent.natAbs
    else Float.ofScientific digits false exponent.natAbs
  if negative then -magnitude else magnitude

end Binary64

end ForumSearch
