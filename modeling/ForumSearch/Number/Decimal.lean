import ForumSearch.Number.Binary64
import ForumSearch.Text.Integer

/-!
Decimal forms of binary floating-point numbers: rounded to a number of significant digits, half
to even, or with the fewest digits that still read back as the same number. All arithmetic is
exact, on quotients of natural numbers.
-/

namespace ForumSearch

/-- A sign and the magnitude digits · 10 ^ exponent. -/
structure Decimal where
  negative : Bool
  digits : Nat
  exponent : Int
  deriving DecidableEq, Repr

namespace Dyadic

/-- The magnitude as a quotient. -/
def ratio (d : Dyadic) : Nat × Nat :=
  if d.exponent < 0 then (d.mantissa, twoTo d.exponent.natAbs)
  else (d.mantissa * twoTo d.exponent.natAbs, 1)

end Dyadic

namespace Decimal

def digitCount (n : Nat) : Nat :=
  (Text.ofNat n).length

/-- num / den · 10 ^ e as a quotient. -/
def scale (num den : Nat) (e : Int) : Nat × Nat :=
  if e < 0 then (num, den * tenTo e.natAbs) else (num * tenTo e.natAbs, den)

/-- The exponent k with 10 ^ k ≤ num / den < 10 ^ (k + 1), for a positive quotient. -/
def leadingExponent (num den : Nat) : Int :=
  let k := (digitCount num : Int) - digitCount den
  let (n, d) := scale num den (-k)
  if d ≤ n then k else k - 1

/-- The natural number nearest to a quotient, the even one of two. -/
def roundHalfEven (num den : Nat) : Nat :=
  let q := num / den
  let r := num % den
  if 2 * r < den then q
  else if den < 2 * r then q + 1
  else if q % 2 = 0 then q else q + 1

/-- The decimal of count significant digits nearest to a number other than 0. -/
def rounded (count : Nat) (d : Dyadic) : Decimal :=
  let (num, den) := d.ratio
  let k := leadingExponent num den
  let e := k - (count - 1 : Nat)
  let (n, m) := scale num den (-e)
  let digits := roundHalfEven n m
  if digits = tenTo count then ⟨d.negative, tenTo (count - 1), e + 1⟩ else ⟨d.negative, digits, e⟩

/-- A decimal grid point lies in the interval that rounds to the mantissa. The interval is
closed when the mantissa is even, and its lower half is shorter at a power of two. -/
def readsBackAs (d : Dyadic) (digits : Nat) (e : Int) : Bool :=
  let (num, den) := scale digits 1 e
  let (a, b) := if d.exponent < 0 then (num * twoTo d.exponent.natAbs, den)
    else (num, den * twoTo d.exponent.natAbs)
  let low := if d.mantissa = twoTo 52 ∧ -1074 < d.exponent then 4 * d.mantissa - 1
    else 4 * d.mantissa - 2
  let high := 4 * d.mantissa + 2
  if d.mantissa % 2 = 0 then low * b ≤ 4 * a && 4 * a ≤ high * b
  else low * b < 4 * a && 4 * a < high * b

/-- The neighbour of a number on the grid of count digits that reads back, the nearer of two. -/
def onGrid (d : Dyadic) (count : Nat) : Option Decimal :=
  let (num, den) := d.ratio
  let e := leadingExponent num den - (count - 1 : Nat)
  let (n, m) := scale num den (-e)
  let below := n / m
  let nearest := roundHalfEven n m
  let other := if nearest = below then below + 1 else below
  if readsBackAs d nearest e then some ⟨d.negative, nearest, e⟩
  else if readsBackAs d other e then some ⟨d.negative, other, e⟩
  else none

/-- Drops the zeros at the end of the digits. -/
def stripZeros : Nat → Decimal → Decimal
  | 0, d => d
  | fuel + 1, d =>
    if d.digits ≠ 0 ∧ d.digits % 10 = 0 then
      stripZeros fuel { d with digits := d.digits / 10, exponent := d.exponent + 1 }
    else d

/-- The decimal of fewest digits that reads back as a number. -/
def shortest (d : Dyadic) : Decimal :=
  if d.mantissa = 0 then ⟨d.negative, 0, 0⟩
  else match ((List.range 17).map (· + 1)).findSome? (onGrid d) with
    | some found => stripZeros 17 found
    | none => rounded 17 d

/-- d.ddde±x with a given number of digits. -/
def scientificText (count : Nat) (d : Dyadic) : Text :=
  let sign := if d.negative then ['-'] else []
  if d.mantissa = 0 then sign ++ '0' :: '.' :: List.replicate (count - 1) '0' ++ ['e', '0']
  else
    let r := rounded count d
    match Text.ofNat r.digits with
    | [] => []
    | lead :: rest =>
      sign ++ lead :: '.' :: rest ++ 'e' :: Text.ofInt (r.exponent + (count - 1 : Nat))

/-- An exponent with its sign. -/
def exponentText (n : Int) : Text :=
  if n < 0 then 'e' :: Text.ofInt n else 'e' :: '+' :: Text.ofInt n

/-- Positional notation for 10 ^ -5 up to 10 ^ 16, always with a decimal point; d.dde±x beyond. -/
def plainText (d : Decimal) : Text :=
  let sign := if d.negative then ['-'] else []
  let digits := Text.ofNat d.digits
  let point := (digits.length : Int) + d.exponent
  sign ++
  if d.digits = 0 then ['0', '.', '0']
  else if 0 ≤ d.exponent ∧ point ≤ 16 then
    digits ++ List.replicate d.exponent.toNat '0' ++ ['.', '0']
  else if 0 < point ∧ point ≤ 16 then
    digits.take point.toNat ++ '.' :: digits.drop point.toNat
  else if -5 < point ∧ point ≤ 0 then
    '0' :: '.' :: List.replicate (-point).toNat '0' ++ digits
  else match digits with
    | [] => []
    | [lead] => lead :: exponentText (point - 1)
    | lead :: rest => lead :: '.' :: rest ++ exponentText (point - 1)

/-- Positional notation whatever the size, without a decimal point for whole numbers. -/
def positionalText (d : Decimal) : Text :=
  let sign := if d.negative then ['-'] else []
  let digits := Text.ofNat d.digits
  let point := (digits.length : Int) + d.exponent
  sign ++
  if 0 ≤ d.exponent then digits ++ List.replicate d.exponent.toNat '0'
  else if 0 < point then digits.take point.toNat ++ '.' :: digits.drop point.toNat
  else '0' :: '.' :: List.replicate (-point).toNat '0' ++ digits

end Decimal

/-- The 64-bit integer nearest to a number, halves rounded away from zero; 0 for NaN. -/
def Binary64.toInt64 : Binary64 → Int
  | .nan => 0
  | .infinite negative => if negative then Text.minInt64 else Text.maxInt64
  | .finite d =>
    let (num, den) := d.ratio
    let magnitude : Int := ((2 * num + den) / (2 * den) : Nat)
    max Text.minInt64 (min Text.maxInt64 (if d.negative then -magnitude else magnitude))

end ForumSearch
