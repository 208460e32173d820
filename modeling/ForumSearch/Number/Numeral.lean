import ForumSearch.Number.Decimal
import ForumSearch.Text.Case

/-!
Decimal numerals: the parts of their notation, and the floating-point number that a text denotes.
-/

namespace ForumSearch.Numeral

def splitDigits (s : Text) : Text × Text :=
  (s.takeWhile Text.isDigit, s.dropWhile Text.isDigit)

def readExponentDigits (negative : Bool) (s : Text) : Option (Option Int × Text) :=
  let (digits, rest) := splitDigits s
  if digits.isEmpty then none
  else
    let n : Int := Text.digitsValue digits
    some (some (if negative then -n else n), rest)

/-- The exponent at the head of a text, if there is one. -/
def readExponent : Text → Option (Option Int × Text)
  | c :: rest =>
    if c = 'e' ∨ c = 'E' then
      match rest with
      | '+' :: rest => readExponentDigits false rest
      | '-' :: rest => readExponentDigits true rest
      | rest => readExponentDigits false rest
    else some (none, c :: rest)
  | [] => some (none, [])

def splitSign : Text → Bool × Text
  | '-' :: rest => (true, rest)
  | '+' :: rest => (false, rest)
  | rest => (false, rest)

/-- Digits with at most one point among or around them. -/
def splitPoint (s : Text) : Text × Text × Text :=
  let (whole, rest) := splitDigits s
  match rest with
  | '.' :: rest =>
    let (fraction, rest) := splitDigits rest
    (whole, fraction, rest)
  | rest => (whole, [], rest)

def readMagnitude (negative : Bool) (s : Text) : Option Float := do
  let (whole, fraction, rest) := splitPoint s
  if whole.isEmpty ∧ fraction.isEmpty then none
  else
    let (exponent, rest) ← readExponent rest
    if rest.isEmpty then
      pure (Binary64.ofDecimal negative (Text.digitsValue (whole ++ fraction))
        (exponent.getD 0 - fraction.length))
    else none

def infinity (negative : Bool) : Float :=
  if negative then -1.0 / 0.0 else 1.0 / 0.0

def notANumber : Float := 0.0 / 0.0

/-- The number nearest to what a text denotes. Infinity and NaN have names, in any case. -/
def readFloat (s : Text) : Option Float :=
  let (negative, rest) := splitSign s
  let name := String.ofList (rest.map Text.asciiLower)
  if name = "inf" ∨ name = "infinity" then some (infinity negative)
  else if name = "nan" then some notANumber
  else readMagnitude negative rest

/-- The text of a number in positional notation, as short as reading it back allows. -/
def floatText (x : Float) : Text :=
  match Binary64.ofFloat x with
  | .nan => "NaN".toList
  | .infinite negative => (if negative then "-inf" else "inf").toList
  | .finite d => (Decimal.shortest d).positionalText

end ForumSearch.Numeral
