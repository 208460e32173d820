import ForumSearch.Settings.Ron.Word

/-!
Numbers in RON. A number that can be read as an integer is one; any other is a float. Digits may
have underscores between them, and the type of a number may follow it.
-/

namespace ForumSearch.Ron

structure Width where
  signed : Bool
  bits : Nat

namespace Width

def holds (w : Width) (n : Int) : Bool :=
  if w.signed then -(twoTo (w.bits - 1) : Int) ≤ n && n < twoTo (w.bits - 1)
  else 0 ≤ n && n < twoTo w.bits

/-- The type that a suffix names. Without one, a number with a minus sign is signed. -/
def ofSuffix? (negative : Bool) : Text → Option Width
  | [] => some ⟨negative, 64⟩
  | kind :: digits =>
    if (kind = 'i' ∨ kind = 'u') ∧ ["8", "16", "32", "64"].contains (String.ofList digits) then
      some ⟨kind = 'i', Text.digitsValue digits⟩
    else none

end Width

def readBaseMark : Text → Nat × Text
  | '0' :: 'b' :: rest => (2, rest)
  | '0' :: 'o' :: rest => (8, rest)
  | '0' :: 'x' :: rest => (16, rest)
  | rest => (10, rest)

def isIntegerChar (c : Char) : Bool :=
  (Text.hexValue c).isSome || c = '_'

def readInteger? (word : Text) : Option Int := do
  let (negative, rest) := Numeral.splitSign word
  let (base, rest) := readBaseMark rest
  let digits := rest.takeWhile isIntegerChar
  let width ← Width.ofSuffix? negative (rest.drop digits.length)
  if digits.head? = some '_' then none
  else
    let magnitude : Int := (← Text.readBase base (digits.filter (· ≠ '_')) : Nat)
    let n := if negative then -magnitude else magnitude
    if width.holds n then pure n else none

/-- The digits of a float without its underscores, which come after a digit or an exponent's letter,
but not after a point. -/
def withoutUnderscores? (allowed : Bool) : Text → Option Text
  | [] => some []
  | c :: rest =>
    if c = '_' then if allowed then withoutUnderscores? true rest else none
    else if Text.isDigit c || c = 'e' || c = 'E' then (withoutUnderscores? true rest).map (c :: ·)
    else if c = '.' then (withoutUnderscores? false rest).map (c :: ·)
    else if c = '+' || c = '-' then (withoutUnderscores? allowed rest).map (c :: ·)
    else none

/-- A float without its type, and whether it has 32 bits. -/
def splitFloatType (word : Text) : Text × Bool :=
  let type := String.ofList (word.drop (word.length - 3))
  if type = "f32" then (word.take (word.length - 3), true)
  else if type = "f64" then (word.take (word.length - 3), false)
  else (word, false)

def readFloat? (word : Text) : Option Float := do
  let (body, short) := splitFloatType word
  let (negative, rest) := Numeral.splitSign body
  let name := String.ofList rest
  if name = "inf" then pure (Numeral.infinity negative)
  else if name = "NaN" then pure Numeral.notANumber
  else
    let (negative, digits) := Numeral.splitSign (← withoutUnderscores? false body)
    let x ← Numeral.readMagnitude negative digits
    pure (if short then x.toFloat32.toFloat else x)

def ofNumber? (word : Text) : Option Setting :=
  match readInteger? word with
  | some n => some (.integer n)
  | none => (readFloat? word).map .number

end ForumSearch.Ron
