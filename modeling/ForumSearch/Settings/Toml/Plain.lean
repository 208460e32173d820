import ForumSearch.Calendar.Timestamp
import ForumSearch.Settings.Toml.Text

/-!
Unquoted values of TOML: truth values, integers in four bases, floats, and dates and times. A date
or a time is a setting of the text it is written as.
-/

namespace ForumSearch.Toml

/-- Digits without the underscores between them; an underscore elsewhere is refused. -/
def plainDigits? (isDigit : Char → Bool) (s : Text) : Option Text :=
  let groups := Text.splitAtEach (· = '_') s
  if groups.all fun g => !g.isEmpty && g.all isDigit then some groups.flatten else none

def hasLeadingZero (digits : Text) : Bool :=
  digits.head? = some '0' && 1 < digits.length

def readRadix? (radix : Nat) (s : Text) : Option Setting := do
  let isDigit (c : Char) := match Text.hexValue c with
    | some d => d < radix
    | none => false
  let values ← (← plainDigits? isDigit s).mapM Text.hexValue
  let n : Int := (values.foldl (fun n d => radix * n + d) 0 : Nat)
  if Text.isInt64 n then some (.integer n) else none

/-- The parts of a float: digits, a fraction or none, an exponent or none. -/
def splitFloat (s : Text) : Text × Option Text × Option Text :=
  let isMark (c : Char) := c = 'e' || c = 'E'
  let exponent := match s.dropWhile (!isMark ·) with
    | _ :: exponent => some exponent
    | [] => none
  match Text.splitFirst '.' (s.takeWhile (!isMark ·)) with
  | some (whole, fraction) => (whole, some fraction, exponent)
  | none => (s.takeWhile (!isMark ·), none, exponent)

def readExponent? (s : Text) : Option Int := do
  let (negative, rest) := Numeral.splitSign s
  let n : Int := Text.digitsValue (← plainDigits? Text.isDigit rest)
  pure (if negative then -n else n)

def readMagnitude? (negative : Bool) (s : Text) : Option Setting := do
  let (whole, fraction, exponent) := splitFloat s
  let whole ← plainDigits? Text.isDigit whole
  if hasLeadingZero whole then none
  else match fraction, exponent with
    | none, none =>
      let n : Int := Text.digitsValue whole
      let n := if negative then -n else n
      if Text.isInt64 n then some (.integer n) else none
    | _, _ =>
      let fraction ← match fraction with
        | some digits => plainDigits? Text.isDigit digits
        | none => some []
      let exponent ← match exponent with
        | some digits => readExponent? digits
        | none => some 0
      let x := Binary64.ofDecimal negative (Text.digitsValue (whole ++ fraction))
        (exponent - fraction.length)
      if x.isInf then none else some (.number x)

/-! Dates and times -/

def readTwo (limit : Nat) : Text → Option (Nat × Text)
  | a :: b :: rest =>
    if Text.isDigit a ∧ Text.isDigit b ∧ Text.digitsValue [a, b] ≤ limit then
      some (Text.digitsValue [a, b], rest)
    else none
  | _ => none

/-- A date, four digits of it the year. -/
def readDate (s : Text) : Option (Text × Text) := do
  let year := s.take 4
  match s.drop 4 with
  | '-' :: rest =>
    let (month, rest) ← readTwo 12 rest
    match rest with
    | '-' :: rest =>
      let (day, rest) ← readTwo 31 rest
      if year.all Text.isDigit ∧ Date.Exists ⟨Text.digitsValue year, month, day⟩ then
        pure (s.take 10, rest)
      else none
    | _ => none
  | _ => none

/-- Seconds and their fraction, nine digits of it and no zeros at its end. -/
def readSeconds : Text → Option (Text × Text)
  | ':' :: rest => do
    let (second, rest) ← readTwo 60 rest
    let whole := ':' :: Timestamp.padded 2 second
    match rest with
    | '.' :: rest =>
      let digits := rest.takeWhile Text.isDigit
      let kept := ((digits.take 9).reverse.dropWhile (· = '0')).reverse
      if digits.isEmpty then none
      else pure (whole ++ '.' :: (if kept.isEmpty then ['0'] else kept), rest.drop digits.length)
    | rest => pure (whole, rest)
  | rest => some ([], rest)

def readTime (s : Text) : Option (Text × Text) := do
  let (hour, rest) ← readTwo 23 s
  match rest with
  | ':' :: rest =>
    let (minute, rest) ← readTwo 59 rest
    let (seconds, rest) ← readSeconds rest
    pure (Timestamp.padded 2 hour ++ ':' :: Timestamp.padded 2 minute ++ seconds, rest)
  | _ => none

/-- The distance from UTC at the end of a text, if there is one. -/
def readOffset? : Text → Option Text
  | [] => some []
  | [c] => if c = 'Z' ∨ c = 'z' then some ['Z'] else none
  | sign :: rest => do
    let (hour, rest) ← readTwo 23 rest
    match rest with
    | ':' :: rest =>
      let (minute, rest) ← readTwo 59 rest
      if (sign = '+' ∨ sign = '-') ∧ rest.isEmpty then
        let sign := if hour = 0 ∧ minute = 0 then '+' else sign
        pure (sign :: Timestamp.padded 2 hour ++ ':' :: Timestamp.padded 2 minute)
      else none
    | _ => none

/-- A date, a time, or a date and a time with a letter or a space between them. -/
def readMoment? (s : Text) : Option Text :=
  match readDate s with
  | some (date, []) => some date
  | some (date, mark :: rest) => do
    if mark = 'T' ∨ mark = 't' ∨ mark = ' ' then
      let (time, rest) ← readTime rest
      pure (date ++ 'T' :: time ++ (← readOffset? rest))
    else none
  | none =>
    match readTime s with
    | some (time, []) => some time
    | _ => none

def readPlain? (token : Text) : Option Setting :=
  let (negative, rest) := Numeral.splitSign token
  if rest = "inf".toList then some (.number (Numeral.infinity negative))
  else if rest = "nan".toList then some (.number Numeral.notANumber)
  else if token = "true".toList then some (.bool true)
  else if token = "false".toList then some (.bool false)
  else match token with
    | '0' :: 'x' :: digits => readRadix? 16 digits
    | '0' :: 'o' :: digits => readRadix? 8 digits
    | '0' :: 'b' :: digits => readRadix? 2 digits
    | _ => (readMagnitude? negative rest).orElse fun _ => (readMoment? token).map .text

/-- An unquoted value goes on up to one of these characters. -/
def isStop (c : Char) : Bool :=
  [' ', '\t', '\n', '\r', '#', ',', ']', '\x7d'].contains c

/-- The unquoted value at the head of a text, and what follows it. A space may stand between a date
and a time. -/
def readPlainAt? (s : Text) : Option (Setting × Text) :=
  let token := s.takeWhile (!isStop ·)
  let rest := s.drop token.length
  let time := match rest with
    | ' ' :: rest => if (readTwo 23 rest).isSome then ' ' :: rest.takeWhile (!isStop ·) else []
    | _ => []
  let token := if (readDate token).isSome && token.length = 10 then token ++ time else token
  (readPlain? token).map (·, s.drop token.length)

end ForumSearch.Toml
