import ForumSearch.Json.Reader
import ForumSearch.Settings.Layer
import ForumSearch.Text.Comment
import ForumSearch.Text.Identifier

/-!
Settings written in JSON5: JSON with comments, bare names for keys, single quotes, more escapes,
more ways to write a number, and a comma at the end of a list or table. Of members of one name the
last counts.
-/

namespace ForumSearch.Json5

def isLineEnd (c : Char) : Bool :=
  c = '\n' || c = '\r' || c = '\u2028' || c = '\u2029'

def isSpace (c : Char) : Bool :=
  (Text.isBlank c && c ≠ '\u0085') || c = '\uFEFF'

def spacing : Text.Spacing := ⟨isSpace, isLineEnd, false⟩

/-! Strings and names -/

/-- The character of an escape after its letter u, and what follows it. Two escapes make one
character if they are the halves of a pair. -/
def readUnicode? (s : Text) : Option (Char × Text) := do
  let (n, rest) ← Text.takeHex? 4 s
  if Json.isHigh n then
    match rest with
    | '\\' :: 'u' :: rest =>
      let (m, rest) ← Text.takeHex? 4 rest
      if Json.isLow m then pure (Json.paired n m, rest) else none
    | _ => none
  else if Json.isLow n then none
  else pure (Char.ofNat n, rest)

/-- A character that stands for itself has no escape of its own. -/
def simpleEscape? (c : Char) : Option Char :=
  match c with
  | '0' => some '\x00'
  | 'b' => some '\x08'
  | 'f' => some '\x0c'
  | 'n' => some '\n'
  | 'r' => some '\r'
  | 't' => some '\t'
  | 'v' => some '\x0b'
  | c => if Text.isDigit c then none else some c

/-- What an escape stands for after its backslash, and what follows it. The end of a line stands for
nothing. -/
def readEscape? : Text → Option (Text × Text)
  | 'x' :: rest => (Text.takeHex? 2 rest).map fun r => ([Char.ofNat r.1], r.2)
  | 'u' :: rest => (readUnicode? rest).map fun r => ([r.1], r.2)
  | '\r' :: '\n' :: rest => some ([], rest)
  | c :: rest =>
    if isLineEnd c then some ([], rest) else (simpleEscape? c).map fun c => ([c], rest)
  | [] => none

/-- A string up to its closing quote, and what follows it. Each round takes at least one character,
so the length of the text is enough fuel, here and below. -/
def readString (quote : Char) : Nat → Text → Option (Text × Text)
  | 0, _ => none
  | _, [] => none
  | fuel + 1, '\\' :: rest => do
    let (piece, rest) ← readEscape? rest
    let (s, rest) ← readString quote fuel rest
    pure (piece ++ s, rest)
  | fuel + 1, c :: rest =>
    if c = quote then some ([], rest)
    else if isLineEnd c then none
    else (readString quote fuel rest).map fun r => (c :: r.1, r.2)

def startsKey (c : Char) : Bool :=
  Text.isLetter c || c = '$' || c = '_'

def continuesKey (c : Char) : Bool :=
  startsKey c || Text.isContinuation c || Text.isDiacritic c || c = '\u200c' || c = '\u200d'

def readName : Nat → Text → Option (Text × Text)
  | 0, _ => none
  | fuel + 1, '\\' :: 'u' :: rest => do
    let (c, rest) ← readUnicode? rest
    let (name, rest) ← readName fuel rest
    pure (c :: name, rest)
  | fuel + 1, c :: rest =>
    if continuesKey c then (readName fuel rest).map fun r => (c :: r.1, r.2)
    else some ([], c :: rest)
  | _, [] => some ([], [])

def readKey? (fuel : Nat) : Text → Option (Text × Text)
  | [] => none
  | c :: rest =>
    if c = '"' ∨ c = '\'' then readString c fuel rest
    else if startsKey c ∨ c = '\\' then (readName fuel (c :: rest)).filter fun r => !r.1.isEmpty
    else none

/-! Numbers and words -/

/-- A number in hexadecimal digits has 32 bits and no sign. -/
def readHexadecimal? (digits : Text) : Option Setting := do
  let n ← Text.readBase 16 digits
  if n < twoTo 32 then pure (.integer n) else none

/-- A decimal number, which has no zeros in front. It is an integer unless it has a point or an
exponent. -/
def readDecimal? (word : Text) : Option Setting :=
  let (negative, digits) := Numeral.splitSign word
  if digits.head? = some '0' ∧ (digits.drop 1).head?.any Text.isDigit then none
  else if digits.all Text.isDigit then (Text.readInt64 word).map .integer
  else do
    let x ← Numeral.readMagnitude negative digits
    match Binary64.ofFloat x with
    | .finite _ => pure (.number x)
    | _ => none

def ofWord? (word : Text) : Option Setting :=
  match String.ofList word with
  | "null" => some .null
  | "true" => some (.bool true)
  | "false" => some (.bool false)
  | "Infinity" => some (.number (Numeral.infinity false))
  | "-Infinity" => some (.number (Numeral.infinity true))
  | "NaN" | "-NaN" => some (.number Numeral.notANumber)
  | _ =>
    match word with
    | '0' :: 'x' :: digits => readHexadecimal? digits
    | '0' :: 'X' :: digits => readHexadecimal? digits
    | word => readDecimal? word

def isWordChar (c : Char) : Bool :=
  Text.isAsciiLetter c || Text.isDigit c || c = '+' || c = '-' || c = '.'

/-! Values -/

mutual
/-- Reads a value. Every call takes at least one character before the next, so a multiple of the
length of the text is enough fuel. -/
def readValue? : Nat → Text → Option (Setting × Text)
  | 0, _ => none
  | fuel + 1, s => do
    match ← spacing.skip s with
    | '"' :: rest => (readString '"' fuel rest).map fun r => (.text r.1, r.2)
    | '\'' :: rest => (readString '\'' fuel rest).map fun r => (.text r.1, r.2)
    | '[' :: rest => (readItems? fuel rest).map fun r => (.list r.1, r.2)
    | '\x7b' :: rest => (readMembers? fuel [] rest).map fun r => (.table r.1, r.2)
    | s =>
      let word := s.takeWhile isWordChar
      (ofWord? word).map (·, s.drop word.length)

def readItems? : Nat → Text → Option (List Setting × Text)
  | 0, _ => none
  | fuel + 1, s => do
    match ← spacing.skip s with
    | ']' :: rest => pure ([], rest)
    | s =>
      let (item, rest) ← readValue? fuel s
      match ← spacing.skip rest with
      | ',' :: rest => (readItems? fuel rest).map fun r => (item :: r.1, r.2)
      | ']' :: rest => pure ([item], rest)
      | _ => none

def readMembers? : Nat → List (Text × Setting) → Text → Option (List (Text × Setting) × Text)
  | 0, _, _ => none
  | fuel + 1, members, s => do
    match ← spacing.skip s with
    | '\x7d' :: rest => pure (members, rest)
    | s =>
      let (key, rest) ← readKey? fuel s
      match ← spacing.skip rest with
      | ':' :: rest =>
        let (value, rest) ← readValue? fuel rest
        let members := Setting.put key value members
        match ← spacing.skip rest with
        | ',' :: rest => readMembers? fuel members rest
        | '\x7d' :: rest => pure (members, rest)
        | _ => none
      | _ => none
end

def read (s : Text) : Option Layer := do
  match ← readValue? (4 * s.length + 4) s with
  | (.table members, rest) => if (← spacing.skip rest).isEmpty then pure members else none
  | _ => none

end ForumSearch.Json5
