import ForumSearch.Settings.Layer
import ForumSearch.Text.Comment
import ForumSearch.Text.Identifier
import ForumSearch.Text.Utf8

/-!
The words of a RON text: names, strings, characters and bytes. A string has escapes, or it is raw
and stands between quotes with as many number signs around them; a name can be raw as well.
-/

namespace ForumSearch.Ron

def isSpace (c : Char) : Bool :=
  c = ' ' || ('\t' ≤ c && c ≤ '\r') || c = '\u0085' || c = '\u200e' || c = '\u200f' ||
    c = '\u2028' || c = '\u2029'

def spacing : Text.Spacing := ⟨isSpace, (· = '\n'), true⟩

/-! Names -/

def startsWord (c : Char) : Bool :=
  Text.startsName c || c = '_'

def isRaw (c : Char) : Bool :=
  Text.continuesName c || c = '.' || c = '+' || c = '-'

def readPlainName? : Text → Option (Text × Text)
  | [] => none
  | c :: rest =>
    if startsWord c then
      some (c :: rest.takeWhile Text.continuesName, rest.dropWhile Text.continuesName)
    else none

def readName? (s : Text) : Option (Text × Text) :=
  match s with
  | 'r' :: '#' :: rest =>
    let name := rest.takeWhile isRaw
    if name.isEmpty then none else some (name, rest.drop name.length)
  | s => readPlainName? s

/-! Strings -/

/-- The character of an escape after its opening brace, and what follows it. -/
def readUnicode? (s : Text) : Option (Char × Text) := do
  let (digits, rest) ← Text.splitFirst '\x7d' s
  if digits.length ≤ 6 then pure (← Text.charOfHex? digits, rest) else none

def simpleEscape? : Char → Option Char
  | '\'' => some '\''
  | '"' => some '"'
  | '\\' => some '\\'
  | 'n' => some '\n'
  | 'r' => some '\r'
  | 't' => some '\t'
  | '0' => some '\x00'
  | _ => none

/-- The bytes of an escape after its backslash, and what follows it. A backslash at the end of a
line stands for nothing, and so do the spaces in front of the next line. -/
def readEscape? : Text → Option (List UInt8 × Text)
  | 'x' :: rest => (Text.takeHex? 2 rest).map fun r => ([r.1.toUInt8], r.2)
  | 'u' :: '\x7b' :: rest => (readUnicode? rest).map fun r => (Text.charBytes r.1, r.2)
  | '\n' :: rest => some ([], rest.dropWhile isSpace)
  | '\r' :: '\n' :: rest => some ([], rest.dropWhile isSpace)
  | c :: rest => (simpleEscape? c).map fun c => (Text.charBytes c, rest)
  | [] => none

/-- The bytes of a string up to its closing quote, and what follows it. Each round takes at least
one character, so the length of the text is enough fuel. -/
def readBytes (quote : Char) : Nat → Text → Option (List UInt8 × Text)
  | 0, _ => none
  | _, [] => none
  | fuel + 1, '\\' :: rest => do
    let (bytes, rest) ← readEscape? rest
    let (more, rest) ← readBytes quote fuel rest
    pure (bytes ++ more, rest)
  | fuel + 1, c :: rest =>
    if c = quote then some ([], rest)
    else (readBytes quote fuel rest).map fun r => (Text.charBytes c ++ r.1, r.2)

/-- A raw string from its first number sign or quote on, and what follows it. -/
def readRaw? (s : Text) : Option (Text × Text) :=
  let signs := s.takeWhile (· = '#')
  match s.drop signs.length with
  | '"' :: rest => Text.splitAtInfix ('"' :: signs) rest
  | _ => none

/-- A character after its opening quote. It may be a quote itself. -/
def readChar? (fuel : Nat) : Text → Option (Char × Text)
  | '\\' :: rest => do
    let (bytes, rest) ← readBytes '\'' fuel ('\\' :: rest)
    match ← Text.ofBytes? bytes with
    | [c] => pure (c, rest)
    | _ => none
  | c :: '\'' :: rest => some (c, rest)
  | _ => none

def readByte? : Text → Option (UInt8 × Text)
  | '\\' :: rest => do
    match rest.head?, ← readEscape? rest with
    | some 'u', _ => none
    | _, ([b], '\'' :: rest) => pure (b, rest)
    | _, _ => none
  | c :: '\'' :: rest => if c.toNat < 128 then some (c.toNat.toUInt8, rest) else none
  | _ => none

def ofBytes (bytes : List UInt8) : Setting :=
  .list (bytes.map fun b => .integer b.toNat)

/-- What is in quotes at the head of a text. Bytes are a list of numbers. -/
def readQuoted? (fuel : Nat) : Text → Option (Setting × Text)
  | '"' :: rest => do
    let (bytes, rest) ← readBytes '"' fuel rest
    pure (.text (← Text.ofBytes? bytes), rest)
  | '\'' :: rest => (readChar? fuel rest).map fun r => (.text [r.1], r.2)
  | 'r' :: rest => (readRaw? rest).map fun r => (.text r.1, r.2)
  | 'b' :: '"' :: rest => (readBytes '"' fuel rest).map fun r => (ofBytes r.1, r.2)
  | 'b' :: '\'' :: rest => (readByte? rest).map fun r => (.integer r.1.toNat, r.2)
  | 'b' :: 'r' :: rest =>
    (readRaw? rest).map fun r => (ofBytes (r.1.flatMap Text.charBytes), r.2)
  | _ => none

end ForumSearch.Ron
