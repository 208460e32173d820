import ForumSearch.Json.Basic
import ForumSearch.Number.Numeral

/-!
Reading JSON. A text is one value with spaces around it; anything else, trailing text included,
is refused. Strings are unescaped, surrogate pairs joined; a string with half a pair is broken.
-/

namespace ForumSearch.Json

open Numeral (splitDigits readExponent)
open Text (hexValue)

def isSpace (c : Char) : Bool :=
  c = ' ' || c = '\n' || c = '\r' || c = '\t'

def skipSpace (s : Text) : Text :=
  s.dropWhile isSpace

def hex4 (a b c d : Char) : Option Nat := do
  let a ← hexValue a
  let b ← hexValue b
  let c ← hexValue c
  let d ← hexValue d
  pure (((a * 16 + b) * 16 + c) * 16 + d)

/-- The unit is the first half of a pair, or the second. -/
def isHigh (n : Nat) : Bool := 0xd800 ≤ n && n < 0xdc00

def isLow (n : Nat) : Bool := 0xdc00 ≤ n && n < 0xe000

def simpleEscape : Char → Option Char
  | '"' => some '"'
  | '\\' => some '\\'
  | '/' => some '/'
  | 'b' => some '\x08'
  | 'f' => some '\x0c'
  | 'n' => some '\n'
  | 'r' => some '\r'
  | 't' => some '\t'
  | _ => none

/-- Puts a character in front of a string; half a surrogate pair is none, and breaks the string. -/
def prepend (c : Option Char) (r : Option Text × Text) : Option Text × Text :=
  (do pure ((← c) :: (← r.1)), r.2)

/-- The character of a surrogate pair. -/
def paired (high low : Nat) : Char :=
  Char.ofNat (0x10000 + (high - 0xd800) * 0x400 + (low - 0xdc00))

/-- The text up to the closing quote, if it is not broken, and what follows it. -/
def readString : Text → Option (Option Text × Text)
  | [] => none
  | '"' :: rest => some (some [], rest)
  | '\\' :: 'u' :: a :: b :: c :: d :: rest =>
    match hex4 a b c d with
    | none => none
    | some n =>
      if isHigh n then
        match rest with
        | '\\' :: 'u' :: e :: f :: g :: h :: rest' =>
          match hex4 e f g h with
          | none => none
          | some m => (readString rest').map (prepend (if isLow m then some (paired n m) else none))
        | rest => (readString rest).map (prepend none)
      else (readString rest).map (prepend (if isLow n then none else some (Char.ofNat n)))
  | '\\' :: c :: rest =>
    match simpleEscape c with
    | some e => (readString rest).map (prepend (some e))
    | none => none
  | c :: rest =>
    if c.toNat < 32 ∨ c = '\\' then none
    else (readString rest).map (prepend (some c))

/-- The digits after a decimal point, if there is one. -/
def readFraction : Text → Option (Option Text × Text)
  | '.' :: rest =>
    let (digits, rest) := splitDigits rest
    if digits.isEmpty then none else some (some digits, rest)
  | rest => some (none, rest)

/-- A number without its sign. Only a lone 0 may begin with 0, and -0 is not an integer. -/
def readMagnitude (negative : Bool) (s : Text) : Option (Json × Text) := do
  let (whole, rest) := splitDigits s
  if whole.isEmpty ∨ (whole.head? = some '0' ∧ 1 < whole.length) then none
  else
    let (fraction, rest) ← readFraction rest
    let (exponent, rest) ← readExponent rest
    match fraction, exponent with
    | none, none =>
      let n := Text.digitsValue whole
      if negative ∧ n = 0 then pure (.decimal ⟨true, 0, 0⟩, rest)
      else pure (.integer (if negative then -(n : Int) else n), rest)
    | _, _ =>
      let digits := fraction.getD []
      pure (.decimal ⟨negative, Text.digitsValue (whole ++ digits),
        exponent.getD 0 - digits.length⟩, rest)

def readNumber : Text → Option (Json × Text)
  | '-' :: rest => readMagnitude true rest
  | rest => readMagnitude false rest

/-- An object of some members, broken if a name is. -/
def ofMembers (members : List (Option Text × Json)) : Json :=
  match members.mapM fun m => m.1.map fun name => (name, m.2) with
  | some members => .object members
  | none => .broken

mutual
/-- Reads one value. Every call takes at least one character before the next, so the length of
the text is enough fuel. -/
def readValue : Nat → Text → Option (Json × Text)
  | 0, _ => none
  | fuel + 1, s =>
    match skipSpace s with
    | 'n' :: 'u' :: 'l' :: 'l' :: rest => some (.null, rest)
    | 't' :: 'r' :: 'u' :: 'e' :: rest => some (.bool true, rest)
    | 'f' :: 'a' :: 'l' :: 's' :: 'e' :: rest => some (.bool false, rest)
    | '"' :: rest => (readString rest).map fun r => ((r.1.map .string).getD .broken, r.2)
    | '[' :: rest =>
      match skipSpace rest with
      | ']' :: rest => some (.array [], rest)
      | rest => (readElements fuel rest).map fun r => (.array r.1, r.2)
    | '\x7b' :: rest =>
      match skipSpace rest with
      | '\x7d' :: rest => some (.object [], rest)
      | rest => (readMembers fuel rest).map fun r => (ofMembers r.1, r.2)
    | rest => readNumber rest

def readElements : Nat → Text → Option (List Json × Text)
  | 0, _ => none
  | fuel + 1, s =>
    match readValue fuel s with
    | none => none
    | some (value, rest) =>
      match skipSpace rest with
      | ']' :: rest => some ([value], rest)
      | ',' :: rest => (readElements fuel rest).map fun r => (value :: r.1, r.2)
      | _ => none

def readMembers : Nat → Text → Option (List (Option Text × Json) × Text)
  | 0, _ => none
  | fuel + 1, s =>
    match skipSpace s with
    | '"' :: rest =>
      match readString rest with
      | none => none
      | some (name, rest) =>
        match skipSpace rest with
        | ':' :: rest =>
          match readValue fuel rest with
          | none => none
          | some (value, rest) =>
            match skipSpace rest with
            | '\x7d' :: rest => some ([(name, value)], rest)
            | ',' :: rest => (readMembers fuel rest).map fun r => ((name, value) :: r.1, r.2)
            | _ => none
        | _ => none
    | _ => none
end

def parse (s : Text) : Option Json :=
  match readValue (2 * s.length + 1) s with
  | some (value, rest) => if (skipSpace rest).isEmpty then some value else none
  | none => none

/-- Reads a text all of whose values have content. -/
def parseSound (s : Text) : Option Json :=
  (parse s).filter (isSound maxDepth)

end ForumSearch.Json
