import ForumSearch.Text.Integer

/-!
Places in a YAML text. A place knows its line and column, and whether anything but blanks comes
before it on its line.
-/

namespace ForumSearch.Yaml

def isBreak (c : Char) : Bool := c = '\n' || c = '\r'

def isBlank (c : Char) : Bool := c = ' ' || c = '\t'

def isFlow (c : Char) : Bool :=
  [',', '[', ']', '\x7b', '\x7d'].contains c

def isWordChar (c : Char) : Bool :=
  ('A' ≤ c && c ≤ 'Z') || ('a' ≤ c && c ≤ 'z') || Text.isDigit c || c = '-' || c = '_'

structure Cursor where
  rest : Text
  index : Nat
  line : Nat
  column : Nat
  /-- Only blanks come before on the line. -/
  fresh : Bool

namespace Cursor

def start (s : Text) : Cursor := ⟨s, 0, 0, 0, true⟩

def head? (c : Cursor) : Option Char := c.rest.head?

def second? (c : Cursor) : Option Char := (c.rest.drop 1).head?

def skipBlanks (c : Cursor) (count : Nat) : Cursor :=
  { c with rest := c.rest.drop count, index := c.index + count, column := c.column + count }

/-- After some characters that are not all blank. -/
def skip (c : Cursor) (count : Nat) : Cursor :=
  { c.skipBlanks count with fresh := false }

/-- At the beginning of the next line; nothing is skipped elsewhere than at the end of a line. -/
def skipBreak (c : Cursor) : Cursor :=
  match c.rest with
  | '\r' :: '\n' :: rest => ⟨rest, c.index + 2, c.line + 1, 0, true⟩
  | x :: rest => if isBreak x then ⟨rest, c.index + 1, c.line + 1, 0, true⟩ else c
  | [] => c

end Cursor

def endsLine (c : Option Char) : Bool := c.all isBreak

def endsWord (c : Option Char) : Bool := c.all fun c => isBlank c || isBreak c

/-- Three characters alone mark the start or the end of a document. -/
def isMark (mark : Char) (s : Text) : Bool :=
  s.take 3 = List.replicate 3 mark && endsWord (s.drop 3).head?

def isDocumentMark (s : Text) : Bool := isMark '-' s || isMark '.' s

/-- What is passed over up to the end of a line. -/
structure Passed where
  tabs : Bool
  spaces : Bool
  cursor : Cursor

namespace Cursor

/-- Passes over spaces, perhaps tabs, and a comment, which comes after one of them. -/
def passRest? (c : Cursor) (tabs : Bool) : Option Passed :=
  let blanks := c.rest.takeWhile fun x => x = ' ' || (tabs && x = '\t')
  let after := c.skipBlanks blanks.length
  let passed := Passed.mk (blanks.contains '\t') (blanks.contains ' ')
  match after.rest with
  | '#' :: _ =>
    if blanks.isEmpty then none
    else some (passed (after.skip (after.rest.takeWhile (!isBreak ·)).length))
  | _ => some (passed after)

def skipRest? (c : Cursor) : Option Cursor :=
  (c.passRest? true).map (·.cursor)

end Cursor

end ForumSearch.Yaml
