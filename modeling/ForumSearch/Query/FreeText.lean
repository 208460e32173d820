import ForumSearch.Text.Case

/-!
The syntax of the search box: an author after `author:`, phrases in quotes, words to exclude
after a dash, and the rest of the text. The three forms are looked for one after the other, and
a form that begins inside an earlier match is no match.
-/

namespace ForumSearch

structure FreeText where
  authorName : Option Text
  phrases : List Text
  excluded : List Text
  rest : Text
  deriving DecidableEq, Repr

namespace FreeText

def maxLength : Nat := 500

def isKept (c : Char) : Bool :=
  32 ≤ c.toNat || c = '\n' || c = '\r' || c = '\t'

/-- Drops control characters, cuts the text to its first 500 characters and trims it. -/
def clean (s : Text) : Text :=
  Text.trim ((s.filter isKept).take maxLength)

/-- A character and whether a match covers it. -/
abbrev Cell := Char × Bool

/-- A match that covers size + 1 characters, and what it finds; a match that finds nothing is
passed over and covers nothing. -/
structure Hit where
  size : Nat
  found : Option Text

/-- Looks for a form from left to right, resuming after each match. The form sees the
character before. -/
def scan (form : Option Char → Cell → List Cell → Option Hit) (before : Option Char) :
    List Cell → List Text × List Cell
  | [] => ([], [])
  | cell :: cells =>
    match form before cell cells with
    | none =>
      let r := scan form (some cell.1) cells
      (r.1, cell :: r.2)
    | some hit =>
      let covered := cell :: cells.take hit.size
      let r := scan form (covered.getLast?.map (·.1)) (cells.drop hit.size)
      match hit.found with
      | some text => (text :: r.1, covered.map (fun c => (c.1, true)) ++ r.2)
      | none => (r.1, covered ++ r.2)
termination_by cells => cells.length
decreasing_by
  all_goals simp only [List.length_cons, List.length_drop]; omega

/-- The text up to the closing quote, given what follows the opening one. -/
def closeQuote (cells : List Cell) : Option Text :=
  let inner := cells.takeWhile (·.1 ≠ '"')
  if inner.isEmpty || (cells.drop inner.length).isEmpty then none else some (inner.map (·.1))

def openWord (cells : List Cell) : Text :=
  (cells.takeWhile fun c => !Text.isBlank c.1).map (·.1)

def authorMark : Text := ['a', 'u', 't', 'h', 'o', 'r', ':']

/-- The name after blanks, and how many characters it takes with them and its quotes. -/
def readAuthor (cells : List Cell) : Option (Text × Nat) :=
  let blanks := (cells.takeWhile (Text.isBlank ·.1)).length
  match cells.drop blanks with
  | [] => none
  | c :: rest =>
    match if c.1 = '"' then closeQuote rest else none with
    | some inner => some (inner, blanks + inner.length + 2)
    | none =>
      let name := openWord (c :: rest)
      some (name, blanks + name.length)

def authorForm (_ : Option Char) (cell : Cell) (cells : List Cell) : Option Hit :=
  let size := authorMark.length - 1
  if (cell :: cells.take size).map (Text.lower ·.1) = authorMark then
    (readAuthor (cells.drop size)).map fun r => ⟨size + r.2, some r.1⟩
  else none

def phraseForm (_ : Option Char) (cell : Cell) (cells : List Cell) : Option Hit :=
  if cell.1 = '"' then
    (closeQuote cells).map fun inner =>
      ⟨inner.length + 1,
        if cell.2 || (Text.trim inner).isEmpty then none else some (Text.trim inner)⟩
  else none

def exclusionForm (before : Option Char) (cell : Cell) (cells : List Cell) : Option Hit :=
  if cell.1 = '-' then
    let term := openWord cells
    if term.isEmpty then none
    else some ⟨term.length, if cell.2 || before = some ':' then none else some term⟩
  else none

/-- The stretches that no match covers, empty ones included. -/
def stretches : List Cell → List Text
  | [] => [[]]
  | (c, covered) :: cells =>
    if covered then [] :: stretches cells
    else match stretches cells with
      | [] => [[c]]
      | s :: rest => (c :: s) :: rest

def leftover (cells : List Cell) : Text :=
  Text.joinWith [' '] (((stretches cells).map Text.trim).filter fun s => !s.isEmpty)

/-- The last of several authors counts. -/
def parse (query : Text) : FreeText :=
  let authors := scan authorForm none (query.trim.map fun c => (c, false))
  let phrases := scan phraseForm none authors.2
  let excluded := scan exclusionForm none phrases.2
  ⟨authors.1.getLast?, phrases.1, excluded.1, leftover excluded.2⟩

end FreeText

end ForumSearch
