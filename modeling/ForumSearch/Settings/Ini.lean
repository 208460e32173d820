import ForumSearch.Settings.Layer

/-!
Settings written in INI: lines of key and value with an equals sign or a colon between them, below
headers of sections. All values are texts. Of sections of one name the last counts as a whole.
-/

namespace ForumSearch.Ini

def isLineEnd (c : Char) : Bool := c = '\n' || c = '\r'

/-- The character of an escape after its backslash, if it stands for one, and what follows it. -/
def readEscape : Text → Option (Option Char × Text)
  | 'x' :: a :: b :: c :: d :: rest => do
    let digits := if a = '+' then [b, c, d] else [a, b, c, d]
    pure (some (← Text.charOfHex? digits), rest)
  | c :: rest =>
    if c = '0' then some (some '\x00', rest)
    else if c = 'a' then some (some '\x07', rest)
    else if c = 'b' then some (some '\x08', rest)
    else if c = 't' then some (some '\t', rest)
    else if c = 'r' then some (some '\r', rest)
    else if c = 'n' then some (some '\n', rest)
    else if c = '\n' then some (none, rest)
    else if c = 'x' then none
    else some (some c, rest)
  | [] => none

/-- The text up to a character at which it ends, escapes undone, and the rest from there on. A
backslash at the end of all stands for itself. Each round takes at least one character, so the
length of the text is enough fuel, here and below. -/
def readUntil (stop : Char → Bool) : Nat → Text → Option (Text × Text)
  | 0, _ => none
  | _, [] => some ([], [])
  | _, ['\\'] => some (['\\'], [])
  | fuel + 1, c :: rest =>
    if stop c then some ([], c :: rest)
    else if c = '\\' then do
      let (e, rest) ← readEscape rest
      let (s, rest) ← readUntil stop fuel rest
      pure (e.toList ++ s, rest)
    else (readUntil stop fuel rest).map fun r => (c :: r.1, r.2)

/-- The text up to a character that must come, and the rest after that. -/
def readTo (stop : Char) (fuel : Nat) (s : Text) : Option (Text × Text) := do
  match ← readUntil (· = stop) fuel s with
  | (text, _ :: rest) => pure (text, rest)
  | (_, []) => none

/-- A value: quoted pieces, and what is not quoted up to the end of the line. -/
def readValue : Nat → Bool → Text → Option (Text × Text)
  | 0, _, _ => none
  | _, _, [] => some ([], [])
  | fuel + 1, first, c :: rest =>
    if c = '"' ∨ c = '\'' then do
      let (piece, rest) ← readTo c fuel rest
      let (s, rest) ← readValue fuel false rest
      pure (piece ++ s, rest)
    else do
      let (s, rest) ← readUntil isLineEnd (fuel + 1) (c :: rest)
      pure (if first then Text.trim s else Text.trimEnd s, rest)

/-- Sections in order; the one without a name comes before the first header. -/
structure Document where
  sections : List (Option Text × List (Text × Setting))

namespace Document

def empty : Document := ⟨[(none, [])]⟩

def add (d : Document) (key value : Text) : Document :=
  match d.sections.getLast? with
  | some (name, members) =>
    ⟨d.sections.dropLast ++ [(name, Setting.put key (.text value) members)]⟩
  | none => d

def toLayer (d : Document) : Layer :=
  d.sections.foldl (fun layer s => match s with
    | (none, members) => layer ++ members
    | (some name, members) => Setting.put name (.table members) layer) []

/-- The text after a line that begins with a comment, at its first column. -/
def afterLine (s : Text) : Text :=
  (s.dropWhile (· ≠ '\n')).drop 1

/-- Reads headers and entries one after another. A comment has a line of its own, and a key at the
end of all has no value and is passed over. -/
def readAll? : Nat → Bool → Document → Text → Option Document
  | 0, _, _, _ => none
  | _, _, d, [] => some d
  | fuel + 1, atStart, d, c :: rest =>
    if Text.isBlank c then readAll? fuel (c = '\n') d rest
    else if c = ';' ∨ c = '#' then
      if atStart then readAll? fuel true d (afterLine rest) else none
    else if c = '[' then do
      let (name, rest) ← readTo ']' fuel rest
      readAll? fuel false ⟨d.sections ++ [(some (Text.trim name), [])]⟩ rest
    else do
      match ← readUntil (fun c => c = '=' || c = ':') (fuel + 1) (c :: rest) with
      | (_, []) => pure d
      | (key, _ :: rest) =>
        let key := Text.trim key
        if key.isEmpty then none
        else
          let rest := rest.dropWhile fun c => Text.isBlank c && !isLineEnd c
          let (value, rest) ← readValue fuel true rest
          readAll? fuel false (d.add key value) rest

end Document

def read (s : Text) : Option Layer :=
  (Document.empty.readAll? (s.length + 1) true s).map Document.toLayer

end ForumSearch.Ini
