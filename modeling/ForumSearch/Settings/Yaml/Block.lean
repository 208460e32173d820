import ForumSearch.Settings.Yaml.Cursor

/-!
Block scalars: the lines below their mark, less their indentation. A literal scalar keeps its lines;
a folded one joins them by spaces, except around lines that begin with a blank.
-/

namespace ForumSearch.Yaml.Block

/-- What becomes of the ends of lines at the end of a scalar. -/
inductive Chomping where
  | strip
  /-- One of them stays. -/
  | clip
  | keep
  deriving DecidableEq

/-- What comes after the mark of a scalar. -/
structure Header where
  chomping : Chomping
  /-- How much deeper the lines are; 0 if that shows in the first of them. -/
  depth : Nat

def Chomping.ofChar? : Option Char → Option Chomping
  | some '+' => some .keep
  | some '-' => some .strip
  | _ => none

def readDepth? (c : Cursor) : Option (Nat × Cursor) :=
  match c.head? with
  | some d =>
    if d = '0' then none
    else if Text.isDigit d then some (Text.digitValue d, c.skip 1)
    else some (0, c)
  | none => some (0, c)

def readHeader? (c : Cursor) : Option (Header × Cursor) := do
  match Chomping.ofChar? c.head? with
  | some chomping =>
    let (depth, c) ← readDepth? (c.skip 1)
    pure (⟨chomping, depth⟩, c)
  | none =>
    let (depth, c) ← readDepth? c
    match Chomping.ofChar? c.head? with
    | some chomping => pure (⟨chomping, depth⟩, c.skip 1)
    | none => pure (⟨.clip, depth⟩, c)

def newlines (count : Nat) : Text := List.replicate count '\n'

/-- Passes over blank lines and the indentation of the line after them; with the number of those
lines. Each round takes at least one character, so the length of the text is enough fuel, here and
below. -/
def skipBlankLines (width : Nat) : Nat → Cursor → Nat × Cursor
  | 0, c => (0, c)
  | fuel + 1, c =>
    let spaces := (c.rest.take (width - c.column)).takeWhile (· = ' ')
    let c := c.skipBlanks spaces.length
    if c.head?.any isBreak then
      let (count, c) := skipBlankLines width fuel c.skipBreak
      (count + 1, c)
    else (0, c)

/-- Passes over blank lines and the spaces of the line after them; with the largest number of spaces
in any of those lines. -/
def skipFirstLines : Nat → Nat → Cursor → Nat × Nat × Cursor
  | 0, deepest, c => (deepest, 0, c)
  | fuel + 1, deepest, c =>
    let c := c.skipBlanks (c.rest.takeWhile (· = ' ')).length
    let deepest := max deepest c.column
    if c.head?.any isBreak then
      let (deepest, count, c) := skipFirstLines fuel deepest c.skipBreak
      (deepest, count + 1, c)
    else (deepest, 0, c)

/-- What is between two lines of a scalar, or before the first. -/
structure Joint where
  /-- A line comes before it. -/
  ended : Bool
  blankLines : Nat
  /-- The line before it begins with a blank. -/
  indented : Bool

namespace Joint

/-- What a joint amounts to before a line, which begins with a blank or does not. -/
def text (j : Joint) (folded indented : Bool) : Text :=
  if folded && j.ended && !j.indented && !indented then
    if j.blankLines = 0 then [' '] else newlines j.blankLines
  else newlines (j.ended.toNat + j.blankLines)

end Joint

/-- The lines of a scalar after a joint, what comes after the last of them, and where they end. -/
def readLines (folded : Bool) (width : Nat) : Nat → Joint → Cursor → Text × Joint × Cursor
  | 0, j, c => ([], j, c)
  | fuel + 1, j, c =>
    if c.column ≠ width ∨ c.rest.isEmpty ∨ (width = 0 ∧ isMark '.' c.rest) then ([], j, c)
    else
      let indented := c.head?.any isBlank
      let line := c.rest.takeWhile (!isBreak ·)
      let text := j.text folded indented ++ line
      let c := c.skipBlanks line.length
      if c.rest.isEmpty then (text, ⟨false, 0, indented⟩, c)
      else
        let (count, c) := skipBlankLines width (fuel + 1) c.skipBreak
        let (more, j, c) := readLines folded width fuel ⟨true, count, indented⟩ c
        (text ++ more, j, c)

/-- What is left of the end of a scalar. -/
def Chomping.tail (chomping : Chomping) (width : Nat) (j : Joint) (c : Cursor) : Text :=
  let inLine := c.rest.isEmpty && max width 1 ≤ c.column
  match chomping with
  | .strip => []
  | .clip => newlines (j.ended.toNat + inLine.toNat)
  | .keep => newlines (j.ended.toNat + inLine.toNat + j.blankLines)

/-- A scalar without lines, at the end of the text. -/
def Chomping.nothing (chomping : Chomping) (blankLines : Nat) : Text :=
  match chomping with
  | .strip => []
  | .clip => newlines 1
  | .keep => newlines (max blankLines 1)

/-- The scalar after its mark and the place after it. Its lines are deeper than the indentation. -/
def read? (folded : Bool) (indent : Int) (start : Cursor) : Option (Text × Cursor) := do
  let (header, c) ← readHeader? start
  let c ← c.skipRest?
  if !endsLine c.head? then none
  else
    let c := c.skipBreak
    let fuel := c.rest.length + 1
    if c.head? = some '\t' then none
    else
      let (width, blankLines, c) :=
        if header.depth = 0 then
          let (deepest, count, c) := skipFirstLines fuel 0 c
          (max (max deepest (indent + 1).toNat) (if 0 < indent then 1 else 0), count, c)
        else
          let width := (max indent 0).toNat + header.depth
          let (count, c) := skipBlankLines width fuel c
          (width, count, c)
      if c.rest.isEmpty then
        pure (if c.line = start.line then [] else header.chomping.nothing blankLines, c)
      else if c.column < width ∧ indent < c.column then none
      else
        let (text, j, c) := readLines folded width fuel ⟨false, blankLines, false⟩ c
        pure (text ++ header.chomping.tail width j c, c)

end ForumSearch.Yaml.Block
