import ForumSearch.Settings.Yaml.Cursor

/-!
Gaps between the words of a scalar. Blanks within a line are kept; the end of one line becomes a
space, and further ends of lines stay.
-/

namespace ForumSearch.Yaml

structure Gap where
  blanks : Text
  /-- A line has ended in the gap. -/
  broken : Bool
  /-- That end of a line was escaped, and does not count. -/
  escaped : Bool
  /-- How many further lines have ended. -/
  breaks : Nat

namespace Gap

def empty : Gap := ⟨[], false, false, 0⟩

/-- A gap that begins with an escaped end of a line. -/
def joined : Gap := ⟨[], true, true, 0⟩

/-- What the gap amounts to in the scalar. -/
def text (g : Gap) : Text :=
  if !g.broken then g.blanks
  else if g.breaks = 0 ∧ !g.escaped then [' ']
  else List.replicate g.breaks '\n'

def endLine (g : Gap) : Gap :=
  if g.broken then { g with breaks := g.breaks + 1 } else { g with broken := true, blanks := [] }

end Gap

/-- How a tab counts that comes before the indentation is reached. -/
inductive TabRule where
  | refused
  /-- Nothing but a comment may come after it on the line, and a line with a comment does not
  count. -/
  | blankLine
  deriving DecidableEq

/-- Reads on through a gap. Each round takes at least one character, so the length of the text is
enough fuel. -/
def readGap? (rule : TabRule) (indent : Int) : Nat → Gap → Cursor → Option (Gap × Cursor)
  | 0, _, _ => none
  | fuel + 1, g, c =>
    match c.head? with
    | none => some (g, c)
    | some x =>
      if isBreak x then readGap? rule indent fuel g.endLine c.skipBreak
      else if !isBlank x then some (g, c)
      else if !g.broken then
        readGap? rule indent fuel { g with blanks := g.blanks ++ [x] } (c.skipBlanks 1)
      else if x = '\t' ∧ c.column < indent then
        match rule with
        | .refused => none
        | .blankLine => do
          let c ← c.skipRest?
          if endsLine c.head? then
            readGap? rule indent fuel g (if c.fresh then c else c.skipBreak)
          else none
      else readGap? rule indent fuel g (c.skipBlanks 1)

end ForumSearch.Yaml
