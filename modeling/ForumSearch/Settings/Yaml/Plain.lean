import ForumSearch.Settings.Yaml.Gap

/-!
Plain scalars. They end at a colon before a blank, at a comment, at a mark of the flow collection
they are in, or at a line that is not deep enough.
-/

namespace ForumSearch.Yaml.Plain

/-- The first of two characters can be part of a plain scalar. -/
def isPart (flow : Bool) (c : Char) (next : Option Char) : Bool :=
  if c = ':' then !(endsWord next || (flow && next.any isFlow))
  else !(flow && isFlow c) && !isBlank c && !isBreak c

def word (flow : Bool) : Text → Text
  | [] => []
  | c :: rest => if isPart flow c rest.head? then c :: word flow rest else []

/-- A scalar after a gap, and the place where it ends. Each round takes at least one character, so
the length of the text is enough fuel. -/
def readFrom? (flow : Bool) (indent : Int) : Nat → Gap → Cursor → Option (Text × Cursor)
  | 0, _, _ => none
  | fuel + 1, gap, c =>
    if (c.fresh ∧ isDocumentMark c.rest) ∨ c.head? = some '#' then some ([], c)
    else if flow ∧ c.head? = some '-' ∧ c.second?.any isFlow then none
    else
      let word := word flow c.rest
      if word.isEmpty then some ([], c)
      else do
        let text := gap.text ++ word
        let c := c.skip word.length
        if c.head?.any fun x => isBlank x || isBreak x then
          let (gap, c) ← readGap? .blankLine indent (fuel + 1) .empty c
          if !flow ∧ c.column < indent then pure (text, c)
          else
            let (more, c) ← readFrom? flow indent fuel gap c
            pure (text ++ more, c)
        else pure (text, c)

def read? (flow : Bool) (indent : Int) (c : Cursor) : Option (Text × Cursor) := do
  if flow ∧ c.column < indent then none
  else
    let (text, c) ← readFrom? flow indent (c.rest.length + 1) .empty c
    if text.isEmpty then none else pure (text, c)

end ForumSearch.Yaml.Plain
