import ForumSearch.Settings.Yaml.Gap

/-!
Quoted scalars. A quote is written twice inside single quotes, and double quotes have escapes; the
end of a line can be escaped too.
-/

namespace ForumSearch.Yaml

inductive Quote where
  | single
  | double
  deriving DecidableEq

namespace Quote

def char : Quote → Char
  | .single => '\''
  | .double => '"'

/-- The character of an escape that has no digits. -/
def simpleEscape? : Char → Option Char
  | '0' => some '\x00'
  | 'a' => some '\x07'
  | 'b' => some '\x08'
  | 't' => some '\t'
  | '\t' => some '\t'
  | 'n' => some '\n'
  | 'v' => some '\x0b'
  | 'f' => some '\x0c'
  | 'r' => some '\r'
  | 'e' => some '\x1b'
  | ' ' => some ' '
  | '"' => some '"'
  | '/' => some '/'
  | '\\' => some '\\'
  | 'N' => some '\u0085'
  | '_' => some '\u00a0'
  | 'L' => some '\u2028'
  | 'P' => some '\u2029'
  | _ => none

/-- The character of an escape after its backslash, and how many characters the escape has then. -/
def readEscape? : Text → Option (Char × Nat)
  | [] => none
  | c :: rest =>
    let width := if c = 'x' then 2 else if c = 'u' then 4 else if c = 'U' then 8 else 0
    if width = 0 then (simpleEscape? c).map (·, 1)
    else do
      let (n, _) ← Text.takeHex? width rest
      if n.isValidChar then pure (Char.ofNat n, width + 1) else none

/-- A word of the scalar, and the gap that an escaped end of a line begins after it. Each round
takes at least one character, so the length of the text is enough fuel, here and below. -/
def readWord? (q : Quote) : Nat → Cursor → Option (Text × Gap × Cursor)
  | 0, _ => none
  | fuel + 1, c =>
    let more (x : Char) (c : Cursor) := do
      let (word, gap, c) ← readWord? q fuel c
      pure (x :: word, gap, c)
    if endsWord c.head? then some ([], .empty, c)
    else match q, c.rest with
      | .single, '\'' :: '\'' :: _ => more '\'' (c.skip 2)
      | .double, '\\' :: rest =>
        if rest.head?.any isBreak then some ([], .joined, (c.skip 1).skipBreak)
        else do
          let (x, count) ← readEscape? rest
          more x (c.skip (count + 1))
      | _, x :: _ => if x = q.char then some ([], .empty, c) else more x (c.skip 1)
      | _, [] => none

/-- The scalar up to its closing quote, and the place of that. No line of it begins before the
indentation or with the mark of a document. -/
def readBody? (q : Quote) (indent : Int) : Nat → Cursor → Option (Text × Cursor)
  | 0, _ => none
  | fuel + 1, c =>
    if (c.column = 0 ∧ isDocumentMark c.rest) ∨ c.rest.isEmpty ∨ c.column < indent then none
    else do
      let (word, gap, c) ← readWord? q (fuel + 1) c
      if c.head? = some q.char then pure (word, c)
      else
        let (gap, c) ← readGap? .refused indent (fuel + 1) gap c
        let (more, c) ← readBody? q indent fuel c
        pure (word ++ gap.text ++ more, c)

/-- The scalar after its opening quote, and the place after it. -/
def read? (q : Quote) (indent : Int) (c : Cursor) : Option (Text × Cursor) := do
  let (text, c) ← readBody? q indent (c.rest.length + 2) c
  pure (text, c.skip 1)

end Quote

end ForumSearch.Yaml
