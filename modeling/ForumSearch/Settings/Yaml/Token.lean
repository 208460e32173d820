import ForumSearch.Settings.Yaml.Cursor

/-!
The tokens of a YAML text, and those of them that are a name or an address: anchors, references,
tags and directives. What the indentation says is in the tokens as the starts and ends of blocks.
-/

namespace ForumSearch.Yaml

inductive Token where
  | version
  /-- Tags that begin with the handle go on from the given beginning. -/
  | tagDirective (handle beginning : Text)
  | documentStart
  | documentEnd
  | blockListStart
  | blockTableStart
  | blockEnd
  | flowListStart
  | flowListEnd
  | flowTableStart
  | flowTableEnd
  | blockEntry
  | flowEntry
  | key
  | value
  | reference (name : Text)
  | anchor (name : Text)
  | tag (handle name : Text)
  | scalar (plain : Bool) (text : Text)
  deriving DecidableEq, Repr

namespace Token

/-- An anchor or a tag, which belongs to the node after it. -/
def isProperty : Token → Bool
  | .anchor _ | .tag _ _ => true
  | _ => false

end Token

/-! Names -/

def readName? (c : Cursor) : Option (Text × Cursor) :=
  let name := c.rest.takeWhile fun x =>
    !isBlank x && !isBreak x && !isFlow x && x ≠ '\uFEFF'
  if name.isEmpty then none else some (name, c.skip name.length)

/-! Tags -/

def isAddressChar (c : Char) : Bool :=
  (isWordChar c && c ≠ '_') || "#;/?:@&=+$,_.!~*'()[]%".toList.contains c

def isTagChar (c : Char) : Bool :=
  isAddressChar c && !isFlow c && c ≠ '!'

/-- How many bytes belong to a character, by the first of them. -/
def byteCount? (byte : Nat) : Option Nat :=
  if byte < 0x80 then some 1
  else if byte < 0xc0 then none
  else if byte < 0xe0 then some 2
  else if byte < 0xf0 then some 3
  else if byte < 0xf8 then some 4
  else none

/-- The number that some escaped bytes make with one before them, and what follows them. -/
def readBytes? : Nat → Nat → Text → Option (Nat × Text)
  | 0, n, s => some (n, s)
  | count + 1, n, '%' :: rest => do
    let (byte, rest) ← Text.takeHex? 2 rest
    if byte / 64 = 2 then readBytes? count (256 * n + byte) rest else none
  | _, _, _ => none

/-- The character of one or more escaped bytes, whose number is that of the bytes after one another,
and what follows it. -/
def readEscaped? (s : Text) : Option (Char × Text) := do
  let (byte, rest) ← Text.takeHex? 2 s
  let (n, rest) ← readBytes? ((← byteCount? byte) - 1) byte rest
  if n.isValidChar then pure (Char.ofNat n, rest) else none

/-- The characters of a tag that are of a kind, its escapes undone, and what follows them. Each
round takes at least one character, so the length of the text is enough fuel. -/
def readAddress? (isPart : Char → Bool) : Nat → Text → Option (Text × Text)
  | 0, _ => none
  | _, [] => some ([], [])
  | fuel + 1, '%' :: rest => do
    let (c, rest) ← readEscaped? rest
    let (more, rest) ← readAddress? isPart fuel rest
    pure (c :: more, rest)
  | fuel + 1, c :: rest =>
    if isPart c then (readAddress? isPart fuel rest).map fun r => (c :: r.1, r.2)
    else some ([], c :: rest)

namespace Cursor

/-- The place at which only a given text is left. -/
def upTo (c : Cursor) (rest : Text) : Cursor :=
  c.skip (c.rest.length - rest.length)

/-- The characters of a tag at a place, and the place after them. -/
def address? (c : Cursor) (isPart : Char → Bool) : Option (Text × Cursor) :=
  (readAddress? isPart (c.rest.length + 1) c.rest).map fun r => (r.1, c.upTo r.2)

end Cursor

/-- A handle: an exclamation mark, or a word between two of them. What is only the beginning of one
is part of a name, and refused where a handle must come. -/
def readHandle? (required : Bool) (c : Cursor) : Option (Text × Cursor) :=
  match c.rest with
  | '!' :: rest =>
    let word := rest.takeWhile isWordChar
    if (rest.drop word.length).head? = some '!' then
      some ('!' :: word ++ ['!'], c.skip (word.length + 2))
    else if required ∧ !word.isEmpty then none
    else some ('!' :: word, c.skip (word.length + 1))
  | _ => none

/-- A tag at its exclamation mark: an address in angle brackets, a name after a handle, or a name
alone. -/
def readTag? (c : Cursor) : Option (Token × Cursor) := do
  if c.second? = some '<' then
    let (name, c) ← (c.skip 2).address? isAddressChar
    if c.head? = some '>' then pure (.tag [] name, c.skip 1) else none
  else
    let (handle, c) ← readHandle? false c
    let (name, c) ← c.address? isTagChar
    if 2 ≤ handle.length ∧ handle.getLast? = some '!' then
      if name.isEmpty then none else pure (.tag handle name, c)
    else
      let name := handle.drop 1 ++ name
      pure (if name.isEmpty then .tag [] ['!'] else .tag ['!'] name, c)

/-! Directives -/

def skipSpace (c : Cursor) : Cursor :=
  c.skipBlanks (c.rest.takeWhile isBlank).length

/-- The place after a number of at most nine digits. -/
def skipNumber? (c : Cursor) : Option Cursor :=
  let digits := c.rest.takeWhile Text.isDigit
  if digits.isEmpty ∨ 9 < digits.length then none else some (c.skip digits.length)

/-- The version of the language, which is of no consequence. -/
def readVersion? (c : Cursor) : Option (Token × Cursor) := do
  let c ← skipNumber? (skipSpace c)
  if c.head? = some '.' then pure (.version, ← skipNumber? (c.skip 1)) else none

def readTagDirective? (c : Cursor) : Option (Token × Cursor) := do
  let (handle, c) ← readHandle? true (skipSpace c)
  let c := skipSpace c
  if c.head?.any fun x => x = '!' || isTagChar x then
    let (first, c) := if c.head? = some '!' then (['!'], c.skip 1) else ([], c)
    let (beginning, c) ← c.address? isAddressChar
    if endsWord c.head? then pure (.tagDirective handle (first ++ beginning), c) else none
  else none

/-- A directive at its percent sign, up to the end of its line. One of another name stands for the
empty handle. -/
def readDirective? (c : Cursor) : Option (Token × Cursor) := do
  let c := c.skip 1
  let name := c.rest.takeWhile isWordChar
  let c := c.skip name.length
  if name.isEmpty ∨ !endsWord c.head? then none
  else
    let (token, c) ←
      if name = "YAML".toList then readVersion? c
      else if name = "TAG".toList then readTagDirective? c
      else some (.tagDirective [] [], c.skip (c.rest.takeWhile (!isBreak ·)).length)
    let c ← c.skipRest?
    if endsLine c.head? then pure (token, c.skipBreak) else none

end ForumSearch.Yaml
