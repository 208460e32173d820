import ForumSearch.Settings.Yaml.Block
import ForumSearch.Settings.Yaml.Plain
import ForumSearch.Settings.Yaml.Quoted
import ForumSearch.Settings.Yaml.Token

/-!
How the layout of a YAML text becomes tokens. Indentation opens and closes blocks; what turns out to
be a key, by the colon after it, gets its token in front of it afterwards.
-/

namespace ForumSearch.Yaml

/-- The start of what may turn out to be a key. -/
structure SimpleKey where
  /-- It must be a key, as nothing else can be there. -/
  required : Bool
  number : Nat
  index : Nat
  line : Nat
  column : Nat

structure Indent where
  /-- The column of the level around it. -/
  outer : Int
  /-- It is that of a block, and not only a column that what belongs to a key must reach. -/
  block : Bool

/-- Whether an item of a list in brackets is a pair without braces. -/
inductive Pair where
  | possible
  /-- The pair has begun at a depth of flow collections. -/
  | inside (depth : Nat)
  deriving DecidableEq

/-- What is known at a place in a text. -/
structure Layout where
  cursor : Cursor
  /-- The tokens so far, the last of them first. -/
  tokens : List Token
  count : Nat
  lastColumn : Nat
  keyAllowed : Bool
  key : Option SimpleKey
  /-- The keys around the flow collections that are open. -/
  outerKeys : List (Option SimpleKey)
  indent : Int
  indents : List Indent
  /-- A colon here ends a key whatever comes after it. -/
  adjacentAt : Nat
  /-- The last pair in a flow collection has a table around it. -/
  inTable : Bool
  pairs : List Pair

namespace Layout

def start (s : Text) : Layout :=
  ⟨.start s, [], 0, 0, true, none, [], -1, [], 0, false, []⟩

def depth (l : Layout) : Nat := l.outerKeys.length

def inFlow (l : Layout) : Bool := !l.outerKeys.isEmpty

def moveTo (l : Layout) (c : Cursor) : Layout := { l with cursor := c }

def push (l : Layout) (t : Token) (column : Nat) : Layout :=
  { l with tokens := t :: l.tokens, count := l.count + 1, lastColumn := column }

def insert (l : Layout) (t : Token) (number : Nat) : Layout :=
  let (after, before) := l.tokens.splitAt (l.count - number)
  { l with tokens := after ++ t :: before, count := l.count + 1 }

def allowKey (l : Layout) : Layout := { l with keyAllowed := true }

def forbidKey (l : Layout) : Layout := { l with keyAllowed := false }

/-! Indentation -/

def inBlock (l : Layout) : Bool := l.indents.head?.any (·.block)

def closeIndent (l : Layout) : Layout :=
  match l.indents with
  | [] => l
  | i :: rest =>
    let l := { l with indent := i.outer, indents := rest }
    if i.block then l.push .blockEnd l.cursor.column else l

/-- Closes the blocks that are deeper than a column. There are no more rounds than levels. -/
def closeIndents (l : Layout) (column : Int) : Layout :=
  if l.inFlow then l
  else l.indents.foldl (fun l _ => if column < l.indent then l.closeIndent else l) l

def dropColumns (l : Layout) : Layout :=
  match l.indents.dropWhile (!·.block), (l.indents.takeWhile (!·.block)).getLast? with
  | indents, some i => { l with indent := i.outer, indents }
  | _, none => l

/-- What comes next must be deeper than the block by one column. -/
def deepen (l : Layout) : Layout :=
  if l.inFlow ∨ !l.inBlock then l
  else { l with indents := ⟨l.indent, false⟩ :: l.indents, indent := l.indent + 1 }

/-- Opens a block in a column, if it is deeper than the block before. Its token is put after some
number of tokens, or at the end. -/
def openBlock (l : Layout) (column : Nat) (t : Token) (number : Option Nat) : Layout :=
  if l.inFlow then l
  else
    let l := match l.indents with
      | ⟨outer, false⟩ :: rest =>
        if l.indent ≤ (column : Int) then { l with indent := outer, indents := rest } else l
      | _ => l
    if l.indent < (column : Int) then
      let l := { l with indents := ⟨l.indent, true⟩ :: l.indents, indent := (column : Int) }
      match number with
      | some number => l.insert t number
      | none => l.push t column
    else l

/-! Keys -/

def noteKey (l : Layout) : Layout :=
  let c := l.cursor
  if l.keyAllowed then
    let required := !l.inFlow && l.indent = c.column && l.inBlock
    { l with key := some ⟨required, l.count, c.index, c.line, c.column⟩ }
  else l

def dropKey? (l : Layout) : Option Layout :=
  if l.key.any (·.required) then none else some { l with key := none }

/-- A key ends on its line and has no more than 1024 characters, outside of flow collections. -/
def dropOldKey? (l : Layout) : Option Layout :=
  let c := l.cursor
  if !l.inFlow ∧ l.key.any (fun k => k.line < c.line || k.index + 1024 < c.index) then l.dropKey?
  else some l

def endPair (l : Layout) (depth : Nat) : Layout :=
  match l.pairs with
  | .inside d :: pairs =>
    if d = depth then
      { l with pairs := .possible :: pairs, inTable := false }.push .flowTableEnd l.cursor.column
    else l
  | _ => l

/-! Spaces between tokens -/

/-- Passes over blanks, ends of lines and comments. A tab does not indent. Each round takes at least
one character. -/
def toContent? : Nat → Layout → Option Layout
  | 0, _ => none
  | fuel + 1, l =>
    let c := l.cursor
    match c.head? with
    | none => some l
    | some x =>
      if x = '\t' ∧ !l.indents.isEmpty ∧ c.fresh ∧ c.column < l.indent then do
        let c ← c.skipRest?
        if endsLine c.head? then toContent? fuel (l.moveTo c) else none
      else if isBlank x then toContent? fuel (l.moveTo (c.skipBlanks 1))
      else if isBreak x then
        toContent? fuel { l with cursor := c.skipBreak, keyAllowed := l.keyAllowed || !l.inFlow }
      else if x = '#' then
        toContent? fuel (l.moveTo (c.skip (c.rest.takeWhile (!isBreak ·)).length))
      else some l

def skipRest? (l : Layout) : Option Layout :=
  l.cursor.skipRest?.map l.moveTo

/-! Documents -/

def closeAll? (l : Layout) : Option Layout := do
  pure (← (l.closeIndents (-1)).dropKey?).forbidKey

def directive? (l : Layout) : Option Layout := do
  let l ← l.closeAll?
  let (t, c) ← readDirective? l.cursor
  pure ((l.moveTo c).push t 0)

def documentMark? (l : Layout) (t : Token) : Option Layout := do
  let l ← l.closeAll?
  pure ((l.moveTo (l.cursor.skip 3)).push t 0)

/-- The mark of an end has its line for itself. -/
def documentEnd? (l : Layout) : Option Layout := do
  let l ← (← l.documentMark? .documentEnd).skipRest?
  if endsLine l.cursor.head? then pure l else none

/-! Flow collections -/

/-- How many flow collections there can be inside each other. -/
def maxDepth : Nat := 255

def openFlow? (l : Layout) (t : Token) : Option Layout := do
  let column := l.cursor.column
  let l := l.noteKey.deepen
  if l.depth = maxDepth then none
  else
    let l := { l with outerKeys := l.key :: l.outerKeys, key := none }.allowKey
    let l := l.moveTo (l.cursor.skip 1)
    let l := if t = .flowTableStart then { l with inTable := true }
      else { l with pairs := .possible :: l.pairs }
    pure ((← l.skipRest?).push t column)

def closeFlow? (l : Layout) (t : Token) : Option Layout := do
  let column := l.cursor.column
  let depth := l.depth
  let l ← l.dropKey?
  match l.outerKeys with
  | [] => none
  | key :: outerKeys =>
    let l := { l with key, outerKeys }.forbidKey
    let l := if t = .flowListEnd then
        let l := l.endPair depth
        { l with pairs := l.pairs.drop 1 }
      else l
    let l ← (l.moveTo (l.cursor.skip 1)).skipRest?
    let l := if l.inFlow then { l with adjacentAt := l.cursor.index } else l
    pure (l.push t column)

def flowEntry? (l : Layout) : Option Layout := do
  let column := l.cursor.column
  let l := (← l.dropKey?).allowKey
  let l := l.endPair l.depth
  let l ← (l.moveTo (l.cursor.skip 1)).skipRest?
  pure (l.push .flowEntry column)

/-! Entries, keys and values -/

def blockEntry? (l : Layout) : Option Layout := do
  let column := l.cursor.column
  let misplaced := column = 0 && l.lastColumn = 0 && l.tokens.head?.any (·.isProperty) &&
    -1 < l.indent
  if l.inFlow ∨ !l.keyAllowed ∨ misplaced then none
  else
    let l := (l.moveTo (l.cursor.skip 1)).openBlock column .blockListStart none
    let passed ← l.cursor.passRest? true
    let c := passed.cursor
    if passed.tabs ∧ c.head? = some '-' ∧ endsWord c.second? then none
    else
      let l := l.moveTo (← c.passRest? false).cursor
      let l := if l.cursor.head?.any fun x => isBreak x || isFlow x then l.deepen else l
      pure ((← l.dropKey?).allowKey.push .blockEntry column)

/-- Passes over spaces, ends of lines and comments, of which there is one at least. Each round takes
at least one character. -/
def skipSpaces? : Nat → Bool → Layout → Option Layout
  | 0, _, _ => none
  | fuel + 1, passed, l =>
    let c := l.cursor
    match c.head? with
    | some ' ' => skipSpaces? fuel true (l.moveTo (c.skipBlanks 1))
    | some '#' =>
      skipSpaces? fuel passed (l.moveTo (c.skip (c.rest.takeWhile (!isBreak ·)).length))
    | x =>
      if x.any isBreak then
        skipSpaces? fuel true
          { l with cursor := c.skipBreak, keyAllowed := l.keyAllowed || !l.inFlow }
      else if passed then some l
      else none

def key? (l : Layout) : Option Layout := do
  let column := l.cursor.column
  if !l.inFlow ∧ !l.keyAllowed then none
  else
    let l := if l.inFlow then { l with inTable := true }
      else l.openBlock column .blockTableStart none
    let l ← l.dropKey?
    let l := { l with keyAllowed := !l.inFlow }
    let c := l.cursor.skip 1
    let l ← (l.moveTo c).skipSpaces? (c.rest.length + 1) false
    if l.cursor.head? = some '\t' then none else pure (l.push .key column)

/-- Passes over the colon of a value. After a tab and no space, no word may come. -/
def skipColon? (l : Layout) : Option Layout :=
  let c := l.cursor.skip 1
  if c.head? = some '\t' then do
    let passed ← c.passRest? true
    if !passed.spaces ∧ passed.cursor.head?.any isWordChar then none
    else pure (l.moveTo passed.cursor)
  else some (l.moveTo c)

/-- A value after what turns out to be a key. -/
def valueOf? (l : Layout) (k : SimpleKey) (line : Nat) (pair : Bool) : Option Layout :=
  if pair ∧ k.line < line then none
  else
    let l := l.insert .key k.number
    let l := if pair then l.insert .flowTableStart k.number else l
    let l := (l.openBlock k.column .blockTableStart (some k.number)).deepen
    some { l with key := none }.forbidKey

/-- A value after a key by its question mark, or without a key. -/
def bareValue? (l : Layout) (column : Nat) (pair : Bool) : Option Layout :=
  let l := if pair then l.push .flowTableStart l.cursor.column else l
  if !l.inFlow ∧ !l.keyAllowed then none
  else
    let l := (l.openBlock column .blockTableStart none).deepen
    some { l with keyAllowed := !l.inFlow }

def value? (l : Layout) : Option Layout := do
  let start := l.cursor
  let pair := !l.pairs.isEmpty && !l.inTable
  let l := if pair then { l with pairs := .inside l.depth :: l.pairs.drop 1 } else l
  let l ← l.skipColon?
  let l ← match l.key with
    | some k => l.valueOf? k start.line pair
    | none => l.bareValue? start.column pair
  pure (l.push .value start.column)

/-! Scalars and their properties -/

/-- A token that can be a key or come before one. -/
def node? (l : Layout) (read : Cursor → Option (Token × Cursor)) : Option Layout := do
  let column := l.cursor.column
  let l := l.noteKey.forbidKey
  let (t, c) ← read l.cursor
  pure ((l.moveTo c).push t column)

/-- What may come after a quoted scalar on its line. A colon makes it a key, which ends on the line
where it began, outside of flow collections. -/
def mayFollow (l : Layout) (line : Nat) : Option Char → Bool
  | none => true
  | some ':' => l.inFlow || line = l.cursor.line
  | some x => isBreak x || (l.inFlow && [',', ']', '\x7d'].contains x)

def quoted? (l : Layout) (q : Quote) (fuel : Nat) : Option Layout := do
  let start := l.cursor
  let l := l.noteKey.forbidKey
  let (text, c) ← q.read? l.indent (start.skip 1)
  let l ← (l.moveTo c).skipRest?
  if l.mayFollow start.line l.cursor.head? then
    let l ← l.toContent? fuel
    pure ({ l with adjacentAt := l.cursor.index }.push (.scalar false text) start.column)
  else none

def plain? (l : Layout) : Option Layout := do
  let start := l.cursor
  let l := l.noteKey.forbidKey.dropColumns
  let (text, c) ← Plain.read? l.inFlow (l.indent + 1) start
  let l := (l.moveTo c).push (.scalar true text) start.column
  pure (if c.fresh then l.allowKey else l)

def block? (l : Layout) (folded : Bool) : Option Layout := do
  let start := l.cursor
  let l := l.noteKey.allowKey.dropColumns
  let (text, c) ← Block.read? folded l.indent (start.skip 1)
  pure ((l.moveTo c).push (.scalar false text) start.column)

/-! Tokens one after another -/

def isValue (l : Layout) : Bool :=
  let c := l.cursor
  endsWord c.second? || (l.inFlow && (c.second?.any isFlow || c.index = l.adjacentAt))

/-- The token that begins with a character at this place. -/
def content? (l : Layout) (fuel : Nat) (x : Char) : Option Layout :=
  let c := l.cursor
  let alone := endsWord c.second?
  match x with
  | '[' => l.openFlow? .flowListStart
  | '\x7b' => l.openFlow? .flowTableStart
  | ']' => l.closeFlow? .flowListEnd
  | '\x7d' => l.closeFlow? .flowTableEnd
  | ',' => l.flowEntry?
  | '-' => if alone then l.blockEntry? else l.plain?
  | '?' => if alone then l.key? else l.plain?
  | ':' => if l.isValue then l.value? else l.plain?
  | '*' => l.node? fun c => (readName? (c.skip 1)).map fun r => (.reference r.1, r.2)
  | '&' => l.node? fun c => (readName? (c.skip 1)).map fun r => (.anchor r.1, r.2)
  | '!' => l.node? fun c => do
    let (t, c) ← readTag? c
    if endsWord c.head? ∨ (l.inFlow ∧ c.head?.any isFlow) then pure (t, c) else none
  | '\'' => l.quoted? .single fuel
  | '"' => l.quoted? .double fuel
  | '|' => if l.inFlow then l.plain? else l.block? false
  | '>' => if l.inFlow then l.plain? else l.block? true
  | x => if x = '%' ∨ x = '@' ∨ x = '\x60' then none else l.plain?

def token? (l : Layout) (fuel : Nat) : Option Layout :=
  let c := l.cursor
  match c.head? with
  | none => some l
  | some x =>
    let closing := l.inFlow && [',', ']', '\x7d'].contains x
    if c.column = 0 ∧ x = '%' then l.directive?
    else if c.column = 0 ∧ isMark '-' c.rest then l.documentMark? .documentStart
    else if c.column = 0 ∧ isMark '.' c.rest then l.documentEnd?
    else if c.column < l.indent ∧ !closing then none
    else l.content? fuel x

/-- All tokens up to the end of the text. Each round takes at least one character, so the length of
the text is enough fuel. -/
def scan? : Nat → Layout → Option Layout
  | 0, _ => none
  | fuel + 1, l => do
    let l ← (← l.toContent? fuel).dropOldKey?
    let l := l.closeIndents l.cursor.column
    if l.cursor.rest.isEmpty then l.closeAll?
    else scan? fuel (← l.token? fuel)

end Layout

/-- The tokens of a text, which ends at its first null character. -/
def tokens? (s : Text) : Option (List Token) := do
  let s := s.takeWhile (· ≠ '\x00')
  pure (← Layout.scan? (s.length + 2) (.start s)).tokens.reverse

end ForumSearch.Yaml
