import ForumSearch.Settings.Yaml.Layout
import ForumSearch.Settings.Yaml.Node

/-!
Settings written in YAML: one document, which is a table, or none. Its nodes are read from the
tokens; a node with an anchor is kept for the references after it.
-/

namespace ForumSearch.Yaml

/-- What is left of the tokens, and what has been named before them. -/
structure Reading where
  tokens : List Token
  /-- What the handles of tags stand for. -/
  handles : List (Text × Text)
  /-- The numbers of the anchors, the last of a name first. -/
  anchors : List (Text × Nat)
  /-- The nodes with an anchor, by its number, as far as they are complete. -/
  nodes : List (Nat × Node)

abbrev Reader := StateT Reading Option

namespace Reader

def peek : Reader (Option Token) := do
  return (← get).tokens.head?

def skip : Reader Unit :=
  modify fun r => { r with tokens := r.tokens.drop 1 }

def isNext (tokens : List Token) : Reader Bool := do
  return (← peek).any tokens.contains

/-! Tags, anchors and references -/

/-- The tag of a handle and a name. A handle between exclamation marks must have been declared. -/
def tag (handle name : Text) : Reader Node.Tag := do
  match (← get).handles.lookup handle with
  | some beginning => return ⟨beginning, name⟩
  | none =>
    if handle = "!!".toList then return ⟨Node.Tag.standard, name⟩
    else if 2 ≤ handle.length then failure
    else return ⟨handle, name⟩

def anchor (name : Text) : Reader Nat := do
  let r ← get
  let number := r.anchors.length
  set { r with anchors := (name, number) :: r.anchors }
  return number

/-- The node that a reference stands for. One inside of the node itself stands for none. -/
def reference (name : Text) : Reader Node := do
  let r ← get
  match r.anchors.lookup name with
  | some number => return (r.nodes.lookup number).getD .bad
  | none => failure

/-- The properties in front of a node: an anchor and a tag, in any order. -/
def properties : Reader (Option Nat × Option Node.Tag) := do
  match ← peek with
  | some (.anchor a) =>
    skip
    let number ← anchor a
    match ← peek with
    | some (.tag handle name) =>
      skip
      return (some number, some (← tag handle name))
    | _ => return (some number, none)
  | some (.tag handle name) =>
    skip
    let tag ← tag handle name
    match ← peek with
    | some (.anchor a) =>
      skip
      return (some (← anchor a), some tag)
    | _ => return (none, some tag)
  | _ => return (none, none)

/-- Keeps a node for the references to its anchor. -/
def keep (number : Option Nat) (n : Node) : Reader Node := do
  match number with
  | some number => modify fun r => { r with nodes := (number, n) :: r.nodes }
  | none => return n
  return n

def table (nodes : List Node) : Reader Node :=
  match Node.tableOf? [] nodes with
  | some n => return n
  | none => failure

/-! Nodes -/

mutual
/-- Reads a node, which can be a block or, below a key, the items of a list without indentation of
their own. Every call takes at least one token before the next but one, so a multiple of their
number is enough fuel. -/
def node : Nat → Bool → Bool → Reader Node
  | 0, _, _ => failure
  | fuel + 1, block, below => do
    match ← peek with
    | some (.reference name) =>
      skip
      reference name
    | _ =>
      let (number, tag) ← properties
      match ← peek with
      | some (.scalar plain s) =>
        skip
        keep number (.ofScalar tag plain s)
      | some .flowListStart =>
        skip
        keep number (.list (← flowItems fuel true))
      | some .flowTableStart =>
        skip
        keep number (← table (← flowMembers fuel true))
      | t =>
        if t = some .blockEntry ∧ below then keep number (.list (← hangingItems fuel))
        else if t = some .blockListStart ∧ block then
          skip
          keep number (.list (← blockItems fuel))
        else if t = some .blockTableStart ∧ block then
          skip
          keep number (← table (← blockMembers fuel))
        else if number.isSome ∨ tag.isSome then keep number (.ofScalar tag true [])
        else failure

/-- A node, or none before one of some tokens. -/
def nodeUnless : Nat → List Token → Bool → Bool → Reader Node
  | 0, _, _, _ => failure
  | fuel + 1, ends, block, below => do
    if ← isNext ends then return .null
    else node fuel block below

def blockItems : Nat → Reader (List Node)
  | 0 => failure
  | fuel + 1 => do
    match ← peek with
    | some .blockEnd =>
      skip
      return []
    | some .blockEntry =>
      skip
      let item ← nodeUnless fuel [.blockEntry, .blockEnd] true false
      return item :: (← blockItems fuel)
    | _ => failure

/-- The items of a list in the column of the key before it. -/
def hangingItems : Nat → Reader (List Node)
  | 0 => failure
  | fuel + 1 => do
    match ← peek with
    | some .blockEntry =>
      skip
      let item ← nodeUnless fuel [.blockEntry, .key, .value, .blockEnd] true false
      return item :: (← hangingItems fuel)
    | _ => return []

/-- The keys and values of a table that is a block, in turn. -/
def blockMembers : Nat → Reader (List Node)
  | 0 => failure
  | fuel + 1 => do
    match ← peek with
    | some .blockEnd =>
      skip
      return []
    | some .key =>
      skip
      let key ← nodeUnless fuel [.key, .value, .blockEnd] true true
      let value ← valueUnless fuel [.key, .value, .blockEnd] true
      return key :: value :: (← blockMembers fuel)
    | some .value =>
      let value ← valueUnless fuel [.key, .value, .blockEnd] true
      return .null :: value :: (← blockMembers fuel)
    | _ => failure

def valueUnless : Nat → List Token → Bool → Reader Node
  | 0, _, _ => failure
  | fuel + 1, ends, block => do
    if ← isNext [.value] then
      skip
      nodeUnless fuel ends block block
    else return .null

/-- The items of a list in brackets. Commas come before all of them but the first. -/
def flowItems : Nat → Bool → Reader (List Node)
  | 0, _ => failure
  | fuel + 1, first => do
    if !first ∧ (← isNext [.flowEntry]) then skip
    else if !first ∧ !(← isNext [.flowListEnd]) then failure
    match ← peek with
    | some .flowListEnd =>
      skip
      return []
    | some .key =>
      skip
      let pair ← flowPair fuel
      return pair :: (← flowItems fuel false)
    | _ =>
      let item ← node fuel false false
      return item :: (← flowItems fuel false)

/-- A key and a value as an item of a list, after the token of the key. The token after a missing
key is passed over. -/
def flowPair : Nat → Reader Node
  | 0 => failure
  | fuel + 1 => do
    if ← isNext [.value, .flowEntry, .flowListEnd] then
      skip
      table [.null, ← valueUnless fuel [.flowEntry, .flowListEnd] false]
    else
      let key ← node fuel false false
      table [key, ← valueUnless fuel [.flowEntry, .flowListEnd] false]

/-- The keys and values of a table in braces, in turn. -/
def flowMembers : Nat → Bool → Reader (List Node)
  | 0, _ => failure
  | fuel + 1, first => do
    if !first ∧ (← isNext [.flowEntry]) then skip
    else if !first ∧ !(← isNext [.flowTableEnd]) then failure
    match ← peek with
    | some .flowTableEnd =>
      skip
      return []
    | some .key =>
      skip
      let key ← nodeUnless fuel [.value, .flowEntry, .flowTableEnd] false false
      let value ← valueUnless fuel [.flowEntry, .flowTableEnd] false
      return key :: value :: (← flowMembers fuel false)
    | some .value =>
      let value ← valueUnless fuel [.flowEntry, .flowTableEnd] false
      return .null :: value :: (← flowMembers fuel false)
    | _ =>
      let key ← node fuel false false
      return key :: .null :: (← flowMembers fuel false)
end

/-! Documents -/

/-- Reads directives, of which the last alone counts and one can be a version; tells whether there
are any. -/
def directives : Nat → Bool → Reader Bool
  | 0, _ => failure
  | fuel + 1, versioned => do
    match ← peek with
    | some .version =>
      if versioned then failure
      skip
      modify fun r => { r with handles := [] }
      discard (directives fuel true)
      return true
    | some (.tagDirective handle beginning) =>
      skip
      modify fun r => { r with handles := [(handle, beginning)] }
      discard (directives fuel versioned)
      return true
    | _ => return false

def skipEnds : Reader Unit :=
  modify fun r => { r with tokens := r.tokens.dropWhile (· = .documentEnd) }

/-- The node of the one document; none if there is no document. -/
def document (fuel : Nat) : Reader (Option Node) := do
  skipEnds
  if (← peek).isNone then return none
  else
    let directed ← directives fuel false
    let n ←
      if ← isNext [.documentStart] then
        skip
        if (← peek).isNone ∨ (← isNext [.documentStart, .documentEnd]) then pure .null
        else node fuel true false
      else if directed then failure
      else node fuel true false
    skipEnds
    if (← peek).isSome then failure
    else return some n

end Reader

/-- The settings in a text. A text without a document has none. -/
def read (s : Text) : Option Layer := do
  let tokens ← tokens? s
  match ← (Reader.document (4 * tokens.length + 4)).run' ⟨tokens, [], [], []⟩ with
  | none => pure []
  | some n =>
    match ← n.toSetting? with
    | .table members => pure members
    | _ => none

end ForumSearch.Yaml
