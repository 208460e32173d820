import ForumSearch.Settings.Layer
import ForumSearch.Settings.Toml.Plain

/-!
TOML documents. A document is a tree that its lines build: a header opens a table, an entry puts a
value into it, and a key with points goes through tables that it makes. What is defined twice is
refused, and so is going on with a table that was finished before.
-/

namespace ForumSearch.Toml

open ForumSearch.Path (skipSpace)

/-- How a table came about, which decides who may still add to it. -/
inductive Origin where
  /-- By a header further down, and it may get one of its own. -/
  | implied
  | headed
  | dotted
  deriving DecidableEq

inductive Node where
  | value (setting : Setting)
  | table (origin : Origin) (members : List (Text × Node))
  /-- Tables under one header that is repeated. -/
  | tables (items : List (List (Text × Node)))

abbrev Members := List (Text × Node)

mutual
def Node.toSetting : Node → Setting
  | .value s => s
  | .table _ members => .table (settings members)
  | .tables items => .list (allSettings items)

def settings : Members → List (Text × Setting)
  | [] => []
  | (key, node) :: rest => (key, node.toSetting) :: settings rest

def allSettings : List Members → List Setting
  | [] => []
  | members :: rest => .table (settings members) :: allSettings rest
end

/-- A key with points goes through tables that have no header, or to the last table under a
repeated one, and what it defines is put into a table that such a key has made. -/
def Node.admitsKey (isParent : Bool) : Node → Bool
  | .table origin _ => if isParent then origin = .dotted else origin ≠ .headed
  | .tables _ => !isParent
  | .value _ => false

/-- Changes the table at a path, tables on the way to it made as need be. -/
def within (dotted : Bool) (change : Members → Option Members) :
    List Text → Members → Option Members
  | [], members => change members
  | key :: path, members =>
    match members.lookup key with
    | none => do
      let inner ← within dotted change path []
      pure (members ++ [(key, .table (if dotted then .dotted else .implied) inner)])
    | some node => do
      guard (!dotted || node.admitsKey path.isEmpty)
      match node with
      | .table origin inner =>
        let inner ← within dotted change path inner
        pure (Setting.put key (.table origin inner) members)
      | .tables items =>
        let inner ← within dotted change path (items.getLast?.getD [])
        pure (Setting.put key (.tables (items.dropLast ++ [inner])) members)
      | .value _ => none

def unsnoc : List Text → Option (List Text × Text)
  | [] => none
  | path => path.getLast?.map (path.dropLast, ·)

def addValue (path : List Text) (value : Setting) (members : Members) : Option Members := do
  let (path, key) ← unsnoc path
  within true (fun ms =>
    if (ms.lookup key).isSome then none else some (ms ++ [(key, .value value)])) path members

def addTable (path : List Text) (members : Members) : Option Members := do
  let (path, key) ← unsnoc path
  within false (fun ms => match ms.lookup key with
    | none => some (ms ++ [(key, .table .headed [])])
    | some (.table .implied inner) => some (Setting.put key (.table .headed inner) ms)
    | _ => none) path members

/-- Adds one more table under a repeated header. -/
def addItem (path : List Text) (members : Members) : Option Members := do
  let (path, key) ← unsnoc path
  within false (fun ms => match ms.lookup key with
    | none => some (ms ++ [(key, .tables [[]])])
    | some (.tables items) => some (Setting.put key (.tables (items ++ [[]])) ms)
    | _ => none) path members

mutual
/-- Reads a value, lists and tables in it at most some depth inside each other. Every call takes at
least one character before the next, so a multiple of the length of the text is enough fuel. -/
def readValue? : Nat → Nat → Text → Option (Setting × Text)
  | 0, _, _ => none
  | fuel + 1, depth, s =>
    match s, depth with
    | '"' :: _, _ | '\'' :: _, _ => (readString? s).map fun r => (.text r.1, r.2)
    | '[' :: rest, depth + 1 => (readItems? fuel depth rest).map fun r => (.list r.1, r.2)
    | '\x7b' :: rest, depth + 1 =>
      (readMembers? fuel depth [] rest).map fun r => (.table (settings r.1), r.2)
    | s, _ => readPlainAt? s

/-- The items of a list up to its closing bracket. A comma may follow the last one. -/
def readItems? : Nat → Nat → Text → Option (List Setting × Text)
  | 0, _, _ => none
  | fuel + 1, depth, s => do
    match ← skipTrivia false s with
    | ']' :: rest => pure ([], rest)
    | s =>
      let (item, rest) ← readValue? fuel depth s
      match ← skipTrivia false rest with
      | ',' :: rest => (readItems? fuel depth rest).map fun r => (item :: r.1, r.2)
      | ']' :: rest => pure ([item], rest)
      | _ => none

def readMembers? : Nat → Nat → Members → Text → Option (Members × Text)
  | 0, _, _, _ => none
  | fuel + 1, depth, members, s => do
    match ← skipTrivia false s with
    | '\x7d' :: rest => pure (members, rest)
    | s =>
      let (members, rest) ← readEntry? fuel depth members s
      match ← skipTrivia false rest with
      | ',' :: rest => readMembers? fuel depth members rest
      | '\x7d' :: rest => pure (members, rest)
      | _ => none

/-- One entry, added to some members. -/
def readEntry? : Nat → Nat → Members → Text → Option (Members × Text)
  | 0, _, _, _ => none
  | fuel + 1, depth, members, s => do
    match ← readPath? maxDepth s with
    | (path, '=' :: rest) =>
      let (value, rest) ← readValue? fuel depth (skipSpace rest)
      pure (← addValue path value members, rest)
    | _ => none
end

/-- What the lines so far have defined, and the table that entries go to. -/
structure Document where
  members : Members
  current : List Text

namespace Document

def empty : Document := ⟨[], []⟩

def readEntry? (d : Document) (s : Text) : Option (Document × Text) := do
  match ← readPath? maxDepth s with
  | (path, '=' :: rest) =>
    let (value, rest) ← readValue? (4 * rest.length + 4) maxDepth (skipSpace rest)
    let members ← within false (addValue path value) d.current d.members
    pure ({ d with members }, rest)
  | _ => none

/-- Reads the header of a table, one bracket or two on either side. -/
def readHeader? (d : Document) (s : Text) : Option (Document × Text) := do
  match s with
  | '[' :: rest =>
    match ← readPath? maxDepth rest with
    | (path, ']' :: ']' :: rest) => pure (⟨← addItem path d.members, path⟩, rest)
    | _ => none
  | s =>
    match ← readPath? maxDepth s with
    | (path, ']' :: rest) => pure (⟨← addTable path d.members, path⟩, rest)
    | _ => none

def readLines? : Nat → Document → Text → Option Document
  | 0, _, _ => none
  | fuel + 1, d, s => do
    match ← skipTrivia false s with
    | [] => pure d
    | '[' :: rest =>
      let (d, rest) ← d.readHeader? rest
      readLines? fuel d (← nextLine rest)
    | s =>
      let (d, rest) ← d.readEntry? s
      readLines? fuel d (← nextLine rest)

end Document

/-- The settings in a text. A byte order mark in front of it is passed over. -/
def read (s : Text) : Option Layer := do
  let s := match s with
    | '\uFEFF' :: s => s
    | s => s
  let d ← Document.empty.readLines? (s.length + 1) s
  pure (settings d.members)

end ForumSearch.Toml
