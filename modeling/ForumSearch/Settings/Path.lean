import ForumSearch.Settings.Setting

/-!
Paths into a tree of settings. A key such as ranking.weights[0] names a path through tables and
lists; what a path needs and does not find is made.
-/

namespace ForumSearch

inductive Step where
  | key (name : Text)
  | index (position : Int)
  deriving DecidableEq, Repr

abbrev Path := List Step

namespace Path

def isKeyChar (c : Char) : Bool :=
  Text.isDigit c || ('a' ≤ c && c ≤ 'z') || ('A' ≤ c && c ≤ 'Z') || c = '_' || c = '-'

def readKey (s : Text) : Option (Text × Text) :=
  let key := s.takeWhile isKeyChar
  if key.isEmpty then none else some (key, s.drop key.length)

def skipSpace (s : Text) : Text :=
  s.dropWhile fun c => c = ' ' || c = '\t'

/-- A position with spaces around it, up to its closing bracket. -/
def readIndex (s : Text) : Option (Int × Text) := do
  let (sign, rest) := match skipSpace s with
    | '-' :: rest => (['-'], rest)
    | rest => ([], rest)
  let digits := rest.takeWhile Text.isDigit
  let position ← Text.readInt64 (sign ++ digits)
  match skipSpace (rest.drop digits.length) with
  | ']' :: rest => pure (position, rest)
  | _ => none

/-- The steps of a path after its first key. Each takes at least one character, so the length of
the text is enough fuel. -/
def readSteps : Nat → Text → Option Path
  | _, [] => some []
  | 0, _ => none
  | fuel + 1, '.' :: s => do
    let (name, rest) ← readKey s
    (readSteps fuel rest).map (.key name :: ·)
  | fuel + 1, '[' :: s => do
    let (position, rest) ← readIndex s
    (readSteps fuel rest).map (.index position :: ·)
  | _, _ => none

/-- The path that a key names; one that names none is taken as it is. -/
def ofKey (key : Text) : Path :=
  let read := do
    let (name, rest) ← readKey key
    (readSteps rest.length rest).map (Step.key name :: ·)
  read.getD [.key key]

/-- A list in which a position exists, and the position counted from the front. -/
def grown (items : List Setting) (position : Int) : List Setting × Nat :=
  let size := items.length
  if 0 ≤ position then
    (items ++ List.replicate (position.toNat + 1 - size) .null, position.toNat)
  else if position.natAbs ≤ size then (items, size - position.natAbs)
  else (List.replicate (position.natAbs - size) .null ++ items, 0)

end Path

namespace Setting

/-- What is found at a place after a setting is laid over what is at the end of a path from it. -/
def place (value : Setting) : Path → Option Setting → Setting
  | [], base => override base value
  | .key name :: path, base =>
    .table (put name (place value path ((membersOf base).lookup name)) (membersOf base))
  | .index position :: path, base =>
    let (items, n) := Path.grown (itemsOf base) position
    .list (items.set n (place value path items[n]?))

end Setting

end ForumSearch
