import ForumSearch.Command.Run

/-!
A folder of text files and databases, in which the program can be run again and again. Paths are
lists of names; a folder below this one is there if a file is in it.
-/

namespace ForumSearch

structure Folder where
  files : Table Text Text
  databases : Table Text Store

namespace Folder

def nameOf (path : List Text) : Text :=
  Text.joinWith ['/'] path

def isFolder (f : Folder) (path : List Text) : Bool :=
  path.isEmpty || f.files.rows.any fun row => (nameOf path ++ ['/']).isPrefixOf row.1

/-- A name that leads from a folder to something in it. -/
def isName (name : Text) : Bool :=
  !([[], ['.'], ['.', '.']].contains name)

/-- A path without the names that stay in a folder or go back from one. No path leaves this
folder. -/
def normal? (names : List Text) : Option (List Text) :=
  names.foldlM (fun path name =>
    if name.isEmpty ∨ name = ['.'] then some path
    else if name = ['.', '.'] then if path.isEmpty then none else some path.dropLast
    else some (path ++ [name])) []

/-- The path at the end of some names, each of which but the last must lead to a folder. -/
def walk? (f : Folder) (names : List Text) : Option (List Text) := do
  let path ← normal? names
  let steps := (List.range names.length).map fun n => normal? (names.take n)
  if steps.all fun step => step.any f.isFolder then some path else none

def text? (f : Folder) (name : Text) : Option Text := do
  let names := Text.splitAtEach (· = '/') name
  if name.head? = some '/' ∨ names.getLast?.any (!isName ·) then none
  else f.files.get? (nameOf (← f.walk? names))

/-- What is at the path of a database. A path goes back from a folder whether or not it is there,
but not through a file. -/
def database (f : Folder) (name : Text) : DatabaseFile :=
  let names := Text.splitAtEach (· = '/') name
  let throughFile := (List.range names.length).any fun n =>
    (normal? (names.take n)).any (isFile f) && (names.drop n).head?.any isName
  match normal? names with
  | some path =>
    if name.head? = some '/' ∨ throughFile ∨ f.isFolder path ∨ !f.isFolder path.dropLast then
      .unusable
    else match f.databases.get? (nameOf path), f.files.get? (nameOf path) with
      | some store, _ => .store store
      | none, some text => if text.isEmpty then .blank else .unusable
      | none, none => .absent
  | none => .unusable
where
  isFile (f : Folder) (path : List Text) : Bool :=
    (f.files.get? (nameOf path)).isSome || (f.databases.get? (nameOf path)).isSome

/-- Keeps a store at the path of a database. -/
def keep (f : Folder) (name : Text) (store : Store) : Folder :=
  match normal? (Text.splitAtEach (· = '/') name) with
  | some path => { f with databases := f.databases.insert (nameOf path) store }
  | none => f

/-- A run in a folder, with given variables, input and time. -/
def host (environment : Variables) (input : Text) (now : Instant) : Host (StateM Folder) where
  file? name := do
    let f ← get
    return if name = "/dev/stdin".toList then some input else f.text? name
  input := return input
  environment := return environment
  now := return now
  database name := return (← get).database name
  keep name store := modify fun f => f.keep name store

end Folder

end ForumSearch
