import ForumSearch.Command.Database
import ForumSearch.Text.Case

/-!
Addresses of databases, such as sqlite:forum.db?mode=ro. After the scheme come a path and
parameters. A path can itself be an address of a file, file:forum.db, with parameters of its own.
A database in memory is of use if all connections to it share it, or if there is only one.
-/

namespace ForumSearch

structure Address where
  path : Text
  memory : Bool
  access : Access
  /-- Connections keep what they have in common in one place. -/
  shared : Bool
  /-- The file is taken not to change, and is not written to. -/
  immutable : Bool
  /-- The kind of files that the database is kept in, if it is given. -/
  system : Option Text

namespace Address

/-- The kinds of files that can hold a database. -/
def fileSystems : List String := ["unix", "unix-none", "unix-dotfile", "unix-excl"]

/-- The kind of files that are kept in memory. -/
def memorySystem : Text := "memdb".toList

/-- Names and values of parameters. Empty parameters are passed over. -/
def parameters (s : Text) : List (Text × Text) :=
  ((Text.splitAtEach (· = '&') s).filter fun p => !p.isEmpty).map fun p =>
    let (name, value) := (Text.splitFirst '=' p).getD (p, [])
    (decoded name, decoded value)
where
  /-- A text that cannot be decoded has no meaning for any parameter. -/
  decoded (s : Text) : Text :=
    (Text.percentDecode? (s.map fun c => if c = '+' then ' ' else c)).getD ['\uFFFD']

/-- Takes one parameter into account; none if it is unknown or its value is. -/
def assign? (a : Address) (parameter : Text × Text) : Option Address :=
  match String.ofList parameter.1, String.ofList parameter.2 with
  | "mode", "ro" => some { a with access := .read }
  | "mode", "rw" => some a
  | "mode", "rwc" => some a
  | "mode", "memory" => some { a with memory := true, shared := true }
  | "cache", "private" => some { a with shared := false }
  | "cache", "shared" => some { a with shared := true }
  | "immutable", "true" => some { a with immutable := true }
  | "immutable", "1" => some { a with immutable := true }
  | "immutable", "false" => some { a with immutable := false }
  | "immutable", "0" => some { a with immutable := false }
  | "vfs", _ => some { a with system := some parameter.2 }
  | _, _ => none

def memoryName : Text := ":memory:".toList

/-- Reads an address. The name of memory is not decoded. -/
def parse? (s : Text) : Option Address := do
  let place := Text.dropAll "sqlite:".toList (Text.dropAll "sqlite://".toList s)
  let (name, rest) := (Text.splitFirst '?' place).getD (place, [])
  let memory := name = memoryName
  let path ← if memory then some name else Text.percentDecode? name
  (parameters rest).foldlM assign? ⟨path, memory, .create, memory, false, none⟩

/-! Addresses of files -/

def upToNull (s : Text) : Text :=
  s.takeWhile (· ≠ '\x00')

/-- A path without an authority, which can only be the machine itself. -/
def localPath? : Text → Option Text
  | '/' :: '/' :: rest =>
    let authority := rest.takeWhile (· ≠ '/')
    if authority.isEmpty ∨ authority = "localhost".toList then some (rest.drop authority.length)
    else none
  | path => some path

def isTrue (s : Text) : Bool :=
  ["yes", "true", "on"].contains (String.ofList s.lowercase) ||
    (Text.readInt (s.takeWhile Text.isDigit)).any (· ≠ 0)

/-- Takes one parameter of a file into account. Unknown ones are passed over. -/
def assignFile? (a : Address) (parameter : Text × Text) : Option Address :=
  let (name, value) := (upToNull parameter.1, upToNull parameter.2)
  if name = "vfs".toList then some { a with system := some value }
  else if name = "immutable".toList then some { a with immutable := isTrue value }
  else match String.ofList name, String.ofList value with
    | "cache", "shared" => some { a with shared := true }
    | "cache", "private" => some { a with shared := false }
    | "cache", _ => none
    | "mode", "memory" => some { a with memory := true, access := .create }
    | "mode", "ro" => some { a with memory := false, access := .read }
    | "mode", "rw" =>
      if a.access = .read ∧ !a.memory then none
      else some { a with memory := false, access := .update }
    | "mode", "rwc" =>
      if a.access ≠ .create ∧ !a.memory then none
      else some { a with memory := false, access := .create }
    | "mode", _ => none
    | _, _ => some a

/-- The parameters of a file, in which a plus sign stands for itself. -/
def fileParameters (s : Text) : List (Text × Text) :=
  ((Text.splitAtEach (· = '&') s).map fun p =>
    let (name, value) := (Text.splitFirst '=' p).getD (p, [])
    ((Text.percentDecode? name).getD [], (Text.percentDecode? value).getD [])).filter
      fun p => !p.1.isEmpty

/-- Follows a path that is an address of a file. -/
def followFile? (a : Address) : Option Address :=
  match a.path with
  | 'f' :: 'i' :: 'l' :: 'e' :: ':' :: rest => do
    let rest := rest.takeWhile (· ≠ '#')
    let (path, given) := (Text.splitFirst '?' rest).getD (rest, [])
    let path ← Text.percentDecode? (← localPath? path)
    (fileParameters given).foldlM assignFile? { a with path := upToNull path }
  | _ => some { a with shared := false }

/-- The path is taken as it stands. -/
def isLiteral (a : Address) : Bool :=
  a.immutable || a.system.isSome

def inMemory (a : Address) : Bool :=
  a.memory || a.path.isEmpty || a.path = memoryName

/-- Files that are kept in memory are shared by all connections if their path begins at the root. -/
def isRooted (path : Text) : Bool :=
  match path with
  | c :: _ :: _ => c = '/' || c = '\\'
  | _ => false

def isShared (a : Address) : Bool :=
  (a.shared && !a.path.isEmpty) || (!a.inMemory && isRooted a.path)

/-- The database at an address that has been followed. One without a path is kept in memory, and
memory can neither be read only nor, in files of its own, be immutable. -/
def open? (a : Address) (single : Bool) : Option Database :=
  let system := a.system.getD "unix".toList
  let memory := if single || a.isShared then some Database.memory else none
  if system = memorySystem then
    if a.access = .read ∨ (a.immutable ∧ !a.inMemory) then none else memory
  else if !fileSystems.contains (String.ofList system) then none
  else if a.inMemory then if a.access = .read then none else memory
  else some (.file a.path (if a.immutable then .read else a.access))

/-- The database at an address, which has one connection or several. -/
def toDatabase? (a : Address) (single : Bool) : Option Database :=
  if a.path.contains '\x00' then none
  else do
    let a ← if a.isLiteral then some a else a.followFile?
    a.open? single

end Address

/-- The database that an address names. An address with the name of memory anywhere in it has only
one connection. -/
def Database.ofAddress? (s : Text) : Option Database := do
  (← Address.parse? s).toDatabase? (Text.hasInfix Address.memoryName s)

end ForumSearch
