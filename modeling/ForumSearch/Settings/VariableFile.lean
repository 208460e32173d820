import ForumSearch.Settings.Variables
import ForumSearch.Text.Alphanumeric

/-!
Files of variables, one assignment a line. A quoted value can go over several lines, and a dollar
sign puts in the value of a variable that is set, or of one that the file has assigned before.
Reading stops at the first assignment that makes no sense; those before it hold.
-/

namespace ForumSearch.VariableFile

/-! The lines of assignments -/

/-- Where in an assignment a character stands, as far as its end is concerned. -/
inductive Place where
  | plain
  /-- After a single blank, where a comment may begin. -/
  | blank
  | escaped
  | single
  | singleEscaped
  | double
  | doubleEscaped
  deriving DecidableEq

/-- The place after a character. -/
def Place.after (place : Place) (c : Char) : Place :=
  match place with
  | .plain =>
    if Text.isBlank c && c ≠ '\n' && c ≠ '\r' then .blank else opened c
  | .blank => opened c
  | .escaped => .plain
  | .single => if c = '\\' then .singleEscaped else if c = '\'' then .plain else .single
  | .singleEscaped => .single
  | .double => if c = '\\' then .doubleEscaped else if c = '"' then .plain else .double
  | .doubleEscaped => .double
where
  opened (c : Char) : Place :=
    if c = '\\' then .escaped else if c = '"' then .double else if c = '\'' then .single
    else .plain

/-- The place at the end of a line, and the line up to a comment if there is one. -/
def scanLine : Place → Text → Place × Option Text
  | place, [] => (place, none)
  | place, c :: rest =>
    if place = .blank && c = '#' then (.plain, some [])
    else
      let r := scanLine (place.after c) rest
      (r.1, r.2.map (c :: ·))

/-- The lines of a text, each with the line feed at its end. -/
def lines : Text → List Text
  | [] => []
  | c :: rest =>
    if c = '\n' then [c] :: lines rest
    else match lines rest with
      | [] => [[c]]
      | line :: more => (c :: line) :: more

/-- The text without a line end behind it. -/
def chomp (s : Text) : Text :=
  match s.reverse with
  | '\n' :: '\r' :: rest => rest.reverse
  | '\n' :: rest => rest.reverse
  | _ => s

/-- The assignments of some lines, the lines of one joined; none in the place of one whose quotes or
escapes are open at the end. A line that begins with a number sign is blank. -/
def assignments (place : Place) (begun : Text) : List Text → List (Option Text)
  | [] => if place = .plain then [] else [none]
  | line :: rest =>
    if (Text.trimStart (begun ++ line)).head? = some '#' then some [] :: assignments .plain [] rest
    else match scanLine place line with
      | (_, some kept) => some (begun ++ kept) :: assignments .plain [] rest
      | (.plain, none) => some (chomp (begun ++ line)) :: assignments .plain [] rest
      | (place, none) => assignments place (begun ++ line) rest

/-! Values -/

/-- What the values of variables are taken from. -/
structure Context where
  environment : Variables
  /-- The assignments so far, the latest first. -/
  assigned : Variables

namespace Context

/-- The value that stands for a name after a dollar sign, empty if there is none. -/
def valueOf (context : Context) (name : Text) : Text :=
  ((context.environment.lookup name).orElse fun _ => context.assigned.lookup name).getD []

end Context

/-- What a character of a value is part of. A name has its characters in reverse. -/
inductive Part where
  | plain
  | escape
  /-- A name after a dollar sign. -/
  | name (soFar : Text)
  /-- A name in braces. -/
  | braced (soFar : Text)

/-- The quotes around a part. -/
inductive Quotes where
  | none
  | single
  | double
  deriving DecidableEq

def escape? (c : Char) : Option Char :=
  if c = 'n' then some '\n'
  else if ['\\', '\'', '"', '$', ' '].contains c then some c
  else none

/-- Only a comment follows. -/
def isFinished (s : Text) : Bool :=
  match s.dropWhile fun c => c = ' ' || c = '\t' with
  | [] => true
  | c :: _ => c = '#'

/-- A value with its quotes and escapes undone and the values of names put in. After a space outside
of quotes only a comment may follow. -/
def readValue (context : Context) : Part → Quotes → Text → Option Text
  | .braced _, _, [] => none
  | .name soFar, .none, [] => some (context.valueOf soFar.reverse)
  | _, .none, [] => some []
  | _, _, [] => none
  | .escape, q, c :: rest => do
    let e ← escape? c
    (readValue context .plain q rest).map (e :: ·)
  | .name soFar, q, c :: rest =>
    if Text.isAlphanumeric c then readValue context (.name (c :: soFar)) q rest
    else if c = '\x7b' ∧ soFar = [] then readValue context (.braced []) q rest
    else
      let value := context.valueOf soFar.reverse
      if c = '$' then (readValue context (.name []) q rest).map (value ++ ·)
      else (readValue context .plain q rest).map fun s => value ++ c :: s
  | .braced soFar, q, c :: rest =>
    if c = '\x7d' then (readValue context .plain q rest).map (context.valueOf soFar.reverse ++ ·)
    else readValue context (.braced (c :: soFar)) q rest
  | .plain, .single, c :: rest =>
    if c = '\'' then readValue context .plain .none rest
    else (readValue context .plain .single rest).map (c :: ·)
  | .plain, q, c :: rest =>
    if c = '$' then readValue context (.name []) q rest
    else if c = '\\' then readValue context .escape q rest
    else if c = '"' then readValue context .plain (if q = .double then .none else .double) rest
    else if q = .double then (readValue context .plain q rest).map (c :: ·)
    else if c = '\'' then readValue context .plain .single rest
    else if c = ' ' ∨ c = '\t' then if isFinished rest then some [] else none
    else (readValue context .plain q rest).map (c :: ·)

/-! Assignments -/

def isNameStart (c : Char) : Bool :=
  ('a' ≤ c && c ≤ 'z') || ('A' ≤ c && c ≤ 'Z') || c = '_'

def isNameChar (c : Char) : Bool :=
  isNameStart c || Text.isDigit c || c = '.'

/-- A name, and what follows it and the blanks after it. -/
def readName : Text → Option (Text × Text)
  | c :: rest =>
    if isNameStart c then
      some (c :: rest.takeWhile isNameChar, Text.trimStart (rest.dropWhile isNameChar))
    else none
  | [] => none

/-- A name up to its equals sign, perhaps after the word export. -/
def readTarget (s : Text) : Option (Text × Text) := do
  match ← readName s with
  | (name, '=' :: rest) => pure (name, Text.trimStart rest)
  | (name, rest) =>
    if name = "export".toList then
      match ← readName rest with
      | (name, '=' :: rest) => pure (name, Text.trimStart rest)
      | _ => none
    else none

/-- The name and the value of an assignment; a blank line is none. -/
def readAssignment (context : Context) (s : Text) : Option (Option (Text × Text)) :=
  match s.trim with
  | [] => some none
  | '#' :: _ => some none
  | s => do
    match ← readTarget s with
    | (name, []) => pure (some (name, []))
    | (name, '#' :: _) => pure (some (name, []))
    | (name, value) => pure (some (name, ← readValue context .plain .none value))

/-- The variables after some assignments; none if a value has a null character in it, which no
variable can hold. -/
def assign? (context : Context) : List (Option Text) → Option Variables
  | [] => some context.environment
  | none :: _ => some context.environment
  | some s :: rest =>
    match readAssignment context s with
    | none => some context.environment
    | some none => assign? context rest
    | some (some (name, value)) => do
      let environment ← context.environment.define? name value
      assign? ⟨environment, (name, value) :: context.assigned⟩ rest

/-- The variables with those that a file adds to them. A byte order mark in front of the text is
passed over. -/
def extend? (environment : Variables) (s : Text) : Option Variables :=
  assign? ⟨environment, []⟩ (assignments .plain [] (lines s.dropMark))

end ForumSearch.VariableFile
