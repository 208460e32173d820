import ForumSearch.Settings.Path

/-!
The parts of a TOML text: spaces, ends of lines and comments, and strings in their four forms.
Strings in single quotes are taken as they stand, strings in double quotes have escapes, and three
quotes instead of one let a string go over several lines.
-/

namespace ForumSearch.Toml

open ForumSearch.Path (skipSpace)

/-- A control character other than the tab. -/
def isControl (c : Char) : Bool :=
  (c.toNat < 32 && c ≠ '\t') || c.toNat = 127

/-- What follows the end of a line. -/
def newline? : Text → Option Text
  | '\n' :: rest => some rest
  | '\r' :: '\n' :: rest => some rest
  | _ => none

/-- The end of the line at which a comment ends. -/
def skipComment : Text → Option Text
  | [] => some []
  | c :: rest =>
    if (newline? (c :: rest)).isSome then some (c :: rest)
    else if isControl c then none
    else skipComment rest

/-- The end of the line, when nothing but a comment comes before it. -/
def skipRest (s : Text) : Option Text :=
  match skipSpace s with
  | '#' :: comment => skipComment comment
  | rest => some rest

/-- The next line, when nothing but a comment comes before it. -/
def nextLine (s : Text) : Option Text := do
  match ← skipRest s with
  | [] => pure []
  | rest => newline? rest

/-- Spaces and ends of lines in front of a text are dropped. -/
def skipBlank : Text → Text
  | '\r' :: '\n' :: rest => skipBlank rest
  | c :: rest => if c = ' ' || c = '\t' || c = '\n' then skipBlank rest else c :: rest
  | [] => []

/-- Spaces, ends of lines and comments in front of a text are dropped. The text may begin inside of
a comment. -/
def skipTrivia (inComment : Bool) : Text → Option Text
  | [] => some []
  | '\n' :: rest => skipTrivia false rest
  | '\r' :: '\n' :: rest => skipTrivia false rest
  | c :: rest =>
    if inComment then
      if isControl c then none else skipTrivia true rest
    else if c = '#' then skipTrivia true rest
    else if c = ' ' || c = '\t' then skipTrivia false rest
    else some (c :: rest)

def simpleEscape : Char → Option Char
  | 'b' => some '\x08'
  | 't' => some '\t'
  | 'n' => some '\n'
  | 'f' => some '\x0c'
  | 'r' => some '\r'
  | 'e' => some '\x1b'
  | '"' => some '"'
  | '\\' => some '\\'
  | _ => none

/-- The character of an escape after its backslash, and what follows it. -/
def readEscape : Text → Option (Char × Text)
  | [] => none
  | c :: rest =>
    let width := if c = 'x' then 2 else if c = 'u' then 4 else if c = 'U' then 8 else 0
    if width = 0 then (simpleEscape c).map (·, rest)
    else if (rest.take width).length = width then
      (Text.charOfHex? (rest.take width)).map (·, rest.drop width)
    else none

/-- A string up to its closing double quote, and what follows it. Each round takes at least one
character, here and below. -/
def readBasic : Nat → Text → Option (Text × Text)
  | 0, _ => none
  | _, [] => none
  | _, '"' :: rest => some ([], rest)
  | fuel + 1, '\\' :: rest => do
    let (c, rest) ← readEscape rest
    let (s, rest) ← readBasic fuel rest
    pure (c :: s, rest)
  | fuel + 1, c :: rest =>
    if isControl c then none else (readBasic fuel rest).map fun r => (c :: r.1, r.2)

/-- A string up to its closing single quote; nothing in it is escaped. -/
def readLiteral (s : Text) : Option (Text × Text) := do
  let (body, rest) ← Text.splitFirst '\'' s
  if body.any isControl then none else some (body, rest)

/-- Three quotes, and up to two more in front of them that belong to the string. -/
def closing? (quote : Char) (s : Text) : Option (Text × Text) :=
  let quotes := (s.take 5).takeWhile (· = quote)
  if quotes.length < 3 then none
  else some (List.replicate (quotes.length - 3) quote, s.drop quotes.length)

/-- What a backslash at the end of a line joins to the line. -/
def joined? (s : Text) : Option Text :=
  (newline? (skipSpace s)).map skipBlank

/-- A string over several lines, up to its three closing quotes. -/
def readLines (quote : Char) : Nat → Text → Option (Text × Text)
  | 0, _ => none
  | _, [] => none
  | fuel + 1, c :: rest =>
    match closing? quote (c :: rest) with
    | some r => some r
    | none =>
      if c = '\\' && quote = '"' then
        match joined? rest with
        | some rest => readLines quote fuel rest
        | none => do
          let (x, rest) ← readEscape rest
          let (s, rest) ← readLines quote fuel rest
          pure (x :: s, rest)
      else if isControl c && (newline? (c :: rest)).isNone then none
      else match c, rest with
        | '\r', '\n' :: rest => (readLines quote fuel rest).map fun r => ('\r' :: '\n' :: r.1, r.2)
        | _, _ => (readLines quote fuel rest).map fun r => (c :: r.1, r.2)

/-- A string on one line. -/
def readShort? (s : Text) : Option (Text × Text) :=
  match s with
  | '"' :: rest => readBasic (rest.length + 1) rest
  | '\'' :: rest => readLiteral rest
  | _ => none

/-- A string. An end of line right after three opening quotes does not count. -/
def readString? (s : Text) : Option (Text × Text) :=
  let lines (quote : Char) (rest : Text) :=
    let rest := (newline? rest).getD rest
    readLines quote (rest.length + 1) rest
  match s with
  | '"' :: '"' :: '"' :: rest => lines '"' rest
  | '\'' :: '\'' :: '\'' :: rest => lines '\'' rest
  | s => readShort? s

def readKey? (s : Text) : Option (Text × Text) :=
  (readShort? s).orElse fun _ => Path.readKey s

/-- How many lists and tables a value has inside each other at most, and keys a path. -/
def maxDepth : Nat := 80

/-- At most some number of keys with points between them, and what follows them and the spaces
after them. -/
def readPath? : Nat → Text → Option (List Text × Text)
  | 0, _ => none
  | fuel + 1, s => do
    let (key, rest) ← readKey? (skipSpace s)
    match skipSpace rest with
    | '.' :: rest => (readPath? fuel rest).map fun r => (key :: r.1, r.2)
    | rest => pure ([key], rest)

end ForumSearch.Toml
