import ForumSearch.Json.Basic
import ForumSearch.Text.Quoted

/-!
Writing JSON, on one line or indented by two spaces a level. Only quotes, backslashes and
control characters are escaped.
-/

namespace ForumSearch.Json

def escapeChar (c : Char) : Text :=
  if c = '"' then ['\\', '"']
  else if c = '\\' then ['\\', '\\']
  else if c = '\x08' then ['\\', 'b']
  else if c = '\x0c' then ['\\', 'f']
  else if c = '\n' then ['\\', 'n']
  else if c = '\r' then ['\\', 'r']
  else if c = '\t' then ['\\', 't']
  else if c.toNat < 32 then
    let digits := Text.hexDigits c.toNat
    ['\\', 'u'] ++ List.replicate (4 - digits.length) '0' ++ digits
  else [c]

def writeString (s : Text) : Text :=
  '"' :: s.flatMap escapeChar ++ ['"']

mutual
def compact : Json → Text
  | .null | .broken => "null".toList
  | .bool true => "true".toList
  | .bool false => "false".toList
  | .integer n => Text.ofInt n
  | .decimal d => d.plainText
  | .string s => writeString s
  | .array values => '[' :: Text.joinWith [','] (compactAll values) ++ [']']
  | .object members => '\x7b' :: Text.joinWith [','] (compactMembers members) ++ ['\x7d']

def compactAll : List Json → List Text
  | [] => []
  | v :: vs => compact v :: compactAll vs

def compactMembers : List (Text × Json) → List Text
  | [] => []
  | (name, v) :: ms => (writeString name ++ ':' :: compact v) :: compactMembers ms
end

def indent (level : Nat) : Text :=
  '\n' :: List.replicate (2 * level) ' '

/-- One item a line, between brackets. -/
def block (level : Nat) (open_ close : Char) : List Text → Text
  | [] => [open_, close]
  | items => open_ :: indent (level + 1) ++ Text.joinWith (',' :: indent (level + 1)) items ++
      indent level ++ [close]

mutual
def pretty (level : Nat) : Json → Text
  | .null | .broken => "null".toList
  | .bool true => "true".toList
  | .bool false => "false".toList
  | .integer n => Text.ofInt n
  | .decimal d => d.plainText
  | .string s => writeString s
  | .array values => block level '[' ']' (prettyAll (level + 1) values)
  | .object members => block level '\x7b' '\x7d' (prettyMembers (level + 1) members)

def prettyAll (level : Nat) : List Json → List Text
  | [] => []
  | v :: vs => pretty level v :: prettyAll level vs

def prettyMembers (level : Nat) : List (Text × Json) → List Text
  | [] => []
  | (name, v) :: ms =>
    (writeString name ++ ':' :: ' ' :: pretty level v) :: prettyMembers level ms
end

end ForumSearch.Json
