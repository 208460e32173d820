import ForumSearch.Settings.Layer

/-!
Settings in environment variables. A variable counts if its name begins with the program's name;
two underscores go a table deeper, and the case of names is ignored.
-/

namespace ForumSearch

/-- Environment variables, the first of a name in force. -/
abbrev Variables := List (Text × Text)

namespace Variables

def namePrefix : Text := "thread_finder__".toList

/-- Points in the place of double underscores. -/
def pointed : Text → Text
  | '_' :: '_' :: rest => '.' :: pointed rest
  | c :: rest => c :: pointed rest
  | [] => []

/-- The key that a variable sets. -/
def key? (name : Text) : Option Text :=
  let name := name.lowercase
  if namePrefix.isPrefixOf name then some (pointed (name.drop namePrefix.length)) else none

/-- The simplest kind of value that a text denotes: a truth value, an integer, a number, or
itself. -/
def valueOf (s : Text) : Setting :=
  let word := String.ofList s.lowercase
  if word = "true" then .bool true
  else if word = "false" then .bool false
  else match Text.readInt64 s with
    | some n => .integer n
    | none =>
      match Numeral.readFloat s with
      | some x => .number x
      | none => .text s

def layer (environment : Variables) : Layer :=
  environment.filterMap fun v => (key? v.1).map fun key => (key, valueOf v.2)

/-- Sets a variable; one that is set already keeps its value. -/
def define? (environment : Variables) (name value : Text) : Option Variables :=
  if (environment.lookup name).isSome then some environment
  else if value.contains '\x00' then none
  else some (environment ++ [(name, value)])

end Variables

end ForumSearch
