import ForumSearch.Settings.Layer

/-!
The nodes of a YAML document, and the settings that they stand for. What a plain scalar denotes
shows in its form, or its tag says it.
-/

namespace ForumSearch.Yaml

inductive Node where
  /-- A scalar that is not what its tag says. -/
  | bad
  | null
  | bool (value : Bool)
  | integer (value : Int)
  | number (text : Text)
  | text (value : Text)
  | list (items : List Node)
  | table (members : List (Node × Node))
  deriving BEq, Inhabited

namespace Node

/-! Scalars -/

def isInfinity (s : Text) : Bool :=
  [".inf", ".Inf", ".INF", "+.inf", "+.Inf", "+.INF", "-.inf", "-.Inf", "-.INF"].contains
    (String.ofList s)

def isNotANumber (s : Text) : Bool :=
  [".nan", ".NaN", ".NAN"].contains (String.ofList s)

/-- The form of a number that is no integer. A name without a digit is none. -/
def isNumber (s : Text) : Bool :=
  isInfinity s || isNotANumber s || (s.any Text.isDigit && (Numeral.readFloat s).isSome)

/-- A 64-bit integer in a base, perhaps with a sign. -/
def readBase? (base : Nat) (s : Text) : Option Int := do
  let (negative, digits) := Numeral.splitSign s
  let magnitude : Int := (← Text.readBase base digits : Nat)
  let n := if negative then -magnitude else magnitude
  if Text.isInt64 n then pure n else none

def readMarked? : Text → Option Int
  | '0' :: 'x' :: digits => readBase? 16 digits
  | '0' :: 'o' :: digits => readBase? 8 digits
  | '+' :: rest => Text.readInt64 rest
  | _ => none

def ofPlain (s : Text) : Node :=
  match readMarked? s with
  | some n => .integer n
  | none =>
    match String.ofList s with
    | "" | "~" | "null" => .null
    | "true" | "True" | "TRUE" => .bool true
    | "false" | "False" | "FALSE" => .bool false
    | _ =>
      match Text.readInt64 s with
      | some n => .integer n
      | none => if isNumber s then .number s else .text s

structure Tag where
  beginning : Text
  name : Text

namespace Tag

/-- The beginning of the tags that say what kind of scalar one is. -/
def standard : Text := "tag:yaml.org,2002:".toList

def ofPlain (tag : Tag) (s : Text) : Node :=
  if tag.beginning = standard then
    match String.ofList tag.name with
    | "bool" =>
      if s = "true".toList then .bool true
      else if s = "false".toList then .bool false
      else .bad
    | "int" => ((Text.readInt64 s).map .integer).getD .bad
    | "float" => if isNumber s then .number s else .bad
    | "null" => if s = ['~'] ∨ s = "null".toList then .null else .bad
    | _ => .text s
  else .text s

end Tag

def ofScalar (tag : Option Tag) (plain : Bool) (s : Text) : Node :=
  if !plain then .text s
  else match tag with
    | some tag => tag.ofPlain s
    | none => ofPlain s

/-! Tables -/

/-- The table of keys and values in turn; none if a key occurs twice. What cannot be a key is passed
over, and so is a key without a value. -/
def tableOf? : List (Node × Node) → List Node → Option Node
  | members, .bad :: nodes => tableOf? members nodes
  | members, key :: value :: nodes =>
    if members.any (·.1 == key) then none else tableOf? (members ++ [(key, value)]) nodes
  | members, _ => some (.table members)

def keyText? : Node → Option Text
  | .text s => some s
  | .number s => some s
  | .integer n => some (Text.ofInt n)
  | .bool b => some (if b then "true" else "false").toList
  | .bad | .null | .list _ | .table _ => none

mutual
/-- The setting that a node stands for. The names of infinity and of what is no number stand for
none. -/
def toSetting? : Node → Option Setting
  | .bad | .null => some .null
  | .bool b => some (.bool b)
  | .integer n => some (.integer n)
  | .number s => (Numeral.readFloat s).map .number
  | .text s => some (.text s)
  | .list items => (toSettings? items).map .list
  | .table members => (toMembers? [] members).map .table

def toSettings? : List Node → Option (List Setting)
  | [] => some []
  | n :: ns => do pure ((← n.toSetting?) :: (← toSettings? ns))

def toMembers? (done : List (Text × Setting)) :
    List (Node × Node) → Option (List (Text × Setting))
  | [] => some done
  | (key, value) :: members => do
    let key ← key.keyText?
    toMembers? (Setting.put key (← value.toSetting?) done) members
end

end Node

end ForumSearch.Yaml
