import ForumSearch.Json.Basic

/-!
Records read from JSON: an object with a known list of fields, or an array of their values in
order. Unknown members are ignored; a field given twice is refused.
-/

namespace ForumSearch.Json

/-- The fields found in a record. In an array no field may be left out unless it has a default. -/
structure Record where
  fields : List (Text × Json)
  positional : Bool

namespace Record

def hasRepeat : List Text → Bool
  | [] => false
  | n :: ns => ns.contains n || hasRepeat ns

def read? (names : List String) : Json → Option Record
  | .object members =>
    let known := members.filter fun m => (names.map String.toList).contains m.1
    if hasRepeat (known.map (·.1)) then none else some ⟨known, false⟩
  | .array values =>
    if names.length < values.length then none
    else some ⟨(names.map String.toList).zip values, true⟩
  | _ => none

def get? (r : Record) (name : String) : Option Json :=
  r.fields.lookup name.toList

def required {α : Type} (r : Record) (name : String) (read : Json → Option α) : Option α :=
  (r.get? name).bind read

/-- A field that may be left out or null. -/
def optional {α : Type} (r : Record) (name : String) (read : Json → Option α) :
    Option (Option α) :=
  match r.get? name with
  | none => if r.positional then none else some none
  | some .null => some none
  | some v => (read v).map some

/-- A field that may be left out but not null. -/
def withDefault {α : Type} (r : Record) (name : String) (default : α) (read : Json → Option α) :
    Option α :=
  match r.get? name with
  | none => some default
  | some v => read v

/-- A field that may be left out or null, also in an array. -/
def nullable {α : Type} (r : Record) (name : String) (read : Json → Option α) :
    Option (Option α) :=
  match r.get? name with
  | none => some none
  | some .null => some none
  | some v => (read v).map some

end Record

def text? : Json → Option Text
  | .string s => some s
  | _ => none

def int64? : Json → Option Int
  | .integer n => if Text.isInt64 n then some n else none
  | _ => none

def bool? : Json → Option Bool
  | .bool b => some b
  | _ => none

def list? {α : Type} (read : Json → Option α) : Json → Option (List α)
  | .array values => values.mapM read
  | _ => none

/-- One of several names, alone or as the only member of an object whose value is null. -/
def choice? {α : Type} (names : List (String × α)) : Json → Option α
  | .string s => names.lookup (String.ofList s)
  | .object [(s, .null)] => names.lookup (String.ofList s)
  | _ => none

end ForumSearch.Json
