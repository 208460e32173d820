import ForumSearch.Number.Numeral

/-!
Settings as trees of values, what a value is taken for where a text or a number is asked for, and
how one tree is laid over another: tables merge, anything else takes the place of what was there.
-/

namespace ForumSearch

inductive Setting where
  | null
  | bool (value : Bool)
  | integer (value : Int)
  | number (value : Float)
  | text (value : Text)
  | list (items : List Setting)
  | table (members : List (Text × Setting))
  deriving Inhabited

namespace Setting

/-- Puts a member in the place of the one of its name, or at the end. -/
def put {α : Type} (key : Text) (value : α) : List (Text × α) → List (Text × α)
  | [] => [(key, value)]
  | member :: members =>
    if member.1 = key then (key, value) :: members else member :: put key value members

/-- The members of a table; nothing else has any. -/
def membersOf : Option Setting → List (Text × Setting)
  | some (.table members) => members
  | _ => []

def itemsOf : Option Setting → List Setting
  | some (.list items) => items
  | _ => []

mutual
/-- What is found at a place after a setting is laid over what was there. -/
def override (base : Option Setting) : Setting → Setting
  | .table members => .table (overrideAll (membersOf base) members)
  | .null => .null
  | .bool b => .bool b
  | .integer n => .integer n
  | .number x => .number x
  | .text s => .text s
  | .list items => .list items

def overrideAll (base : List (Text × Setting)) : List (Text × Setting) → List (Text × Setting)
  | [] => base
  | (key, value) :: rest => overrideAll (put key (override (base.lookup key) value) base) rest
end

/-- The truth value that a word stands for, in any case. -/
def truth? (s : Text) : Option Bool :=
  let word := String.ofList s.lowercase
  if ["true", "on", "yes"].contains word then some true
  else if ["false", "off", "no"].contains word then some false
  else none

/-- A number, also from a truth value or from a text that denotes one. -/
def toFloat? : Setting → Option Float
  | .number x => some x
  | .integer n => some (Binary64.ofDecimal (n < 0) n.natAbs 0)
  | .bool b => some (if b then 1.0 else 0.0)
  | .text s =>
    match truth? s with
    | some b => some (if b then 1.0 else 0.0)
    | none => Numeral.readFloat s
  | .null | .list _ | .table _ => none

/-- A 64-bit integer; numbers that are no integers are rounded to it, halves away from zero. -/
def toInt? : Setting → Option Int
  | .integer n => if Text.isInt64 n then some n else none
  | .number x => some (Binary64.ofFloat x).toInt64
  | .bool b => some (if b then 1 else 0)
  | .text s =>
    match truth? s with
    | some b => some (if b then 1 else 0)
    | none => Text.readInt64 s
  | .null | .list _ | .table _ => none

def toText? : Setting → Option Text
  | .text s => some s
  | .integer n => some (Text.ofInt n)
  | .number x => some (Numeral.floatText x)
  | .bool b => some (if b then "true" else "false").toList
  | .null | .list _ | .table _ => none

end Setting

end ForumSearch
