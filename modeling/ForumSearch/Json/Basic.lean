import ForumSearch.Number.Decimal

/-!
JSON values. Objects keep their members in order, repeated names included, and numbers keep
whether they were written as integers.
-/

namespace ForumSearch

inductive Json where
  | null
  | bool (value : Bool)
  | integer (value : Int)
  | decimal (value : Decimal)
  | string (value : Text)
  | array (values : List Json)
  | object (members : List (Text × Json))
  /-- A string with half of a surrogate pair in it, or an object with a member of such a name. It
  can be passed over but has no content. -/
  | broken
  deriving Inhabited

namespace Json

def ofString (s : String) : Json :=
  .string s.toList

def get? (name : String) : Json → Option Json
  | .object members => (members.reverse.find? fun m => m.1 = name.toList).map (·.2)
  | _ => none

/-- A number as JSON, null if it is not finite. -/
def ofFloat (x : Float) : Json :=
  match Binary64.ofFloat x with
  | .finite d => .decimal (Decimal.shortest d)
  | _ => .null

/-- A number is small enough for binary floating point. -/
def isBounded (negative : Bool) (digits : Nat) (exponent : Int) : Bool :=
  !(Binary64.ofDecimal negative digits exponent).isInf

mutual
/-- Everything in a value has content, and its arrays and objects are at most depth deep. -/
def isSound (depth : Nat) : Json → Bool
  | .integer n => isBounded (n < 0) n.natAbs 0
  | .decimal d => isBounded d.negative d.digits d.exponent
  | .array values => 0 < depth && allSound (depth - 1) values
  | .object members => 0 < depth && allSoundMembers (depth - 1) members
  | .broken => false
  | _ => true

def allSound (depth : Nat) : List Json → Bool
  | [] => true
  | v :: vs => isSound depth v && allSound depth vs

def allSoundMembers (depth : Nat) : List (Text × Json) → Bool
  | [] => true
  | (_, v) :: ms => isSound depth v && allSoundMembers depth ms
end

/-- The depth of arrays and objects that a text may have where it is read as a whole. -/
def maxDepth : Nat := 127

end Json

end ForumSearch
