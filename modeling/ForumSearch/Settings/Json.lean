import ForumSearch.Json.Reader
import ForumSearch.Settings.Layer

/-!
Settings written in JSON: one object. Of members of one name the last counts.
-/

namespace ForumSearch

namespace Json

/-- The largest significand that a number is read with; digits beyond it count as zeros. -/
def maxSignificand : Nat := twoTo 64 - 1

/-- A significand without the digits that are too many. There are at most as many rounds as the
number of digits. -/
def cutSignificand : Nat → Nat → Int → Nat × Int
  | 0, digits, exponent => (digits, exponent)
  | fuel + 1, digits, exponent =>
    if digits ≤ maxSignificand then (digits, exponent)
    else cutSignificand fuel (digits / 10) (exponent + 1)

def powerOfTen (n : Nat) : Float :=
  Binary64.ofDecimal false 1 n

/-- A significand scaled in one step, or in two where the power of ten is too large. -/
def scaled (x : Float) (exponent : Int) : Float :=
  if 0 ≤ exponent then x * powerOfTen exponent.natAbs
  else if -308 ≤ exponent then x / powerOfTen exponent.natAbs
  else if -616 ≤ exponent then x / powerOfTen 308 / powerOfTen (exponent.natAbs - 308)
  else 0.0

/-- The float that a number is read as. It is near to the number, and nearest to it if the number
has few digits. -/
def nearFloat (d : Decimal) : Float :=
  let (digits, exponent) := cutSignificand (Decimal.digitCount d.digits) d.digits d.exponent
  let x := if digits = 0 then 0.0 else scaled digits.toUInt64.toFloat exponent
  if d.negative then -x else x

mutual
def toSetting : Json → Setting
  | .null | .broken => .null
  | .bool b => .bool b
  | .integer n =>
    if Text.isInt64 n then .integer n else .number (nearFloat ⟨n < 0, n.natAbs, 0⟩)
  | .decimal d => .number (nearFloat d)
  | .string s => .text s
  | .array values => .list (toSettings values)
  | .object members => .table (toMembers [] members)

def toSettings : List Json → List Setting
  | [] => []
  | v :: vs => v.toSetting :: toSettings vs

def toMembers (done : List (Text × Setting)) : List (Text × Json) → List (Text × Setting)
  | [] => done
  | (name, v) :: ms => toMembers (Setting.put name v.toSetting done) ms
end

def readSettings (s : Text) : Option Layer := do
  match (← parseSound s).toSetting with
  | .table members => pure members
  | _ => none

end Json

end ForumSearch
