import ForumSearch.Error
import ForumSearch.Calendar.Instant
import ForumSearch.Text.Case

/-!
Bounds on times: a calendar date such as 2024-01-31, or an offset from today such as 7d, -2 weeks
or +1年. An unsigned or negative offset reaches back to the start of a day, a positive one
forward to the end of a day.
-/

namespace ForumSearch.TimeBound

/-- Four, one or two, and one or two digits between two dashes. -/
def readDate (raw : Text) : Option Date :=
  match Text.splitAtEach (· = '-') raw with
  | [y, m, d] =>
    if y.length = 4 ∧ 1 ≤ m.length ∧ m.length ≤ 2 ∧ 1 ≤ d.length ∧ d.length ≤ 2 ∧
        y.all Text.isDigit ∧ m.all Text.isDigit ∧ d.all Text.isDigit then
      some ⟨Text.digitsValue y, Text.digitsValue m, Text.digitsValue d⟩
    else none
  | _ => none

/-- The days in one unit of a relative offset, by the lower-case name of the unit. -/
def unitDays (unit : Text) : Option Int :=
  if unit ∈ [['d'], ['d', 'a', 'y'], ['天']] then some 1
  else if unit ∈ [['w'], ['w', 'e', 'e', 'k'], ['周'], ['星', '期']] then some 7
  else if unit ∈ [['y'], ['y', 'e', 'a', 'r'], ['年']] then some 365
  else none

structure Offset where
  future : Bool
  days : Int
  deriving DecidableEq, Repr

def splitSign : Text → Bool × Text
  | '+' :: rest => (true, rest)
  | '-' :: rest => (false, rest)
  | rest => (false, rest)

/-- A sign, blanks, digits, blanks and a unit, all but the digits and the unit optional. -/
def readOffset (raw : Text) : Option Offset := do
  let sign := splitSign raw
  let rest := sign.2.trimStart
  let amount ← Text.readInt64 (rest.takeWhile Text.isDigit)
  let days ← unitDays ((Text.trim (rest.dropWhile Text.isDigit)).lowercase)
  pure ⟨sign.1, amount * days⟩

/-- The bound at an offset from today, if it is a day of the calendar. -/
def Offset.resolve (offset : Offset) (now : Instant) : Option Instant :=
  let day := if offset.future then now.day + offset.days else now.dayBefore offset.days
  if Date.minDayNumber ≤ day ∧ day ≤ Date.maxDayNumber then
    some (if offset.future then Instant.endOfDay day else Instant.midnight day)
  else none

def parse (input : Option Text) (now : Instant) : Except Invalid (Option Instant) :=
  match (input.map Text.trim).filter fun s => !s.isEmpty with
  | none => .ok none
  | some raw =>
    match readDate raw with
    | some date =>
      if date.Exists then .ok (some (Instant.midnight date.dayNumber)) else .error (.date raw)
    | none =>
      match (readOffset raw).bind fun offset => offset.resolve now with
      | some bound => .ok (some bound)
      | none => .error (.time raw)

end ForumSearch.TimeBound
