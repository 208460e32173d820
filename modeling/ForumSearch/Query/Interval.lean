import ForumSearch.Error

/-!
Intervals of counters in bracket notation, such as `[10, 100)`. Brackets and the comma may be
full-width. An interval whose lower end lies above its upper end is refused.
-/

namespace ForumSearch

structure Interval where
  lower : Int
  upper : Int
  lowerIncluded : Bool
  upperIncluded : Bool
  deriving DecidableEq, Repr

namespace Interval

def contains (r : Interval) (n : Int) : Bool :=
  (if r.lowerIncluded then r.lower ≤ n else r.lower < n) &&
    (if r.upperIncluded then n ≤ r.upper else n < r.upper)

/-- The half-width form of a bracket or a comma. -/
def halfWidth (c : Char) : Char :=
  if c = '，' then ','
  else if c = '（' then '('
  else if c = '）' then ')'
  else if c = '【' then '['
  else if c = '】' then ']'
  else c

def opening : Char → Option Bool
  | '[' => some true
  | '(' => some false
  | _ => none

def closing : Char → Option Bool
  | ']' => some true
  | ')' => some false
  | _ => none

/-- Reads the form of an interval, whatever the order of its ends. -/
def read (s : Text) : Option Interval := do
  let inner ← (s.trim.map halfWidth).head?
  let lowerIncluded ← opening inner
  let rest := (s.trim.map halfWidth).tail
  let last ← rest.getLast?
  let upperIncluded ← closing last
  let ends ← Text.splitFirst ',' rest.dropLast
  let lower ← Text.readInt64 ends.1.trim
  let upper ← Text.readInt64 ends.2.trim
  pure ⟨lower, upper, lowerIncluded, upperIncluded⟩

def parse (s : Text) : Except Invalid Interval :=
  match read s with
  | none => .error (.interval s)
  | some r => if r.lower ≤ r.upper then .ok r else .error (.emptyInterval r.lower r.upper)

/-- The interval that stands for no restriction. -/
def everything : Interval := ⟨0, 10000000, true, false⟩

/-- A restriction on a counter; an absent or blank text is none. -/
def parseFilter (input : Option Text) : Except Invalid (Option Interval) :=
  match (input.map Text.trim).filter fun s => !s.isEmpty with
  | none => .ok none
  | some raw => (parse raw).map fun r => if r = everything then none else some r

end Interval

end ForumSearch
