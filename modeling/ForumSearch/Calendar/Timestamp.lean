import ForumSearch.Calendar.Instant
import ForumSearch.Number.Power
import ForumSearch.Text.Case
import ForumSearch.Text.Integer

/-!
Timestamps: an instant written as 2024-01-31T12:00:00.5Z, or with an offset from UTC in place
of the Z. Instants are written in UTC, with 3, 6 or 9 digits of a fraction that is not 0.
-/

namespace ForumSearch.Timestamp

/-- The decimal digits of a number, padded with zeros on the left. -/
def padded (width n : Nat) : Text :=
  let digits := Text.ofNat n
  List.replicate (width - digits.length) '0' ++ digits

def yearText (year : Int) : Text :=
  if 0 ≤ year ∧ year ≤ 9999 then padded 4 year.natAbs
  else (if year < 0 then '-' else '+') :: padded 4 year.natAbs

def fractionText (nanos : Nat) : Text :=
  if nanos = 0 then []
  else if nanos % 1000000 = 0 then '.' :: padded 3 (nanos / 1000000)
  else if nanos % 1000 = 0 then '.' :: padded 6 (nanos / 1000)
  else '.' :: padded 9 nanos

def write (t : Instant) : Text :=
  let date := Date.ofDayNumber t.day
  let clock := (t.seconds % Instant.secondsPerDay).toNat
  let second := clock % 60 + t.nanos / 1000000000
  yearText date.year ++ '-' :: padded 2 date.month ++ '-' :: padded 2 date.day ++
    'T' :: padded 2 (clock / 3600) ++ ':' :: padded 2 (clock / 60 % 60) ++
    ':' :: padded 2 second ++ fractionText (t.nanos % 1000000000) ++ ['Z']

/-- At least one and at most width digits, and what follows them. -/
def readDigits (width : Nat) (s : Text) : Option (Nat × Text) :=
  let digits := (s.take width).takeWhile Text.isDigit
  if digits.isEmpty then none
  else some (Text.digitsValue digits, s.drop digits.length)

/-- A year of up to four digits, or a sign and any number of them. -/
def readYear : Text → Option (Int × Text)
  | '-' :: s => (readDigits s.length s).map fun r => (-(r.1 : Int), r.2)
  | '+' :: s => (readDigits s.length s).map fun r => ((r.1 : Int), r.2)
  | s => (readDigits 4 s).map fun r => ((r.1 : Int), r.2)

/-- A number of one or two digits, perhaps after blanks. -/
def readPart (s : Text) : Option (Nat × Text) :=
  readDigits 2 s.trimStart

def expect (allowed : Char → Bool) : Text → Option Text
  | c :: s => if allowed c then some s else none
  | [] => none

def readMark (mark : Char) (s : Text) : Option Text :=
  expect (· = mark) s.trimStart

/-- The nanoseconds of a fraction, if there is one; digits beyond the ninth are dropped. -/
def readFraction : Text → Option (Nat × Text)
  | '.' :: s =>
    let digits := s.takeWhile Text.isDigit
    if digits.isEmpty then none
    else
      let kept := digits.take 9
      some (Text.digitsValue kept * tenTo (9 - kept.length), s.drop digits.length)
  | s => some (0, s)

/-- Two digits of hours and two of minutes; colons and blanks between them are passed over. -/
def readHours : Text → Option (Nat × Text)
  | a :: b :: rest =>
    match rest.dropWhile fun c => c = ':' || Text.isBlank c with
    | d :: e :: rest =>
      if [a, b, d, e].all Text.isDigit ∧ Text.digitsValue [a, b] < 24 ∧
          Text.digitsValue [d, e] < 60 then
        some (Text.digitsValue [a, b] * 3600 + Text.digitsValue [d, e] * 60, rest)
      else none
    | _ => none
  | _ => none

/-- The seconds by which a local clock is ahead of UTC. -/
def readOffset (s : Text) : Option (Int × Text) :=
  if (s.take 3).map Text.asciiLower = ['u', 't', 'c'] then some (0, s.drop 3)
  else match s with
    | c :: s =>
      if c = 'Z' ∨ c = 'z' then some (0, s)
      else if c = '+' then (readHours s).map fun r => ((r.1 : Int), r.2)
      else if c = '-' ∨ c = '−' then (readHours s).map fun r => (-(r.1 : Int), r.2)
      else none
    | [] => none

/-- Reads a timestamp. The second 60 stands for a leap second. -/
def parse (s : Text) : Option Instant := do
  let (year, s) ← readYear s.trimStart
  let s ← readMark '-' s
  let (month, s) ← readPart s
  let s ← readMark '-' s
  let (day, s) ← readPart s
  let s ← expect (fun c => c = 'T' || c = 't' || c = ' ') s
  let (hour, s) ← readPart s
  let s ← readMark ':' s
  let (minute, s) ← readPart s
  let s ← readMark ':' s
  let (second, s) ← readPart s
  let (nanos, s) ← readFraction s
  let (offset, s) ← readOffset s.trimStart
  let date : Date := ⟨year, month, day⟩
  let leap : Nat := if second = 60 then 1 else 0
  let t : Instant := ⟨date.dayNumber * Instant.secondsPerDay + hour * 3600 + minute * 60 +
    (second - leap : Nat) - offset, nanos + leap * 1000000000⟩
  if s.trimStart.isEmpty ∧ date.Exists ∧ Date.minYear ≤ year ∧ year ≤ Date.maxYear ∧
      hour < 24 ∧ minute < 60 ∧ second ≤ 60 ∧
      Date.minDayNumber ≤ t.day ∧ t.day ≤ Date.maxDayNumber then some t else none

end ForumSearch.Timestamp
