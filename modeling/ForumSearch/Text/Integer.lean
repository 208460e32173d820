import ForumSearch.Text.Basic

/-!
Decimal integers. Writing gives the shortest form; reading takes an optional sign and any
number of digits. The 64-bit range bounds what identifiers and counters can hold.
-/

namespace ForumSearch.Text

def digitChar (d : Nat) : Char :=
  Char.ofNat (48 + d)

def digitValue (c : Char) : Nat :=
  c.toNat - 48

def ofNat (n : Nat) : Text :=
  if n < 10 then [digitChar n] else ofNat (n / 10) ++ [digitChar (n % 10)]
termination_by n
decreasing_by omega

def ofInt (n : Int) : Text :=
  if n < 0 then '-' :: ofNat n.natAbs else ofNat n.natAbs

def digitsValue (s : Text) : Nat :=
  s.foldl (fun n c => 10 * n + digitValue c) 0

def readNat (s : Text) : Option Nat :=
  if !s.isEmpty && s.all isDigit then some (digitsValue s) else none

def readInt : Text → Option Int
  | '-' :: s => (readNat s).map fun n => -(n : Int)
  | '+' :: s => (readNat s).map fun n => (n : Int)
  | s => (readNat s).map fun n => (n : Int)

def hexDigitChar (d : Nat) : Char :=
  Char.ofNat (if d < 10 then 48 + d else 87 + d)

def hexValue (c : Char) : Option Nat :=
  if '0' ≤ c ∧ c ≤ '9' then some (c.toNat - 48)
  else if 'a' ≤ c ∧ c ≤ 'f' then some (c.toNat - 87)
  else if 'A' ≤ c ∧ c ≤ 'F' then some (c.toNat - 55)
  else none

/-- The value of a run of digits in a base up to sixteen. -/
def readBase (base : Nat) (s : Text) : Option Nat := do
  let values ← s.mapM hexValue
  if s.isEmpty ∨ !values.all (· < base) then none
  else pure (values.foldl (fun n v => base * n + v) 0)

/-- The character whose number some hexadecimal digits are. -/
def charOfHex? (digits : Text) : Option Char := do
  let n ← readBase 16 digits
  if n.isValidChar then pure (Char.ofNat n) else none

/-- The number that a given count of hexadecimal digits at the head of a text denotes, and what
follows them. -/
def takeHex? (count : Nat) (s : Text) : Option (Nat × Text) := do
  let n ← readBase 16 (s.take count)
  if (s.take count).length = count then pure (n, s.drop count) else none

/-- The lower-case hexadecimal digits of a number, without leading zeros. -/
def hexDigits (n : Nat) : Text :=
  if n < 16 then [hexDigitChar n] else hexDigits (n / 16) ++ [hexDigitChar (n % 16)]
termination_by n
decreasing_by omega

def minInt64 : Int := -9223372036854775808

def maxInt64 : Int := 9223372036854775807

def isInt64 (n : Int) : Bool :=
  minInt64 ≤ n && n ≤ maxInt64

def readInt64 (s : Text) : Option Int :=
  (readInt s).filter isInt64

end ForumSearch.Text
