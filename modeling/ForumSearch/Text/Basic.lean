/-!
Texts as lists of characters: blanks, trimming, splitting and joining.
Splitting keeps empty pieces, and words are the non-empty pieces between blanks.
-/

namespace ForumSearch

abbrev Text := List Char

namespace Text

def inRanges : List (Nat × Nat) → Nat → Bool
  | [], _ => false
  | (lo, hi) :: rest, n => if n < lo then false else n ≤ hi || inRanges rest n

/-- The characters with the Unicode property White_Space. -/
def isBlank (c : Char) : Bool :=
  inRanges [(9, 13), (32, 32), (0x85, 0x85), (0xa0, 0xa0), (0x1680, 0x1680), (0x2000, 0x200a),
    (0x2028, 0x2029), (0x202f, 0x202f), (0x205f, 0x205f), (0x3000, 0x3000)] c.toNat

def isDigit (c : Char) : Bool :=
  '0' ≤ c && c ≤ '9'

def trimStart (s : Text) : Text :=
  s.dropWhile isBlank

def trimEnd (s : Text) : Text :=
  (s.reverse.dropWhile isBlank).reverse

def trim (s : Text) : Text :=
  trimEnd (trimStart s)

/-- A text without a byte order mark at its beginning. -/
def dropMark : Text → Text
  | '\uFEFF' :: s => s
  | s => s

/-- The pieces between the characters that satisfy p, empty ones included. -/
def splitAtEach (p : Char → Bool) : Text → List Text
  | [] => [[]]
  | c :: cs =>
    if p c then [] :: splitAtEach p cs
    else match splitAtEach p cs with
      | [] => [[c]]
      | piece :: pieces => (c :: piece) :: pieces

/-- The maximal runs of characters that are not blank. -/
def words (s : Text) : List Text :=
  (splitAtEach isBlank s).filter fun w => !w.isEmpty

/-- The texts before and after the first occurrence of a character. -/
def splitFirst (sep : Char) : Text → Option (Text × Text)
  | [] => none
  | c :: cs =>
    if c = sep then some ([], cs)
    else (splitFirst sep cs).map fun parts => (c :: parts.1, parts.2)

def splitAtInfix (pat : Text) : Text → Option (Text × Text)
  | [] => if pat.isEmpty then some ([], []) else none
  | c :: cs =>
    if pat.isPrefixOf (c :: cs) then some ([], (c :: cs).drop pat.length)
    else (splitAtInfix pat cs).map fun parts => (c :: parts.1, parts.2)

def joinWith (sep : Text) (pieces : List Text) : Text :=
  sep.intercalate pieces

/-- One occurrence of pat somewhere in a text. -/
def hasInfix (pat : Text) : Text → Bool
  | [] => pat.isEmpty
  | c :: cs => pat.isPrefixOf (c :: cs) || hasInfix pat cs

def distinct (names : List Text) : List Text :=
  names.foldl (fun seen name => if seen.contains name then seen else seen ++ [name]) []

end Text

end ForumSearch
