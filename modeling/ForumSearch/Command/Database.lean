import ForumSearch.Store.Basic
import ForumSearch.Text.Integer
import ForumSearch.Text.Utf8

/-!
Where a database is kept: in a file, or in memory that lasts for one run; and what is found there.
-/

namespace ForumSearch

inductive Access where
  | read
  | update
  /-- The file is made if it is not there. -/
  | create
  deriving DecidableEq, Repr

inductive Database where
  | memory
  | file (path : Text) (access : Access)
  deriving DecidableEq, Repr

inductive DatabaseFile where
  | absent
  | blank
  | store (store : Store)
  /-- A folder, a file of another kind, or a path that leads nowhere. -/
  | unusable

namespace Text

/-- A text without the copies of another at its beginning. -/
def dropAll (pat s : Text) : Text :=
  if _h : pat ≠ [] ∧ pat.isPrefixOf s then dropAll pat (s.drop pat.length) else s
termination_by s.length
decreasing_by
  have hp := List.length_pos_iff.mpr _h.1
  have hs := (List.isPrefixOf_iff_prefix.mp _h.2).length_le
  simp only [List.length_drop]
  omega

/-- The bytes of a text, with each percent sign and two hexadecimal digits as one byte. -/
def percentBytes : Text → List UInt8
  | '%' :: a :: b :: rest =>
    match hexValue a, hexValue b with
    | some x, some y => (16 * x + y).toUInt8 :: percentBytes rest
    | _, _ => '%'.toUInt8 :: percentBytes (a :: b :: rest)
  | c :: rest => charBytes c ++ percentBytes rest
  | [] => []

/-- The text of the bytes; none if they are no text. -/
def percentDecode? (s : Text) : Option Text :=
  ofBytes? (percentBytes s)

end Text

end ForumSearch
