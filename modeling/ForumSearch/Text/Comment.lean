import ForumSearch.Text.Basic

/-!
Spaces and comments between the words of a text. A comment goes from // to the end of the line, or
from /* to */.
-/

namespace ForumSearch.Text

structure Spacing where
  isSpace : Char → Bool
  /-- A comment after two slashes ends here. -/
  endsLine : Char → Bool
  /-- A comment with stars can hold others. -/
  nests : Bool

inductive CommentState where
  | outside
  | line
  /-- Inside of some comments around each other, one at least. -/
  | block (around : Nat)

namespace Spacing

/-- Spaces and comments in front of a text are dropped; none if a comment is not closed. -/
def skipFrom (sp : Spacing) : CommentState → Text → Option Text
  | .outside, '/' :: '/' :: rest => skipFrom sp .line rest
  | .outside, '/' :: '*' :: rest => skipFrom sp (.block 0) rest
  | .outside, c :: rest => if sp.isSpace c then skipFrom sp .outside rest else some (c :: rest)
  | .outside, [] => some []
  | .line, c :: rest => skipFrom sp (if sp.endsLine c then .outside else .line) rest
  | .line, [] => some []
  | .block 0, '*' :: '/' :: rest => skipFrom sp .outside rest
  | .block (n + 1), '*' :: '/' :: rest => skipFrom sp (.block n) rest
  | .block n, '/' :: '*' :: rest =>
    if sp.nests then skipFrom sp (.block (n + 1)) rest else skipFrom sp (.block n) ('*' :: rest)
  | .block n, _ :: rest => skipFrom sp (.block n) rest
  | .block _, [] => none

def skip (sp : Spacing) (s : Text) : Option Text :=
  sp.skipFrom .outside s

end Spacing

end ForumSearch.Text
