import ForumSearch.Text.Case

/-!
Wildcard patterns: a percent sign stands for any run of characters, an underscore for any one,
and a backslash makes the next character literal. Letters of ASCII match in either case, and a
NUL ends both the pattern and the text.
-/

namespace ForumSearch

inductive Wildcard where
  | anyRun
  | anyOne
  | literal (c : Char)
  deriving DecidableEq, Repr

namespace Wildcard

/-- A pattern that ends in a backslash has no reading. -/
def read : Text → Option (List Wildcard)
  | [] => some []
  | '%' :: p => (read p).map (.anyRun :: ·)
  | '_' :: p => (read p).map (.anyOne :: ·)
  | '\\' :: c :: p => (read p).map (.literal c :: ·)
  | c :: p => if c = '\\' then none else (read p).map (.literal c :: ·)

def fits : List Wildcard → Text → Bool
  | [], s => s.isEmpty
  | .anyRun :: p, s => (List.range (s.length + 1)).any fun i => fits p (s.drop i)
  | .anyOne :: p, s => !s.isEmpty && fits p s.tail
  | .literal c :: p, s =>
    match s with
    | [] => false
    | d :: s => Text.asciiLower c = Text.asciiLower d && fits p s

def untilNul (s : Text) : Text :=
  s.takeWhile (· ≠ '\x00')

def like (pattern s : Text) : Bool :=
  match read (untilNul pattern) with
  | some p => fits p (untilNul s)
  | none => false

def escape (c : Char) : Text :=
  if c = '%' ∨ c = '_' ∨ c = '\\' then ['\\', c] else [c]

def containing (s : Text) : Text :=
  '%' :: s.flatMap escape ++ ['%']

end Wildcard

end ForumSearch
