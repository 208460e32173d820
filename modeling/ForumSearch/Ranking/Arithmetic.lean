/-!
The arithmetic that scores are made of. Scoring is written once over any type with these
operations; programs run it on floating-point numbers, and its laws are about the reals.
-/

namespace ForumSearch

class Arithmetic (α : Type) extends Add α, Sub α, Mul α, Div α, Neg α where
  ofInt : Int → α
  exp : α → α
  log : α → α
  sqrt : α → α
  lt : α → α → Bool
  le : α → α → Bool
  finite : α → Bool

namespace Arithmetic

instance : Arithmetic Float where
  ofInt := Float.ofInt
  exp := Float.exp
  log := Float.log
  sqrt := Float.sqrt
  lt x y := x < y
  le x y := x ≤ y
  finite := Float.isFinite

variable {α : Type} [Arithmetic α]

def zero : α := ofInt 0

def one : α := ofInt 1

def milli (n : Int) : α := ofInt n / ofInt 1000

/-- The number itself if it is positive, else zero. -/
def positivePart (x : α) : α :=
  if lt zero x then x else zero

/-- The number, or the cap if that is less. A number that is not comparable with itself gives
the cap. -/
def capped (x cap : α) : α :=
  if lt cap x then cap else if le x x then x else cap

def inUnit (x : α) : Bool :=
  le zero x && le x one

end Arithmetic

end ForumSearch
