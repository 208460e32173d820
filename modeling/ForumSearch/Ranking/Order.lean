import ForumSearch.Number.Binary64
import ForumSearch.Query.Sort
import ForumSearch.Ranking.Score

/-!
Ranking of rows by their adjusted score. Scores are compared by the total order of floating-point
numbers, a score that is not a number counts as the lowest, and equal scores go by thread.
-/

namespace ForumSearch.Ranking

/-- An adjustment of scores, row by row. -/
abbrev Boost := RankRow → Float → Float

def noBoost : Boost := fun _ s => s

structure Ranked where
  row : RankRow
  score : Float

def lowest : Float := -1.0 / 0.0

def place (s : Float) : Int :=
  Binary64.orderKey s.toBits.toNat

def adjusted (boost : Boost) (c : RankingConfig Float) (byTag : Bool) (now : Instant)
    (row : RankRow) : Ranked :=
  let s := boost row (score c byTag now row).value
  ⟨row, if s.isNaN then lowest else s⟩

def precedes (direction : Direction) (a b : Ranked) : Bool :=
  let first := match direction with
    | .ascending => place a.score
    | .descending => place b.score
  let second := match direction with
    | .ascending => place b.score
    | .descending => place a.score
  first < second || (first = second && a.row.thread ≤ b.row.thread)

def rank (boost : Boost) (c : RankingConfig Float) (byTag : Bool) (now : Instant)
    (direction : Direction) (rows : List RankRow) : List Ranked :=
  (rows.map (adjusted boost c byTag now)).mergeSort (precedes direction)

end ForumSearch.Ranking
