import ForumSearch.Search.Filter
import ForumSearch.Search.Page

/-!
The search service. It asks a backend, whose answers may be failures, in a fixed order, and stops
at the first failure; the calls it made are part of its result.
-/

namespace ForumSearch

structure PageOrder where
  column : SortColumn
  direction : Direction
  viewer : Option Int
  deriving DecidableEq, Repr

/-- What the service asks of a forum. Each answer may be a failure with its reason. -/
structure Backend where
  count : List Predicate → Except String Int
  rank : List Predicate → List Int → Except String (List RankRow)
  page : List Predicate → PageOrder → Int → Int → Except String (List ThreadRecord)
  hydrate : List Int → Except String (List ThreadRecord)
  collected : Int → List Int → Except String (List Int)

inductive Call where
  | count (filter : List Predicate)
  | rank (filter : List Predicate) (tagIds : List Int)
  | page (filter : List Predicate) (order : PageOrder) (offset limit : Int)
  | hydrate (ids : List Int)
  | collected (user : Int) (ids : List Int)
  deriving DecidableEq, Repr

/-- A computation that records its calls and stops at the first one that fails. -/
abbrev Traced (α : Type) := ExceptT String (StateM (List Call)) α

def ask {α : Type} (call : Call) (answer : Except String α) : Traced α := do
  modify (· ++ [call])
  liftExcept answer

structure SearchSettings where
  tags : TagSnapshot
  ranking : RankingConfig Float
  boost : Ranking.Boost

namespace Search

/-- Collection order without a viewer is by last activity. -/
def pageOrder (q : Query) (column : SortColumn) : PageOrder :=
  { column := if column = .collectedAt ∧ q.viewer = none then .lastActiveAt else column
    direction := q.direction
    viewer := q.viewer }

/-- Pairs a window of ranked ids with their records; an id takes its record only once, and ids
without a record drop out. -/
def pairUp : List (Int × Float) → List ThreadRecord → List (ThreadRecord × Option Float)
  | [], _ => []
  | (id, score) :: window, records =>
    match (records.reverse.find? fun r => r.thread.id = id) with
    | some r => (r, some score) :: pairUp window (records.filter fun r => r.thread.id ≠ id)
    | none => pairUp window records

def window (s : SearchSettings) (q : Query) (c : Compiled) (now : Instant) (rows : List RankRow) :
    List (Int × Float) :=
  (((Ranking.rank s.boost s.ranking (!c.tagIds.isEmpty) now q.direction rows).drop
    q.offset.toNat).take q.limit.toNat).map fun r => (r.row.thread, r.score)

def rankedPage (b : Backend) (s : SearchSettings) (q : Query) (c : Compiled) (now : Instant) :
    Traced (List (ThreadRecord × Option Float)) := do
  let rows ← ask (.rank c.filter c.tagIds) (b.rank c.filter c.tagIds)
  let window := window s q c now rows
  let ids := window.map (·.1)
  let records ← ask (.hydrate ids) (b.hydrate ids)
  return pairUp window records

def columnPage (b : Backend) (q : Query) (c : Compiled) (column : SortColumn) :
    Traced (List (ThreadRecord × Option Float)) := do
  let order := pageOrder q column
  let records ← ask (.page c.filter order q.offset q.limit) (b.page c.filter order q.offset q.limit)
  return records.map fun r => (r, none)

def hits (b : Backend) (s : SearchSettings) (q : Query) (c : Compiled) (now : Instant) :
    Traced (List (ThreadRecord × Option Float)) :=
  match q.sortMethod.effective with
  | .column column => columnPage b q c column
  | _ => rankedPage b s q c now

/-- The threads among the hits that the viewer has collected; not asked for without a viewer or
without hits. -/
def collectedAmong (b : Backend) (q : Query) (ids : List Int) : Traced (List Int) :=
  match q.viewer with
  | some viewer =>
    if ids.isEmpty then return []
    else ask (.collected viewer ids) (b.collected viewer ids)
  | none => return []

def execute (b : Backend) (s : SearchSettings) (q : Query) (c : Compiled) (now : Instant) :
    Traced Page := do
  let total ← ask (.count c.filter) (b.count c.filter)
  if total = 0 ∨ total ≤ q.offset then return ⟨total, q.limit, q.offset, []⟩
  let found ← hits b s q c now
  let collected ← collectedAmong b q (found.map fun hit => hit.1.thread.id)
  return ⟨total, q.limit, q.offset, found.map (Summary.of s.tags collected)⟩

/-- The answer to a request, and the calls made for it. A failed call is reported without its
reason. -/
def run (b : Backend) (s : SearchSettings) (r : Request) (now : Instant) :
    Except Error Page × List Call :=
  match r.validate now with
  | .error cause => (.error (.invalid cause), [])
  | .ok q =>
    let (answer, calls) := (execute b s q (q.compile s.tags) now).run.run []
    (answer.mapError fun _ => .searchFailed, calls)

end Search

end ForumSearch
