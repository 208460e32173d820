import ForumSearch.Store.Candidates
import ForumSearch.Store.Engine

/-!
Reading the store: counts, rank rows, pages and records of threads, vote counters, tags and
collections. Pages are ordered by one column, ties by id; a missing collection time comes first
in ascending order.
-/

namespace ForumSearch.Store

def count (s : Store) (filter : List Predicate) : Int :=
  (s.candidates filter).length

/-- The tags of a thread with their counters, in increasing order of the tags. -/
def linksOf (s : Store) (thread : Int) : List Link :=
  (s.links.rows.filter fun r => r.1.1 = thread).map fun r => ⟨thread, r.1.2, r.2⟩

/-- The sum of the counters of a thread's links to some tags. -/
def votesFor (s : Store) (thread : Int) (tagIds : List Int) : Counters :=
  ((s.linksOf thread).filter fun l => tagIds.contains l.tag).foldl
    (fun sum l => sum.add l.counters) .zero

def rankRows (s : Store) (filter : List Predicate) (tagIds : List Int) : List RankRow :=
  (s.candidates filter).map fun t =>
    ⟨t.id, t.lastActiveAt, t.reactions, s.votesFor t.id tagIds⟩

def record (s : Store) (t : Thread) : ThreadRecord :=
  ⟨t, (s.authors.get? t.author).map Author.shownName, (s.linksOf t.id).map (·.tag)⟩

/-- The value that a thread is ordered by, none if it has not been collected. -/
def sortKey (s : Store) (order : PageOrder) (t : Thread) : Option Int :=
  match order.column, order.viewer with
  | .collectedAt, some viewer => s.collections.get? (viewer, t.id)
  | .createdAt, _ => some t.createdAt.seconds
  | .reactions, _ => some t.reactions
  | .replies, _ => some t.replies
  | .lastActiveAt, _ | .collectedAt, none => some t.lastActiveAt.seconds

def keyLt : Option Int → Option Int → Bool
  | none, some _ => true
  | some a, some b => a < b
  | _, none => false

def inOrder (s : Store) (order : PageOrder) (a b : Thread) : Bool :=
  let x := s.sortKey order a
  let y := s.sortKey order b
  (match order.direction with
    | .ascending => keyLt x y
    | .descending => keyLt y x) || (x = y && a.id ≤ b.id)

/-- A negative limit is no limit, a negative offset is none. -/
def cut {α : Type} (offset limit : Int) (rows : List α) : List α :=
  let rest := rows.drop offset.toNat
  if limit < 0 then rest else rest.take limit.toNat

def page (s : Store) (filter : List Predicate) (order : PageOrder) (offset limit : Int) :
    List ThreadRecord :=
  (cut offset limit ((s.candidates filter).mergeSort (s.inOrder order))).map s.record

/-- The records of the threads with given ids, each once, in increasing order. -/
def fetch (s : Store) (ids : List Int) : List ThreadRecord :=
  (s.threads.values.filter fun t => ids.contains t.id).map s.record

def collectedAmong (s : Store) (user : Int) (ids : List Int) : List Int :=
  ((s.collections.keys.filter fun k => k.1 = user && ids.contains k.2)).map (·.2)

def loadTags (s : Store) : List Tag :=
  s.tags.rows.map fun r => ⟨r.1, r.2⟩

/-- The store as the forum behind a search. It answers what its engine does not fail. -/
def backend (s : Store) (e : Engine) : Backend where
  count filter := e.answer (.count filter) (s.count filter)
  rank filter tagIds := e.answer (.rank filter tagIds) (s.rankRows filter tagIds)
  page filter order offset limit :=
    e.answer (.page filter order offset limit) (s.page filter order offset limit)
  hydrate ids := e.answer (.hydrate ids) (s.fetch ids)
  collected user ids := e.answer (.collected user ids) (s.collectedAmong user ids)

end ForumSearch.Store
