import ForumSearch.Search.Service

/-!
The engine under a store. It may fail any call, for reasons of its own; as a search makes no call
twice, it may fail at any point. SQLite fails the calls whose statement binds too many values or
nests its conditions too deeply; a filter is one conjunction, which is as deep as it has predicates.
-/

namespace ForumSearch

/-- Why a call fails, none if it is answered. -/
abbrev Engine := Call → Option String

def Engine.answer {α : Type} (e : Engine) (call : Call) (a : α) : Except String α :=
  match e call with
  | some reason => .error reason
  | none => .ok a

namespace Predicate

/-- How many values a statement binds for a predicate. -/
def values : Predicate → Nat
  | .notDeleted => 0
  | .channelIn ids | .threadNotIn ids | .authorIn ids | .authorNotIn ids | .anyTag ids
  | .noTag ids => ids.length
  | .authorNamed _ => 3
  | .timeWithin _ after before => after.toList.length + before.toList.length
  | .countWithin _ _ => 2
  | .textMatches _ | .textExcludes _ | .collectedBy _ => 1

/-- How deep the condition of a predicate is nested. A column of a table is two deep, and a
subquery is as deep as its own condition. -/
def depth : Predicate → Nat
  | .notDeleted | .channelIn _ | .authorIn _ | .textMatches _ => 3
  | .threadNotIn _ | .authorNotIn _ | .countWithin _ _ | .textExcludes _ => 4
  | .anyTag _ | .collectedBy _ => 5
  | .noTag _ | .authorNamed _ => 6
  | .timeWithin _ after before =>
    match after, before with
    | none, none => 2
    | some _, some _ => 5
    | _, _ => 4

/-- How deep the condition of its subquery is nested, if it has one. -/
def innerDepth : Predicate → Nat
  | .textMatches _ | .textExcludes _ => 2
  | .anyTag _ | .noTag _ | .collectedBy _ => 4
  | .authorNamed _ => 5
  | .notDeleted | .channelIn _ | .threadNotIn _ | .authorIn _ | .authorNotIn _ | .timeWithin _ _ _
  | .countWithin _ _ => 0

end Predicate

/-- Two conditions, of which one may itself be a conjunction. -/
def deeper (depth next : Nat) : Nat := max depth next + 1

def filterValues (filter : List Predicate) : Nat :=
  filter.foldl (fun n p => n + p.values) 0

/-- The depth of a filter with the conditions of some joins. The deepest subquery is counted from
the depth of the whole conjunction. -/
def filterDepth (filter : List Predicate) (joins : List Nat) : Nat :=
  (filter.map Predicate.depth ++ joins).foldl deeper 2 +
    (filter.map Predicate.innerDepth).foldl max 0

namespace Call

/-- How many values are bound for a call in one statement. -/
def values : Call → Nat
  | .count filter => filterValues filter
  | .rank filter tagIds => 2 * tagIds.length + filterValues filter
  | .page filter order _ _ =>
    match order.column, order.viewer with
    | .collectedAt, some _ => filterValues filter + 3
    | _, _ => filterValues filter + 2
  | .hydrate ids => ids.length
  | .collected _ ids => ids.length + 1

/-- How deep the conditions of a call are nested. A page joins the authors, and the collection of
the viewer if it is ordered by it. -/
def depth : Call → Nat
  | .count filter | .rank filter _ => filterDepth filter []
  | .page filter order _ _ =>
    match order.column, order.viewer with
    | .collectedAt, some _ => filterDepth filter [3, 4]
    | _, _ => filterDepth filter [3]
  | .hydrate _ | .collected _ _ => 4

end Call

namespace Engine

def maxValues : Nat := 32766

def maxDepth : Nat := 1000

/-- The engine that fails calls for their size only. -/
def sqlite : Engine := fun call =>
  if maxValues < call.values then some "too many SQL variables"
  else if maxDepth < call.depth then
    some "Expression tree is too large (maximum depth 1000)"
  else none

end Engine

end ForumSearch
