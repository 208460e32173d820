import ForumSearch.Store.Condition

/-!
The candidates of a filter: the threads of the store that meet all of its conditions, in
increasing order of their ids. Each predicate of the filter becomes one condition.
-/

namespace ForumSearch

def TimeColumn.column : TimeColumn → Column
  | .createdAt => .createdAt
  | .lastActiveAt => .lastActiveAt

def CountColumn.column : CountColumn → Column
  | .reactions => .reactions
  | .replies => .replies

namespace Condition

/-- A comparison with a bound, if there is one. -/
def ofBound (column : Column) (comparison : Comparison) : Option Instant → Condition
  | some bound => .compare column comparison bound.seconds
  | none => .always

def every (conditions : List Condition) : Condition :=
  conditions.foldl .both .always

end Condition

def Predicate.condition : Predicate → Condition
  | .notDeleted => .compare .misses .equal 0
  | .channelIn ids => .among .channel ids
  | .threadNotIn ids => .neg (.among .id ids)
  | .authorIn ids => .among .author ids
  | .authorNotIn ids => .neg (.among .author ids)
  | .authorNamed name => .authorNamed name
  | .timeWithin column after before =>
    .both (.ofBound column.column .atLeast after) (.ofBound column.column .atMost before)
  | .countWithin column range =>
    .both (.compare column.column (if range.lowerIncluded then .atLeast else .more) range.lower)
      (.compare column.column (if range.upperIncluded then .atMost else .less) range.upper)
  | .anyTag ids => .linked ids
  | .noTag ids => .neg (.linked ids)
  | .textMatches e => .indexed e
  | .textExcludes e => .neg (.indexed e)
  | .collectedBy user => .collected user

namespace Store

def satisfies (s : Store) (t : Thread) (p : Predicate) : Bool :=
  s.meets t p.condition

def candidates (s : Store) (filter : List Predicate) : List Thread :=
  s.threads.values.filter fun t => s.meets t (.every (filter.map Predicate.condition))

end Store

end ForumSearch
