import ForumSearch.Index.Compile
import ForumSearch.Query.Request
import ForumSearch.Tag.Snapshot

/-!
Filters: the conditions a thread must meet to be a candidate of a query. A field that restricts
nothing gives no condition, and a tag name without ids is ignored.
-/

namespace ForumSearch

inductive TimeColumn where
  | createdAt
  | lastActiveAt
  deriving DecidableEq, Repr

inductive CountColumn where
  | reactions
  | replies
  deriving DecidableEq, Repr

inductive Predicate where
  | notDeleted
  | channelIn (ids : List Int)
  | threadNotIn (ids : List Int)
  | authorIn (ids : List Int)
  | authorNotIn (ids : List Int)
  | authorNamed (name : Text)
  | timeWithin (column : TimeColumn) (after before : Option Instant)
  | countWithin (column : CountColumn) (range : Interval)
  | anyTag (ids : List Int)
  | noTag (ids : List Int)
  | textMatches (e : Index.Expression)
  | textExcludes (e : Index.Expression)
  | collectedBy (user : Int)
  deriving DecidableEq, Repr

/-- A filter, and the ids of all included tags. -/
structure Compiled where
  filter : List Predicate
  tagIds : List Int
  deriving DecidableEq, Repr

namespace Query

def unlessEmpty (ids : List Int) (p : List Int → Predicate) : List Predicate :=
  if ids.isEmpty then [] else [p ids]

def timePredicate (column : TimeColumn) (after before : Option Instant) : List Predicate :=
  if after.isNone && before.isNone then [] else [.timeWithin column after before]

/-- Under all, every name that resolves asks for one of its ids; under any, one id is enough. -/
def tagPredicates (q : Query) (tags : TagSnapshot) : List Predicate :=
  match q.tagLogic with
  | .all => ((q.includeTags.map tags.resolve).filter fun ids => !ids.isEmpty).map .anyTag
  | .any => unlessEmpty (tags.resolveAll q.includeTags) .anyTag

/-- One condition for all excluded words: the text satisfies none of their expressions. -/
def exclusionPredicates (q : Query) : List Predicate :=
  match Index.Expression.joinLeft .either (q.excludeKeywords.filterMap fun word =>
      Index.exclusionExpression word q.exemptionMarkers Index.exemptionWindow) with
  | some e => [.textExcludes e]
  | none => []

def compile (q : Query) (tags : TagSnapshot) : Compiled where
  filter :=
    [.notDeleted] ++
    (if q.collectedOnly then (q.viewer.map .collectedBy).toList else []) ++
    unlessEmpty q.channels .channelIn ++
    unlessEmpty q.excludeThreads .threadNotIn ++
    unlessEmpty q.includeAuthors .authorIn ++
    (q.authorName.map .authorNamed).toList ++
    unlessEmpty q.excludeAuthors .authorNotIn ++
    (q.reactions.map (.countWithin .reactions)).toList ++
    (q.replies.map (.countWithin .replies)).toList ++
    timePredicate .createdAt q.createdAfter q.createdBefore ++
    timePredicate .lastActiveAt q.activeAfter q.activeBefore ++
    q.tagPredicates tags ++
    unlessEmpty (tags.resolveAll q.excludeTags) .noTag ++
    (q.keywordGroups.filterMap Index.groupExpression).map .textMatches ++
    q.exclusionPredicates
  tagIds := tags.resolveAll q.includeTags

end Query

end ForumSearch
