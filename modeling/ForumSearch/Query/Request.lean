import ForumSearch.Query.FreeText
import ForumSearch.Query.Interval
import ForumSearch.Query.Keyword
import ForumSearch.Query.Sort
import ForumSearch.Query.TimeBound

/-!
Search requests as they arrive, and the queries they become. Validation reads every bound,
interval and order, merges the search box into the other fields, and refuses the first field
that makes no sense.
-/

namespace ForumSearch

inductive TagLogic where
  | all
  | any
  deriving DecidableEq, Repr

structure Request where
  query : Option Text := none
  channels : List Int := []
  includeTags : List Text := []
  excludeTags : List Text := []
  tagLogic : TagLogic := .all
  keywords : Option Text := none
  excludeKeywords : Option Text := none
  exemptionMarkers : Option (List Text) := none
  includeAuthors : List Int := []
  excludeAuthors : List Int := []
  authorName : Option Text := none
  createdAfter : Option Text := none
  createdBefore : Option Text := none
  activeAfter : Option Text := none
  activeBefore : Option Text := none
  reactionRange : Option Text := none
  replyRange : Option Text := none
  sortMethod : Text := "comprehensive".toList
  customBase : Option Text := none
  direction : Direction := .descending
  limit : Int := 10
  offset : Int := 0
  excludeThreads : List Int := []
  viewer : Option Int := none
  collectedOnly : Bool := false
  deriving DecidableEq, Repr

structure Query where
  channels : List Int
  includeTags : List Text
  excludeTags : List Text
  tagLogic : TagLogic
  keywordGroups : List Keyword.Group
  excludeKeywords : List Text
  exemptionMarkers : List Text
  includeAuthors : List Int
  excludeAuthors : List Int
  authorName : Option Text
  createdAfter : Option Instant
  createdBefore : Option Instant
  activeAfter : Option Instant
  activeBefore : Option Instant
  reactions : Option Interval
  replies : Option Interval
  sortMethod : SortMethod
  direction : Direction
  limit : Int
  offset : Int
  excludeThreads : List Int
  viewer : Option Int
  collectedOnly : Bool
  deriving DecidableEq, Repr

namespace Request

def maxLimit : Int := 100

def defaultMarkers : List Text := [['禁'], ['🈲']]

/-- Trimmed names without blanks and repeats. -/
def normalNames (names : List Text) : List Text :=
  Text.distinct ((names.map Text.trim).filter fun n => !n.isEmpty)

/-- What the search box says; an absent box says nothing. -/
def freeText (r : Request) : FreeText :=
  match r.query with
  | some raw => FreeText.parse (FreeText.clean raw)
  | none => ⟨none, [], [], []⟩

/-- The author name field, or else the author of the search box. -/
def author (r : Request) : Option Text :=
  match (r.authorName.map Text.trim).filter fun s => !s.isEmpty with
  | some name => some name
  | none => r.freeText.authorName

def groups (r : Request) : List Keyword.Group :=
  ((r.keywords.map Keyword.parseGroups).getD []) ++
    r.freeText.phrases.map (fun p => [.exact p]) ++ Keyword.parseGroups r.freeText.rest

def excluded (r : Request) : List Text :=
  ((r.excludeKeywords.map Keyword.splitExcluded).getD []) ++ r.freeText.excluded

def validate (r : Request) (now : Instant) : Except Invalid Query := do
  if ¬(1 ≤ r.limit ∧ r.limit ≤ maxLimit) then throw (.limit r.limit)
  if r.offset < 0 then throw (.offset r.offset)
  if r.collectedOnly ∧ r.viewer = none then throw .noViewer
  let createdAfter ← TimeBound.parse r.createdAfter now
  let createdBefore ← TimeBound.parse r.createdBefore now
  let activeAfter ← TimeBound.parse r.activeAfter now
  let activeBefore ← TimeBound.parse r.activeBefore now
  let reactions ← Interval.parseFilter r.reactionRange
  let replies ← Interval.parseFilter r.replyRange
  return {
    channels := r.channels
    includeTags := normalNames r.includeTags
    excludeTags := normalNames r.excludeTags
    tagLogic := r.tagLogic
    keywordGroups := r.groups
    excludeKeywords := r.excluded
    exemptionMarkers := r.exemptionMarkers.getD defaultMarkers
    includeAuthors := r.includeAuthors
    excludeAuthors := r.excludeAuthors
    authorName := r.author
    createdAfter, createdBefore, activeAfter, activeBefore, reactions, replies
    sortMethod := SortMethod.ofNames r.sortMethod r.customBase
    direction := r.direction
    limit := r.limit
    offset := r.offset
    excludeThreads := r.excludeThreads
    viewer := r.viewer
    collectedOnly := r.collectedOnly }

end Request

end ForumSearch
