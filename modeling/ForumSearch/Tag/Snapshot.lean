import ForumSearch.Forum.Basic
import ForumSearch.Table.Basic

/-!
A snapshot of the tags: the ids under each name in the order of the list it was made from, and
the name of each id. A snapshot never changes; rebuilding makes a new one.
-/

namespace ForumSearch

structure TagSnapshot where
  nameOf : Table Int Text
  idsOf : Table Text (List Int)

namespace TagSnapshot

def empty : TagSnapshot := ⟨.empty, .empty⟩

def addTag (s : TagSnapshot) (tag : Tag) : TagSnapshot :=
  let ids := (s.idsOf.get? tag.name).getD []
  { nameOf := s.nameOf.insert tag.id tag.name
    idsOf := s.idsOf.insert tag.name (if ids.contains tag.id then ids else ids ++ [tag.id]) }

def ofTags (tags : List Tag) : TagSnapshot :=
  tags.foldl addTag empty

def resolve (s : TagSnapshot) (name : Text) : List Int :=
  (s.idsOf.get? name).getD []

/-- The ids that carry one of several names, in increasing order. -/
def resolveAll (s : TagSnapshot) (names : List Text) : List Int :=
  Key.sortDistinct (names.flatMap s.resolve)

def name? (s : TagSnapshot) (id : Int) : Option Text :=
  s.nameOf.get? id

def names (s : TagSnapshot) : List Text :=
  s.idsOf.keys

/-- The names of some ids, in increasing order; ids without a name are left out. -/
def shownNames (s : TagSnapshot) (ids : List Int) : List Text :=
  Key.sortDistinct (ids.filterMap s.name?)

def size (s : TagSnapshot) : Nat :=
  s.nameOf.size

end TagSnapshot

end ForumSearch
