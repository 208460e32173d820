import ForumSearch.Settings.Path

/-!
Layers of settings. Each source of settings is a layer of entries, and a key of an entry is a path;
a layer is laid over the ones before it entry by entry.
-/

namespace ForumSearch

abbrev Layer := List (Text × Setting)

namespace Layer

/-- The members of the tree of settings after an entry is laid over it. -/
def enter (members : List (Text × Setting)) (entry : Text × Setting) : List (Text × Setting) :=
  Setting.membersOf (some (Setting.place entry.2 (Path.ofKey entry.1) (some (.table members))))

/-- All layers as one tree, the later over the earlier. -/
def stack (layers : List Layer) : List (Text × Setting) :=
  layers.flatten.foldl enter []

end Layer

end ForumSearch
