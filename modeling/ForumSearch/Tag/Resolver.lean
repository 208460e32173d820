import ForumSearch.Tag.Snapshot

/-!
The tag resolver holds the snapshot in use. A rebuild that fails leaves it as it was.
-/

namespace ForumSearch

structure TagResolver where
  current : TagSnapshot

namespace TagResolver

def empty : TagResolver := ⟨.empty⟩

def replace (_ : TagResolver) (snapshot : TagSnapshot) : TagResolver :=
  ⟨snapshot⟩

/-- Takes over the tags that were loaded and gives the number of their ids. -/
def rebuild (r : TagResolver) (loaded : Except String (List Tag)) :
    Except String Nat × TagResolver :=
  match loaded with
  | .ok tags => (.ok (TagSnapshot.ofTags tags).size, ⟨TagSnapshot.ofTags tags⟩)
  | .error reason => (.error reason, r)

end TagResolver

end ForumSearch
