import ForumSearch.Forum.Basic
import ForumSearch.Ranking.Order
import ForumSearch.Tag.Snapshot

/-!
Pages of search results. A result shows the tag names of its thread in increasing order, whether
the viewer has collected it, and its score if the order is by score.
-/

namespace ForumSearch

structure Summary where
  record : ThreadRecord
  tags : List Text
  collected : Bool
  score : Option Float

structure Page where
  total : Int
  limit : Int
  offset : Int
  results : List Summary

def Summary.of (tags : TagSnapshot) (collected : List Int) (hit : ThreadRecord × Option Float) :
    Summary :=
  ⟨hit.1, tags.shownNames hit.1.tagIds, collected.contains hit.1.thread.id, hit.2⟩

end ForumSearch
