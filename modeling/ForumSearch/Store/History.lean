import ForumSearch.Store.Basic

/-!
Histories of a store: the writes that can be made, and the store that a sequence of them leaves.
-/

namespace ForumSearch

inductive Write where
  | author (a : Author)
  | tag (t : Tag)
  | thread (t : Thread) (tagIds : List Int)
  | collect (user thread : Int) (time : Instant)
  | vote (v : Vote)
  deriving DecidableEq, Repr

namespace Store

def write (s : Store) : Write → Store
  | .author a => s.upsertAuthor a
  | .tag t => s.upsertTag t
  | .thread t tagIds => s.upsertThread t tagIds
  | .collect user thread time => s.collect user thread time
  | .vote v => (s.applyVote v).2

/-- The store after a history that starts with nothing stored. -/
def after (history : List Write) : Store :=
  history.foldl write empty

end Store

end ForumSearch
