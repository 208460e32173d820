import ForumSearch.Proofs.Search.Candidates
import ForumSearch.Proofs.Store.ReadBack

/-!
# Reads of candidates

Candidates are counted, listed as rows to rank and listed as records of a page. Written out over the
tables the three reads differ: a rank row sums counters over links, and a page joins the authors and,
for the order of collection, the entries of the viewer. All of them see one set of threads, each
thread once, whatever the threads are selected by.
-/

namespace ForumSearch

namespace Store

section Statements

variable (s : Store) (accepts : Thread → Bool)

end Statements

variable {s : Store}

/-- The condition of a filter is that all of its predicates are satisfied. -/
def passes (s : Store) (filter : List Predicate) (t : Thread) : Bool :=
  s.meets t (.every (filter.map Predicate.condition))

end Store

end ForumSearch
