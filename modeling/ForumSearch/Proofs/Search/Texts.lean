import ForumSearch.Proofs.Index.Segmentation
import ForumSearch.Proofs.Search.Candidates
import ForumSearch.Proofs.Store.History

/-!
# Texts of candidates

The conditions on texts under any analyzer of the index. Those that the store evaluates are the ones
under its own analyzer, and what they see of a stored thread are the tokens of its title and
excerpt.
-/

namespace ForumSearch.Store

open Index

/-- Whether a thread satisfies a predicate, by what an analyzer keeps of tokens. -/
def satisfiesBy (s : Store) (keep : Analyzer) (t : Thread) : Predicate → Bool
  | .textMatches e => s.textHolds keep t.id e
  | .textExcludes e => !s.textHolds keep t.id e
  | p => s.satisfies t p

/-- The candidates of a filter, by what an analyzer keeps of tokens. -/
def candidatesBy (s : Store) (keep : Analyzer) (filter : List Predicate) : List Thread :=
  s.threads.values.filter fun t => filter.all (s.satisfiesBy keep t)

lemma satisfiesBy_standard (s : Store) (t : Thread) (p : Predicate) :
    s.satisfiesBy standard t p = s.satisfies t p := by
  cases p <;> rfl

theorem candidatesBy_standard (s : Store) (filter : List Predicate) :
    s.candidatesBy standard filter = s.candidates filter := by
  unfold candidatesBy candidates
  refine List.filter_congr fun t _ => ?_
  rw [Condition.every, meets_foldl_both, List.all_map, meets, Bool.true_and]
  exact congrArg filter.all (funext (s.satisfiesBy_standard t))

/-- The index row of a stored thread has the tokens of its text. -/
lemma textHolds_of_stored {s : Store} (hs : Sound s) {t : Thread} (ht : t ∈ s.threads.values)
    (keep : Analyzer) (e : Expression) :
    s.textHolds keep t.id e = holds keep (terms keep (tokens (searchedText t))) e := by
  obtain ⟨k, hk⟩ := Table.mem_values.mp ht
  have hcontent : s.contents.get? t.id = some (segment (searchedText t)) := by
    rw [hs.thread_id k t hk]
    exact hs.content k t hk
  rw [textHolds, hcontent, Option.any_some, document, tokens_segment]

end ForumSearch.Store
