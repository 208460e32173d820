import ForumSearch.Proofs.Search.Order
import ForumSearch.Proofs.Search.Pairing
import ForumSearch.Proofs.Search.Traced
import ForumSearch.Proofs.Store.Links

/-!
# Answers of a search

The page of a search over the store, and the calls that it takes, are functions of what is stored:
the engine of the store decides only whether the calls are answered. The page shows candidates of
the query, and marks those that the viewer has collected.
-/

namespace ForumSearch

namespace Search

section Specification

variable (g : SearchSettings) (s : Store) (q : Query) (now : Instant)

/-- The rows of the window that an order by score cuts out. -/
def rankedWindow : List (Int × Float) :=
  window g q (q.compile g.tags) now
    (s.rankRows (q.compile g.tags).filter (q.compile g.tags).tagIds)

/-- The records on the page of a query, with their scores if the order is by score. -/
def found : List (ThreadRecord × Option Float) :=
  match sortColumn? q with
  | some column =>
    (s.page (q.compile g.tags).filter (pageOrder q column) q.offset q.limit).map fun r => (r, none)
  | none => pairUp (rankedWindow g s q now) (s.fetch ((rankedWindow g s q now).map (·.1)))

def isCollected (id : Int) : Bool :=
  q.viewer.any fun viewer => s.collections.contains (viewer, id)

/-- How a record is shown. -/
def summary (hit : ThreadRecord × Option Float) : Summary :=
  ⟨hit.1, g.tags.shownNames hit.1.tagIds, isCollected s q hit.1.thread.id, hit.2⟩

def answer : Page :=
  ⟨s.count (q.compile g.tags).filter, q.limit, q.offset,
    (found g s q now).map (summary g s q)⟩

/-- The calls for the records on a page. An order by score ranks, and then asks for some ids. -/
def fetched (ids : List Int) : List Call :=
  match sortColumn? q with
  | some column =>
    [.page (q.compile g.tags).filter (pageOrder q column) q.offset q.limit]
  | none => [.rank (q.compile g.tags).filter (q.compile g.tags).tagIds, .hydrate ids]

/-- The call for the marks of some threads. There is none without a viewer or without threads. -/
def marked (ids : List Int) : List Call :=
  match q.viewer with
  | some viewer => if ids.isEmpty then [] else [.collected viewer ids]
  | none => []

/-- The calls of a search. Nothing is asked for behind the last candidate. -/
def asked : List Call :=
  .count (q.compile g.tags).filter ::
    if s.count (q.compile g.tags).filter = 0 ∨ s.count (q.compile g.tags).filter ≤ q.offset then []
    else fetched g q ((rankedWindow g s q now).map (·.1)) ++
      marked q ((found g s q now).map fun hit => hit.1.thread.id)

end Specification

variable {g : SearchSettings} {s : Store} {q : Query} {now : Instant} {e : Engine}

lemma yields_hits :
    (hits (s.backend e) g q (q.compile g.tags) now).Yields e
      (fetched g q ((rankedWindow g s q now).map (·.1))) (found g s q now) := by
  have hranked : (rankedPage (s.backend e) g q (q.compile g.tags) now).Yields e
      [.rank (q.compile g.tags).filter (q.compile g.tags).tagIds,
        .hydrate ((rankedWindow g s q now).map (·.1))]
      (pairUp (rankedWindow g s q now) (s.fetch ((rankedWindow g s q now).map (·.1)))) := by
    refine Traced.Yields.bind (Traced.yields_ask _ _) ?_
    exact (Traced.yields_ask _ _).map _
  unfold hits fetched found sortColumn?
  cases q.sortMethod.effective with
  | column column => exact (Traced.yields_ask _ _).map _
  | comprehensive => exact hranked
  | custom base => exact hranked

lemma mem_collectedAmong (user id : Int) (ids : List Int) :
    id ∈ s.collectedAmong user ids ↔ id ∈ ids ∧ s.collections.contains (user, id) = true := by
  unfold Store.collectedAmong
  simp only [List.mem_map, List.mem_filter, Bool.and_eq_true, decide_eq_true_eq,
    List.contains_iff_mem, Table.mem_keys]
  constructor
  · rintro ⟨⟨u, x⟩, ⟨hkey, rfl, hx⟩, rfl⟩
    exact ⟨hx, hkey⟩
  · rintro ⟨hid, hkey⟩
    exact ⟨(user, id), ⟨hkey, rfl, hid⟩, rfl⟩

lemma yields_collectedAmong (s : Store) (q : Query) (e : Engine) (ids : List Int) :
    ∃ collected, (collectedAmong (s.backend e) q ids).Yields e (marked q ids) collected ∧
      ∀ id ∈ ids, collected.contains id = isCollected s q id := by
  unfold collectedAmong marked isCollected
  cases q.viewer with
  | none => exact ⟨[], Traced.yields_pure _, fun id _ => rfl⟩
  | some viewer =>
    dsimp only
    by_cases hempty : ids.isEmpty = true
    · rw [if_pos hempty, if_pos hempty]
      refine ⟨[], Traced.yields_pure _, ?_⟩
      rw [List.isEmpty_iff.mp hempty]
      simp
    · rw [if_neg hempty, if_neg hempty]
      refine ⟨s.collectedAmong viewer ids, Traced.yields_ask _ _, ?_⟩
      intro id hid
      rw [Bool.eq_iff_iff, List.contains_iff_mem, mem_collectedAmong]
      simp [hid]

/-- There is nothing on a page behind the last candidate. -/
lemma found_eq_nil (hend : s.count (q.compile g.tags).filter = 0 ∨
    s.count (q.compile g.tags).filter ≤ q.offset) : found g s q now = [] := by
  have hcandidates : (s.candidates (q.compile g.tags).filter).length ≤ q.offset.toNat := by
    unfold Store.count at hend
    omega
  have hwindow : rankedWindow g s q now = [] := by
    have hlength : (Ranking.rank g.boost g.ranking (!(q.compile g.tags).tagIds.isEmpty) now
        q.direction (s.rankRows (q.compile g.tags).filter (q.compile g.tags).tagIds)).length =
          (s.candidates (q.compile g.tags).filter).length := by
      simp [Ranking.rank, Store.rankRows]
    unfold rankedWindow window
    rw [List.drop_eq_nil_of_le (hlength.trans_le hcandidates)]
    simp
  unfold found
  cases sortColumn? q with
  | none => simp [hwindow, pairUp]
  | some column =>
    have hsorted : ((s.candidates (q.compile g.tags).filter).mergeSort
        (s.inOrder (pageOrder q column))).drop q.offset.toNat = [] :=
      List.drop_eq_nil_of_le (by simpa using hcandidates)
    simp [Store.page, Store.cut, hsorted]

lemma yields_execute :
    (execute (s.backend e) g q (q.compile g.tags) now).Yields e (asked g s q now)
      (answer g s q now) := by
  unfold execute answer asked
  by_cases hend : s.count (q.compile g.tags).filter = 0 ∨
      s.count (q.compile g.tags).filter ≤ q.offset
  · rw [if_pos hend, found_eq_nil hend]
    refine Traced.Yields.bind (Traced.yields_ask _ _) ?_
    rw [if_pos hend]
    exact Traced.yields_pure _
  · rw [if_neg hend]
    refine Traced.Yields.bind (Traced.yields_ask _ _) ?_
    rw [if_neg hend]
    refine Traced.Yields.bind yields_hits ?_
    obtain ⟨collected, hyields, hcollected⟩ :=
      yields_collectedAmong s q e ((found g s q now).map fun hit => hit.1.thread.id)
    have hshown : (found g s q now).map (Summary.of g.tags collected) =
        (found g s q now).map (summary g s q) := by
      refine List.map_congr_left ?_
      intro hit hmem
      unfold Summary.of summary
      rw [hcollected _ (List.mem_map_of_mem hmem)]
    rw [← hshown]
    exact hyields.map _

/-- An accepted request is answered if its calls are. -/
theorem run_of_valid {r : Request} (h : r.validate now = .ok q) (e : Engine) :
    run (s.backend e) g r now = e.reply (asked g s q now) (answer g s q now) := by
  have hyields : (execute (s.backend e) g q (q.compile g.tags) now).Yields e (asked g s q now)
      (answer g s q now) := yields_execute
  have hexecute := hyields []
  rw [Engine.reply_eq]
  unfold run
  rw [h]
  dsimp only
  rw [hexecute]
  rfl

/-- There is no other way to describe all runs of a request by its calls and its page. -/
lemma eq_of_runs {r : Request} (h : r.validate now = .ok q) {calls : List Call} {page : Page}
    (hrun : ∀ e, run (s.backend e) g r now = e.reply calls page) :
    asked g s q now = calls ∧ answer g s q now = page :=
  Engine.eq_of_replies fun e => (run_of_valid h e).symm.trans (hrun e)

/-- A thread is stored under its id only. -/
lemma eq_of_id_eq (hs : Store.Sound s) {t u : Thread} (ht : t ∈ s.threads.values)
    (hu : u ∈ s.threads.values) (hid : t.id = u.id) : t = u := by
  obtain ⟨k, hk⟩ := Table.mem_values.mp ht
  obtain ⟨l, hl⟩ := Table.mem_values.mp hu
  have hkl : k = l := by
    rw [← hs.thread_id k t hk, ← hs.thread_id l u hl]
    exact hid
  rw [hkl, hl] at hk
  exact (Option.some.inj hk).symm

/-- What is on a page are records of candidates. -/
lemma mem_found (hs : Store.Sound s) {hit : ThreadRecord × Option Float}
    (h : hit ∈ found g s q now) :
    ∃ t ∈ s.candidates (q.compile g.tags).filter, hit.1 = s.record t := by
  unfold found at h
  cases hc : sortColumn? q with
  | some column =>
    rw [hc] at h
    obtain ⟨r, hr, rfl⟩ := List.mem_map.mp h
    obtain ⟨t, ht, rfl⟩ := List.mem_map.mp hr
    refine ⟨t, ?_, rfl⟩
    have hsorted : t ∈ (s.candidates (q.compile g.tags).filter).mergeSort
        (s.inOrder (pageOrder q column)) := by
      unfold Store.cut at ht
      split_ifs at ht
      · exact List.mem_of_mem_drop ht
      · exact List.mem_of_mem_drop (List.mem_of_mem_take ht)
    exact List.mem_mergeSort.mp hsorted
  | none =>
    rw [hc] at h
    obtain ⟨t, ht, hrecord⟩ := List.mem_map.mp (mem_pairUp h)
    obtain ⟨hstored, hid⟩ := List.mem_filter.mp ht
    -- The record was read by the id of a ranked row, which is the id of a candidate.
    obtain ⟨row, hrow, hrowid⟩ := List.mem_map.mp (List.contains_iff_mem.mp hid)
    obtain ⟨ranked, hranked, rfl⟩ := List.mem_map.mp hrow
    have hmem := List.mem_of_mem_drop (List.mem_of_mem_take hranked)
    obtain ⟨rankRow, hrankRow, rfl⟩ := List.mem_map.mp (List.mem_mergeSort.mp hmem)
    obtain ⟨u, hu, rfl⟩ := List.mem_map.mp hrankRow
    have husaved : u ∈ s.threads.values := ((Store.mem_candidates s u).mp hu).1
    have htu : u = t := eq_of_id_eq hs husaved hstored hrowid
    exact ⟨t, htu ▸ hu, hrecord.symm⟩

end Search

end ForumSearch
