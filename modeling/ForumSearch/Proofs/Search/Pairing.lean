import ForumSearch.Search.Service
import Mathlib

/-!
# Rows paired with records

Ranked rows are paired with the records of their threads, whatever the two lists are. Each thread
that has both a row and a record is there once, in the order of the rows, with the score of its
first row and with its last record.
-/

namespace ForumSearch.Search

/-- Whether a record was answered for an id. -/
def hasRecord (records : List ThreadRecord) (id : Int) : Bool :=
  records.any (·.thread.id = id)

variable {rows : List (Int × Float)} {records records' : List ThreadRecord}
  {hit : ThreadRecord × Option Float} {r : ThreadRecord} {id : Int}

lemma mem_of_find? (h : (records.reverse.find? fun r => r.thread.id = id) = some r) :
    r ∈ records ∧ r.thread.id = id :=
  ⟨List.mem_reverse.mp (List.mem_of_find?_eq_some h), by simpa using List.find?_some h⟩

lemma hasRecord_eq_isSome (records : List ThreadRecord) (id : Int) :
    hasRecord records id = (records.reverse.find? fun r => r.thread.id = id).isSome := by
  rw [hasRecord, ← List.any_reverse, List.isSome_find?]

/-- A record that was taken is there no more for its thread. -/
lemma hasRecord_filter_ne (records : List ThreadRecord) (taken id : Int) :
    hasRecord (records.filter fun r => r.thread.id ≠ taken) id =
      (!(id == taken) && hasRecord records id) := by
  rw [Bool.eq_iff_iff]
  simp only [hasRecord, List.any_filter, List.any_eq_true, Bool.and_eq_true, decide_eq_true_eq,
    Bool.not_eq_true', beq_eq_false_iff_ne]
  constructor
  · rintro ⟨x, hx, hne, rfl⟩
    exact ⟨hne, x, hx, rfl⟩
  · rintro ⟨hne, x, hx, rfl⟩
    exact ⟨x, hx, hne, rfl⟩

lemma ids_pairUp (rows : List (Int × Float)) (records : List ThreadRecord) :
    (pairUp rows records).map (·.1.thread.id) =
      ((rows.map (·.1)).filter (hasRecord records)).eraseDups := by
  fun_induction pairUp rows records with
  | case1 => rfl
  | case2 id score rows records r hfind ih =>
    have hany : hasRecord records id = true := by rw [hasRecord_eq_isSome, hfind]; rfl
    -- A record is used up by the first row with its id, so later rows with this id find none.
    rw [List.map_cons, List.map_cons, ih, List.filter_cons_of_pos hany, List.eraseDups_cons,
      List.filter_filter, (mem_of_find? hfind).2, funext (hasRecord_filter_ne records id)]
  | case3 id score rows records hfind ih =>
    have hnone : ¬hasRecord records id = true := by simp [hasRecord_eq_isSome, hfind]
    rw [List.map_cons, List.filter_cons_of_neg hnone, ih]

lemma sublist_pairUp (rows : List (Int × Float)) (records : List ThreadRecord) :
    ((pairUp rows records).map (·.1.thread.id)).Sublist (rows.map (·.1)) := by
  fun_induction pairUp rows records with
  | case1 => exact .slnil
  | case2 id score rows records r hfind ih =>
    rw [List.map_cons, List.map_cons, (mem_of_find? hfind).2]
    exact ih.cons_cons id
  | case3 id score rows records hfind ih => exact ih.cons id

/-- A result has the last record and the first score of its thread. -/
lemma find?_of_mem_pairUp (h : hit ∈ pairUp rows records) :
    (records.reverse.find? fun r => r.thread.id = hit.1.thread.id) = some hit.1 ∧
      ∃ score, hit.2 = some score ∧
        (rows.find? fun row => row.1 = hit.1.thread.id) = some (hit.1.thread.id, score) := by
  fun_induction pairUp rows records with
  | case1 => exact absurd h List.not_mem_nil
  | case2 id score rows records r hfind ih =>
    obtain ⟨-, rfl⟩ := mem_of_find? hfind
    rcases List.mem_cons.mp h with rfl | h
    · exact ⟨hfind, score, rfl, List.find?_cons_of_pos (by simp)⟩
    · obtain ⟨hrecord, score', hscore, hrow⟩ := ih h
      have hne : hit.1.thread.id ≠ r.thread.id := by
        simpa using (List.mem_filter.mp (mem_of_find? hrecord).1).2
      refine ⟨?_, score', hscore, by rw [List.find?_cons_of_neg (by simpa using hne.symm), hrow]⟩
      rw [← List.filter_reverse, List.find?_filter] at hrecord
      rw [← hrecord]
      refine congrArg (List.find? · _) (funext fun x => ?_)
      rw [Bool.eq_iff_iff]
      simp only [decide_eq_true_eq]
      exact ⟨fun hx => ⟨hx ▸ hne, hx⟩, And.right⟩
  | case3 id score rows records hfind ih =>
    obtain ⟨hrecord, score', hscore, hrow⟩ := ih h
    have hne : id ≠ hit.1.thread.id := by
      rintro rfl
      rw [hrecord] at hfind
      exact absurd hfind (by simp)
    exact ⟨hrecord, score', hscore, by rw [List.find?_cons_of_neg (by simpa using hne), hrow]⟩

lemma mem_pairUp (h : hit ∈ pairUp rows records) : hit.1 ∈ records :=
  (mem_of_find? (find?_of_mem_pairUp h).1).1

lemma score_of_mem_pairUp (h : hit ∈ pairUp rows records) :
    ∃ score, hit.2 = some score ∧ (hit.1.thread.id, score) ∈ rows := by
  obtain ⟨-, score, hscore, hrow⟩ := find?_of_mem_pairUp h
  exact ⟨score, hscore, List.mem_of_find?_eq_some hrow⟩

/-- The row that takes a record leaves none of its thread. -/
lemma nodup_pairUp (rows : List (Int × Float)) (records : List ThreadRecord) :
    ((pairUp rows records).map (·.1.thread.id)).Nodup := by
  fun_induction pairUp rows records with
  | case1 => exact .nil
  | case2 id score rows records r hfind ih =>
    refine List.nodup_cons.mpr ⟨fun h => ?_, ih⟩
    obtain ⟨hit, hhit, hsame⟩ := List.mem_map.mp h
    have hleft := (List.mem_filter.mp (mem_pairUp hhit)).2
    simp [hsame, (mem_of_find? hfind).2] at hleft
  | case3 id score rows records hfind ih => exact ih

lemma find?_eq_some_iff_of_nodup (hdistinct : (records.map (·.thread.id)).Nodup) (id : Int)
    (r : ThreadRecord) :
    (records.reverse.find? fun x => x.thread.id = id) = some r ↔
      r ∈ records ∧ r.thread.id = id := by
  refine ⟨mem_of_find?, ?_⟩
  rintro ⟨hr, rfl⟩
  have hany : hasRecord records r.thread.id = true :=
    List.any_eq_true.mpr ⟨r, hr, decide_eq_true rfl⟩
  rw [hasRecord_eq_isSome] at hany
  obtain ⟨r', hr'⟩ := Option.isSome_iff_exists.mp hany
  obtain ⟨hmem, hid⟩ := mem_of_find? hr'
  rw [hr', List.inj_on_of_nodup_map hdistinct hmem hr hid]

/-- The order of records does not matter if no two are of one thread. -/
lemma pairUp_congr_perm (h : records'.Perm records)
    (hdistinct : (records.map (·.thread.id)).Nodup) :
    pairUp rows records' = pairUp rows records := by
  induction rows generalizing records records' with
  | nil => rfl
  | cons row rows ih =>
    have hdistinct' : (records'.map (·.thread.id)).Nodup := (h.map _).nodup_iff.mpr hdistinct
    have hfind : (records'.reverse.find? fun r => r.thread.id = row.1) =
        records.reverse.find? fun r => r.thread.id = row.1 := by
      refine Option.ext fun r => ?_
      rw [find?_eq_some_iff_of_nodup hdistinct', find?_eq_some_iff_of_nodup hdistinct, h.mem_iff]
    rw [pairUp, pairUp, hfind]
    cases records.reverse.find? fun r => r.thread.id = row.1 with
    | none => exact ih h hdistinct
    | some r =>
      exact congrArg _ (ih (h.filter _) (hdistinct.sublist (List.filter_sublist.map _)))

end ForumSearch.Search
