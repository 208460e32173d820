import ForumSearch.Table.Basic
import Mathlib

/-!
# Rows of tables

What an insertion and a removal do to the rows of a table as a whole, so that rows can be counted
and listed without looking at their order.
-/

namespace ForumSearch.Table

variable {κ ν : Type} [DecidableEq κ] [Key κ]

omit [DecidableEq κ] in
lemma nodup_keys (t : Table κ ν) : t.keys.Nodup := by
  have hs : t.keys.Pairwise fun a b => Key.lt a b = true := List.pairwise_map.mpr t.sorted
  refine hs.imp ?_
  rintro a b hab rfl
  rw [Key.lt_irrefl] at hab
  exact Bool.false_ne_true hab

omit [DecidableEq κ] in
lemma nodup_rows (t : Table κ ν) : t.rows.Nodup :=
  (nodup_keys t).of_map _

lemma mem_values {t : Table κ ν} {v : ν} : v ∈ t.values ↔ ∃ k, t.get? k = some v := by
  simp only [values, List.mem_map, get?_eq_some_iff]
  constructor
  · rintro ⟨⟨k, w⟩, hr, rfl⟩
    exact ⟨k, hr⟩
  · rintro ⟨k, hr⟩
    exact ⟨(k, v), hr, rfl⟩

lemma contains_iff {t : Table κ ν} {k : κ} : t.contains k = true ↔ ∃ v, t.get? k = some v :=
  Option.isSome_iff_exists

lemma not_contains_iff {t : Table κ ν} {k : κ} : t.contains k = false ↔ t.get? k = none := by
  simp [contains]

lemma mem_keys {t : Table κ ν} {k : κ} : k ∈ t.keys ↔ t.contains k = true := by
  simp only [keys, List.mem_map, contains_iff, get?_eq_some_iff]
  constructor
  · rintro ⟨⟨k, v⟩, hrow, rfl⟩
    exact ⟨v, hrow⟩
  · rintro ⟨v, hrow⟩
    exact ⟨(k, v), hrow, rfl⟩

/-- Tables in which the same keys are present list them alike. -/
lemma keys_ext {s t : Table κ ν} (h : ∀ k, s.contains k = t.contains k) : s.keys = t.keys := by
  have hsorted (t : Table κ ν) : (t.keys.map fun k => (k, ())).Pairwise
      fun a b => Key.lt a.1 b.1 = true :=
    List.pairwise_map.mpr (List.pairwise_map.mpr t.sorted)
  have hrows : (s.keys.map fun k => (k, ())) = t.keys.map fun k => (k, ()) := by
    refine rows_eq_of_mem_iff (hsorted s) (hsorted t) ?_
    intro x
    simp only [List.mem_map, mem_keys, h]
  simpa [Function.comp_def] using congrArg (List.map (·.1)) hrows

/-- The row of a key stands beside the rows that its removal leaves. -/
lemma rows_perm_of_get? {t : Table κ ν} {k : κ} {v : ν} (h : t.get? k = some v) :
    t.rows.Perm ((k, v) :: (t.erase k).rows) := by
  have hnot : (k, v) ∉ (t.erase k).rows := by
    rw [← get?_eq_some_iff]
    simp
  refine (List.perm_ext_iff_of_nodup t.nodup_rows ((t.erase k).nodup_rows.cons hnot)).mpr ?_
  rintro ⟨k', v'⟩
  rw [List.mem_cons, ← get?_eq_some_iff, ← get?_eq_some_iff, get?_erase, Prod.mk.injEq]
  by_cases hk : k' = k
  · subst hk
    simp [h, eq_comm]
  · simp [hk]

lemma erase_insert (t : Table κ ν) (k : κ) (v : ν) : (t.insert k v).erase k = t.erase k := by
  apply ext_get?
  intro k'
  by_cases hk : k' = k
  · simp [hk]
  · simp [hk, Ne.symm hk]

/-- Rows of different keys can be put in one after the other in either order. -/
lemma insert_comm (t : Table κ ν) {k l : κ} (h : k ≠ l) (v w : ν) :
    (t.insert k v).insert l w = (t.insert l w).insert k v := by
  apply ext_get?
  intro m
  simp only [get?_insert]
  by_cases hk : k = m
  · have hl : l ≠ m := fun hl => h (hk.trans hl.symm)
    simp [hk, hl]
  · simp [hk]

/-- The rows of a key are the one that a look-up finds, if there is one. -/
lemma filter_key_rows (t : Table κ ν) (k : κ) :
    (t.rows.filter fun r => r.1 = k) = ((t.get? k).map (k, ·)).toList := by
  have hsorted : ((t.get? k).map (k, ·)).toList.Pairwise fun a b => Key.lt a.1 b.1 = true := by
    cases t.get? k with
    | none => exact .nil
    | some v => exact List.pairwise_singleton _ _
  refine rows_eq_of_mem_iff (t.sorted.filter _) hsorted ?_
  rintro ⟨l, v⟩
  rw [List.mem_filter, ← get?_eq_some_iff, Option.mem_toList,
    Option.map_eq_some_iff]
  constructor
  · rintro ⟨hrow, hkey⟩
    obtain rfl : l = k := of_decide_eq_true hkey
    exact ⟨v, hrow, rfl⟩
  · rintro ⟨w, hw, hpair⟩
    obtain ⟨rfl, rfl⟩ := Prod.mk.inj hpair
    exact ⟨hw, decide_eq_true rfl⟩

lemma erase_of_get?_eq_none {t : Table κ ν} {k : κ} (h : t.get? k = none) : t.erase k = t := by
  apply ext_get?
  intro k'
  by_cases hk : k' = k
  · simp [hk, h]
  · simp [hk]

/-- What the values of a table add up to, the value of one key apart. -/
lemma sum_values_erase (t : Table κ ν) (k : κ) (f : ν → Int) :
    (t.values.map f).sum = ((t.erase k).values.map f).sum + ((t.get? k).map f).getD 0 := by
  cases h : t.get? k with
  | none => simp [erase_of_get?_eq_none h]
  | some v =>
    have hperm : (t.values.map f).Perm (f v :: (t.erase k).values.map f) :=
      ((rows_perm_of_get? h).map Prod.snd).map f
    rw [hperm.sum_eq, List.sum_cons, add_comm]
    rfl

lemma sum_values_insert (t : Table κ ν) (k : κ) (v : ν) (f : ν → Int) :
    ((t.insert k v).values.map f).sum =
      (t.values.map f).sum - ((t.get? k).map f).getD 0 + f v := by
  rw [sum_values_erase (t.insert k v) k, sum_values_erase t k, erase_insert]
  simp

end ForumSearch.Table
