import ForumSearch.Table.Key

/-!
Tables: finite maps kept as rows in increasing order of their keys. Two tables that answer every
look-up alike are equal, so a table has no history.
-/

namespace ForumSearch

structure Table (κ ν : Type) [Key κ] where
  rows : List (κ × ν)
  sorted : rows.Pairwise fun a b => Key.lt a.1 b.1 = true

namespace Table

variable {κ ν : Type} [DecidableEq κ] [Key κ]

def empty : Table κ ν := ⟨[], .nil⟩

instance : Inhabited (Table κ ν) := ⟨empty⟩

def find (k : κ) : List (κ × ν) → Option ν
  | [] => none
  | r :: rest => if r.1 = k then some r.2 else find k rest

def get? (t : Table κ ν) (k : κ) : Option ν :=
  find k t.rows

def contains (t : Table κ ν) (k : κ) : Bool :=
  (t.get? k).isSome

def keys (t : Table κ ν) : List κ :=
  t.rows.map (·.1)

def values (t : Table κ ν) : List ν :=
  t.rows.map (·.2)

def size (t : Table κ ν) : Nat :=
  t.rows.length

def put (k : κ) (v : ν) : List (κ × ν) → List (κ × ν)
  | [] => [(k, v)]
  | r :: rest =>
    if Key.lt k r.1 then (k, v) :: r :: rest
    else if k = r.1 then (k, v) :: rest
    else r :: put k v rest

theorem mem_put {k : κ} {v : ν} {rows : List (κ × ν)} {x : κ × ν} (h : x ∈ put k v rows) :
    x = (k, v) ∨ x ∈ rows := by
  induction rows with
  | nil => simpa [put] using h
  | cons r rest ih =>
    simp only [put] at h
    split at h
    · simpa using h
    · split at h
      · rcases List.mem_cons.mp h with h | h
        · exact .inl h
        · exact .inr (List.mem_cons_of_mem _ h)
      · rcases List.mem_cons.mp h with h | h
        · exact .inr (h ▸ List.mem_cons_self)
        · exact (ih h).imp_right (List.mem_cons_of_mem _)

theorem sorted_put {k : κ} {v : ν} {rows : List (κ × ν)}
    (h : rows.Pairwise fun a b => Key.lt a.1 b.1 = true) :
    (put k v rows).Pairwise fun a b => Key.lt a.1 b.1 = true := by
  induction rows with
  | nil => simp [put]
  | cons r rest ih =>
    obtain ⟨hr, hs⟩ := List.pairwise_cons.mp h
    simp only [put]
    split
    next hk =>
      exact List.pairwise_cons.mpr
        ⟨fun x hx => (List.mem_cons.mp hx).elim (· ▸ hk) fun hx => Key.lt_trans hk (hr x hx), h⟩
    next hk =>
      split
      next he => exact List.pairwise_cons.mpr ⟨fun x hx => he ▸ hr x hx, hs⟩
      next hne =>
        refine List.pairwise_cons.mpr ⟨fun x hx => ?_, ih hs⟩
        rcases mem_put hx with rfl | hx
        · rcases Key.lt_or_eq r.1 k with h' | h' | h'
          · exact h'
          · exact absurd h'.symm hne
          · exact absurd h' hk
        · exact hr x hx

def insert (t : Table κ ν) (k : κ) (v : ν) : Table κ ν :=
  ⟨put k v t.rows, sorted_put t.sorted⟩

def filter (t : Table κ ν) (p : κ → ν → Bool) : Table κ ν :=
  ⟨t.rows.filter fun r => p r.1 r.2, t.sorted.filter _⟩

def erase (t : Table κ ν) (k : κ) : Table κ ν :=
  t.filter fun k' _ => k' ≠ k

def modify (t : Table κ ν) (k : κ) (f : ν → ν) : Table κ ν :=
  match t.get? k with
  | some v => t.insert k (f v)
  | none => t

/-- The value of the last row listed for a key counts. -/
def ofList (rows : List (κ × ν)) : Table κ ν :=
  rows.foldl (fun t r => t.insert r.1 r.2) empty

@[simp]
theorem get?_empty (k : κ) : (empty : Table κ ν).get? k = none := rfl

theorem find_put (k k' : κ) (v : ν) (rows : List (κ × ν)) :
    find k' (put k v rows) = if k = k' then some v else find k' rows := by
  induction rows with
  | nil => simp [put, find]
  | cons r rest ih =>
    simp only [put]
    split
    · simp [find]
    · split
      next he => simp only [find, he]; split <;> rfl
      next hne =>
        simp only [find, ih]
        split
        next h => rw [if_neg (fun h' => hne (h'.trans h.symm))]
        · rfl

@[simp]
theorem get?_insert (t : Table κ ν) (k k' : κ) (v : ν) :
    (t.insert k v).get? k' = if k = k' then some v else t.get? k' :=
  find_put k k' v t.rows

theorem find_eq_some_iff {rows : List (κ × ν)}
    (h : rows.Pairwise fun a b => Key.lt a.1 b.1 = true) {k : κ} {v : ν} :
    find k rows = some v ↔ (k, v) ∈ rows := by
  induction rows with
  | nil => simp [find]
  | cons r rest ih =>
    obtain ⟨hr, hs⟩ := List.pairwise_cons.mp h
    simp only [find]
    split
    next he =>
      subst he
      constructor
      · intro hv
        rw [← Option.some.inj hv]
        exact List.mem_cons_self
      · intro hm
        rcases List.mem_cons.mp hm with e | hm
        · rw [← e]
        · have := hr _ hm
          rw [Key.lt_irrefl] at this
          exact absurd this (by simp)
    next hne =>
      rw [ih hs, List.mem_cons]
      exact ⟨.inr, fun h => h.resolve_left fun e => hne (by rw [← e])⟩

theorem get?_eq_some_iff {t : Table κ ν} {k : κ} {v : ν} :
    t.get? k = some v ↔ (k, v) ∈ t.rows :=
  find_eq_some_iff t.sorted

theorem get?_filter (t : Table κ ν) (p : κ → ν → Bool) (k : κ) :
    (t.filter p).get? k = (t.get? k).filter (p k) := by
  apply Option.ext
  intro v
  rw [get?_eq_some_iff, Option.filter_eq_some_iff, get?_eq_some_iff]
  simp [filter]

@[simp]
theorem get?_erase (t : Table κ ν) (k k' : κ) :
    (t.erase k).get? k' = if k' = k then none else t.get? k' := by
  rw [erase, get?_filter]
  split
  next h => subst h; cases t.get? k' <;> simp
  next h => cases t.get? k' <;> simp [h]

omit [DecidableEq κ] in
theorem rows_eq_of_mem_iff {r s : List (κ × ν)}
    (hr : r.Pairwise fun a b => Key.lt a.1 b.1 = true)
    (hs : s.Pairwise fun a b => Key.lt a.1 b.1 = true)
    (h : ∀ x, x ∈ r ↔ x ∈ s) : r = s := by
  have asymm : ∀ {a b : κ}, Key.lt a b = true → Key.lt b a = true → False := fun h₁ h₂ => by
    have := Key.lt_trans h₁ h₂
    rw [Key.lt_irrefl] at this
    exact absurd this (by simp)
  induction r generalizing s with
  | nil => exact (List.eq_nil_iff_forall_not_mem.mpr fun x hx => by simpa using (h x).mpr hx).symm
  | cons a r ih =>
    obtain ⟨ha, hr⟩ := List.pairwise_cons.mp hr
    cases s with
    | nil => simpa using (h a).mp List.mem_cons_self
    | cons b s =>
      obtain ⟨hb, hs'⟩ := List.pairwise_cons.mp hs
      have hab : a = b := by
        rcases List.mem_cons.mp ((h a).mp List.mem_cons_self) with e | ma
        · exact e
        rcases List.mem_cons.mp ((h b).mpr List.mem_cons_self) with e | mb
        · exact e.symm
        · exact (asymm (ha b mb) (hb a ma)).elim
      subst hab
      congr 1
      refine ih hr hs' fun x => ⟨fun hx => ?_, fun hx => ?_⟩
      · rcases List.mem_cons.mp ((h x).mp (List.mem_cons_of_mem _ hx)) with e | hx'
        · exact (asymm (ha x hx) (e ▸ ha x hx)).elim
        · exact hx'
      · rcases List.mem_cons.mp ((h x).mpr (List.mem_cons_of_mem _ hx)) with e | hx'
        · exact (asymm (hb x hx) (e ▸ hb x hx)).elim
        · exact hx'

theorem ext_get? {s t : Table κ ν} (h : ∀ k, s.get? k = t.get? k) : s = t := by
  have : s.rows = t.rows := rows_eq_of_mem_iff s.sorted t.sorted fun ⟨k, v⟩ => by
    rw [← get?_eq_some_iff, ← get?_eq_some_iff, h]
  cases s
  cases t
  simp_all

end Table

end ForumSearch
