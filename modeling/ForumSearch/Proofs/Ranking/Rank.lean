import ForumSearch.Proofs.Number.TotalOrder
import ForumSearch.Ranking.Order
import Mathlib

/-!
# The ranking of rows

Rows are sorted by their adjusted scores in the total order of numbers, and rows of one score by
thread. As that order is total, the ranking of rows of distinct threads is the same however the
rows come in, and the two directions differ only in the order of the classes of one score.
-/

namespace ForumSearch

section Sorted

variable {α β : Type*} [LinearOrder β] {f : α → β}

lemma mem_iff_of_filter_eq {xs ys : List α}
    (h : ∀ k, xs.filter (f · = k) = ys.filter (f · = k)) (z : α) : z ∈ xs ↔ z ∈ ys := by
  have hz := congrArg (z ∈ ·) (h (f z))
  simpa using hz

/-- A sorted list is determined by what it lists under each key, in order. -/
lemma eq_of_filter_eq {xs ys : List α} (hxs : xs.Pairwise (f · ≤ f ·))
    (hys : ys.Pairwise (f · ≤ f ·))
    (h : ∀ k, xs.filter (f · = k) = ys.filter (f · = k)) : xs = ys := by
  induction xs generalizing ys with
  | nil =>
    cases ys with
    | nil => rfl
    | cons y ys => simpa using mem_iff_of_filter_eq h y
  | cons x xs ih =>
    cases ys with
    | nil => simpa using mem_iff_of_filter_eq h x
    | cons y ys =>
      rw [List.pairwise_cons] at hxs hys
      have hxy : f x ≤ f y := by
        rcases List.mem_cons.mp ((mem_iff_of_filter_eq h y).mpr List.mem_cons_self) with rfl | hy
        · exact le_rfl
        · exact hxs.1 y hy
      have hyx : f y ≤ f x := by
        rcases List.mem_cons.mp ((mem_iff_of_filter_eq h x).mp List.mem_cons_self) with rfl | hx
        · exact le_rfl
        · exact hys.1 x hx
      -- Both heads are the first entry under the least key.
      have hhead := h (f x)
      rw [List.filter_cons_of_pos (by simp),
        List.filter_cons_of_pos (by simpa using le_antisymm hyx hxy)] at hhead
      obtain ⟨rfl, -⟩ := List.cons.inj hhead
      have htail : ∀ k, xs.filter (f · = k) = ys.filter (f · = k) := by
        intro k
        have hk := h k
        by_cases hx : f x = k
        · rw [List.filter_cons_of_pos (by simpa using hx),
            List.filter_cons_of_pos (by simpa using hx)] at hk
          exact (List.cons.inj hk).2
        · rwa [List.filter_cons_of_neg (by simpa using hx),
            List.filter_cons_of_neg (by simpa using hx)] at hk
      rw [ih hxs.2 hys.2 htail]

variable {le : α → α → Bool}

lemma trans_of_key (hle : ∀ a b, le a b = true ↔ f a ≤ f b) (a b c : α) (hab : le a b = true)
    (hbc : le b c = true) : le a c = true := by
  rw [hle] at hab hbc ⊢
  exact hab.trans hbc

lemma total_of_key (hle : ∀ a b, le a b = true ↔ f a ≤ f b) (a b : α) :
    (le a b || le b a) = true := by
  rw [Bool.or_eq_true, hle, hle]
  exact le_total _ _

lemma pairwise_mergeSort_of_key (hle : ∀ a b, le a b = true ↔ f a ≤ f b) (xs : List α) :
    (xs.mergeSort le).Pairwise (f · ≤ f ·) :=
  (List.pairwise_mergeSort (trans_of_key hle) (total_of_key hle) xs).imp fun hab =>
    (hle _ _).mp hab

/-- Sorting keeps the order of what has one key. -/
lemma filter_mergeSort (hle : ∀ a b, le a b = true ↔ f a ≤ f b) (xs : List α) (k : β) :
    (xs.mergeSort le).filter (f · = k) = xs.filter (f · = k) := by
  have hkey : (xs.filter (f · = k)).Pairwise fun a b => le a b = true := by
    refine List.pairwise_of_forall_mem_list fun a ha b hb => ?_
    rw [hle, of_decide_eq_true (List.mem_filter.mp ha).2,
      of_decide_eq_true (List.mem_filter.mp hb).2]
  have hkept : (xs.filter (f · = k)).Sublist (xs.mergeSort le) :=
    List.sublist_mergeSort (trans_of_key hle) (total_of_key hle) hkey List.filter_sublist
  have hlisted := hkept.filter (f · = k)
  rw [List.filter_filter] at hlisted
  simp only [Bool.and_self] at hlisted
  exact (hlisted.eq_of_length ((List.mergeSort_perm xs le).filter _).length_eq.symm).symm

/-- The order of lists does not matter if only one of them has an entry. -/
lemma flatten_reverse_of_pairwise {ls : List (List α)}
    (h : ls.Pairwise fun l m => l = [] ∨ m = []) : ls.reverse.flatten = ls.flatten := by
  induction ls with
  | nil => rfl
  | cons l ls ih =>
    obtain ⟨hfirst, hrest⟩ := List.pairwise_cons.mp h
    rw [List.reverse_cons, List.flatten_append, ih hrest]
    by_cases hl : l = []
    · simp [hl]
    · have hnone : ls.flatten = [] := by
        rw [List.flatten_eq_nil_iff]
        exact fun m hm => (hfirst m hm).resolve_left hl
      simp [hnone]

end Sorted

namespace Ranking

/-- Whether a score comes before another one, in a direction. -/
def Before : Direction → Float → Float → Prop
  | .ascending, x, y => Binary64.Below x y
  | .descending, x, y => Binary64.Below y x

/-- Rows go by score, and rows of one score by thread, whatever the direction. -/
def InOrder (direction : Direction) (a b : Ranked) : Prop :=
  Before direction a.score b.score ∨ a.score = b.score ∧ a.row.thread ≤ b.row.thread

/-- A ranking of rows: each of them with its adjusted score, in order. -/
structure Ranks (boost : Boost) (c : RankingConfig Float) (byTag : Bool) (now : Instant)
    (direction : Direction) (rows : List RankRow) (ranked : List Ranked) : Prop where
  perm : (ranked.map Ranked.row).Perm rows
  score : ∀ x ∈ ranked, x.score =
    if (boost x.row (score c byTag now x.row).value).isNaN then -Float.inf
    else boost x.row (score c byTag now x.row).value
  number : ∀ x ∈ ranked, x.score.isNaN = false
  ordered : ranked.Pairwise (InOrder direction)

/-- The classes of one score that a ranking lists one after the other. -/
structure Ties (ranked : List Ranked) (classes : List (List Ranked)) : Prop where
  listed : classes.flatten = ranked
  nonempty : ∀ l ∈ classes, l ≠ []
  tied : ∀ l ∈ classes, ∀ x ∈ l, ∀ y ∈ l, x.score = y.score
  apart : classes.Pairwise fun l m => ∀ x ∈ l, ∀ y ∈ m, x.score ≠ y.score

lemma lowest_eq : lowest = -Float.inf := by decide +kernel

lemma isNaN_lowest : lowest.isNaN = false := by decide +kernel

lemma place_lt_place {x y : Float} (hx : x.isNaN = false) (hy : y.isNaN = false) :
    place x < place y ↔ Binary64.Below x y :=
  Binary64.orderKey_lt_iff hx hy

lemma place_inj {x y : Float} : place x = place y ↔ x = y :=
  Binary64.orderKey_inj

/-- What rows are sorted by: the place of the score, then the thread. -/
def sortKey (direction : Direction) (x : Ranked) : ℤ ×ₗ ℤ :=
  match direction with
  | .ascending => toLex (place x.score, x.row.thread)
  | .descending => toLex (-place x.score, x.row.thread)

lemma precedes_iff (direction : Direction) (a b : Ranked) :
    precedes direction a b = true ↔ sortKey direction a ≤ sortKey direction b := by
  cases direction with
  | ascending => simp [precedes, sortKey, Prod.Lex.toLex_le_toLex]
  | descending => simp [precedes, sortKey, Prod.Lex.toLex_le_toLex, eq_comm (a := place b.score)]

lemma inOrder_of_sortKey_le {direction : Direction} {a b : Ranked} (ha : a.score.isNaN = false)
    (hb : b.score.isNaN = false) (h : sortKey direction a ≤ sortKey direction b) :
    InOrder direction a b := by
  cases direction with
  | ascending =>
    rw [sortKey, sortKey, Prod.Lex.toLex_le_toLex] at h
    exact h.imp (place_lt_place ha hb).mp fun h => ⟨place_inj.mp h.1, h.2⟩
  | descending =>
    rw [sortKey, sortKey, Prod.Lex.toLex_le_toLex] at h
    exact h.imp (fun h => (place_lt_place hb ha).mp (neg_lt_neg_iff.mp h))
      fun h => ⟨place_inj.mp (neg_inj.mp h.1), h.2⟩

section Rank

variable (boost : Boost) (c : RankingConfig Float) (byTag : Bool) (now : Instant)

lemma adjusted_score (row : RankRow) :
    (adjusted boost c byTag now row).score =
      if (boost row (score c byTag now row).value).isNaN then -Float.inf
      else boost row (score c byTag now row).value := by
  rw [adjusted, lowest_eq]

lemma isNaN_adjusted (row : RankRow) : (adjusted boost c byTag now row).score.isNaN = false := by
  simp only [adjusted]
  split_ifs with h
  · exact isNaN_lowest
  · simpa using h

variable (direction : Direction) (rows : List RankRow)

lemma rank_perm :
    (rank boost c byTag now direction rows).Perm (rows.map (adjusted boost c byTag now)) :=
  List.mergeSort_perm _ _

variable {boost c byTag now direction rows} in
lemma mem_rank {x : Ranked} :
    x ∈ rank boost c byTag now direction rows ↔
      ∃ row ∈ rows, adjusted boost c byTag now row = x := by
  rw [(rank_perm ..).mem_iff, List.mem_map]

lemma rank_sorted :
    (rank boost c byTag now direction rows).Pairwise
      (sortKey direction · ≤ sortKey direction ·) :=
  pairwise_mergeSort_of_key (precedes_iff direction) _

lemma ranks_rank :
    Ranks boost c byTag now direction rows (rank boost c byTag now direction rows) where
  perm := by
    have hrows := (rank_perm boost c byTag now direction rows).map Ranked.row
    rwa [List.map_map, show Ranked.row ∘ adjusted boost c byTag now = id from rfl,
      List.map_id] at hrows
  score x hx := by
    obtain ⟨row, -, rfl⟩ := mem_rank.mp hx
    exact adjusted_score ..
  number x hx := by
    obtain ⟨row, -, rfl⟩ := mem_rank.mp hx
    exact isNaN_adjusted ..
  ordered := by
    refine (rank_sorted boost c byTag now direction rows).imp_of_mem fun ha hb h => ?_
    obtain ⟨row, -, rfl⟩ := mem_rank.mp ha
    obtain ⟨row', -, rfl⟩ := mem_rank.mp hb
    exact inOrder_of_sortKey_le (isNaN_adjusted ..) (isNaN_adjusted ..) h

lemma thread_eq_of_sortKey_eq {direction : Direction} {a b : Ranked}
    (h : sortKey direction a = sortKey direction b) : a.row.thread = b.row.thread := by
  cases direction <;> exact congrArg (fun k : ℤ ×ₗ ℤ => (ofLex k).2) h

/-- Rows of distinct threads are ranked alike in whatever order they come. -/
lemma rank_congr_perm {rows rows' : List RankRow} (hdistinct : (rows.map (·.thread)).Nodup)
    (h : rows'.Perm rows) :
    rank boost c byTag now direction rows' = rank boost c byTag now direction rows := by
  refine List.Perm.eq_of_pairwise (fun a b ha hb hab hba => ?_) (rank_sorted ..) (rank_sorted ..)
    ((rank_perm ..).trans ((h.map _).trans (rank_perm ..).symm))
  obtain ⟨row, hrow, rfl⟩ := mem_rank.mp ha
  obtain ⟨row', hrow', rfl⟩ := mem_rank.mp hb
  have hthread : row.thread = row'.thread := thread_eq_of_sortKey_eq (le_antisymm hab hba)
  rw [List.inj_on_of_nodup_map hdistinct (h.mem_iff.mp hrow) hrow' hthread]

end Rank

section Classes

variable {a b : Ranked} {l ranked : List Ranked} {classes : List (List Ranked)}

/-- An entry goes to the first class if it has the score of it. -/
lemma Ties.extend (h : Ties ranked ((b :: l) :: classes)) (hab : a.score = b.score) :
    Ties (a :: ranked) ((a :: b :: l) :: classes) where
  listed := congrArg (a :: ·) h.listed
  nonempty := List.forall_mem_cons.mpr ⟨by simp, (List.forall_mem_cons.mp h.nonempty).2⟩
  tied := by
    obtain ⟨hclass, hothers⟩ := List.forall_mem_cons.mp h.tied
    have hb : ∀ x ∈ a :: b :: l, x.score = b.score :=
      List.forall_mem_cons.mpr ⟨hab, fun x hx => hclass x hx b List.mem_cons_self⟩
    exact List.forall_mem_cons.mpr ⟨fun x hx y hy => (hb x hx).trans (hb y hy).symm, hothers⟩
  apart := by
    obtain ⟨hclass, hothers⟩ := List.pairwise_cons.mp h.apart
    refine List.pairwise_cons.mpr ⟨fun m hm => ?_, hothers⟩
    refine List.forall_mem_cons.mpr ⟨fun y hy => ?_, hclass m hm⟩
    rw [hab]
    exact hclass m hm b List.mem_cons_self y hy

/-- An entry is a class of its own if no other one has its score. -/
lemma Ties.push (h : Ties ranked classes) (hnew : ∀ x ∈ ranked, a.score ≠ x.score) :
    Ties (a :: ranked) ([a] :: classes) where
  listed := congrArg (a :: ·) h.listed
  nonempty := List.forall_mem_cons.mpr ⟨by simp, h.nonempty⟩
  tied := List.forall_mem_cons.mpr ⟨by simp, h.tied⟩
  apart := by
    refine List.pairwise_cons.mpr ⟨fun m hm => ?_, h.apart⟩
    simp only [List.mem_singleton, forall_eq]
    exact fun y hy => hnew y (h.listed ▸ List.mem_flatten.mpr ⟨m, hm, hy⟩)

lemma Ties.exists_first (h : Ties (b :: ranked) classes) :
    ∃ l others, classes = (b :: l) :: others := by
  cases classes with
  | nil => exact absurd h.listed (by simp)
  | cons first others =>
    obtain ⟨x, l, rfl⟩ := List.exists_cons_of_ne_nil (h.nonempty first List.mem_cons_self)
    obtain ⟨rfl, -⟩ := List.cons.inj h.listed
    exact ⟨l, others, rfl⟩

/-- A list that falls by score lists its classes of one score one after the other. -/
lemma exists_ties (h : ranked.Pairwise fun a b => place b.score ≤ place a.score) :
    ∃ classes, Ties ranked classes := by
  induction ranked with
  | nil => exact ⟨[], rfl, by simp, by simp, .nil⟩
  | cons a ranked ih =>
    obtain ⟨hfirst, hrest⟩ := List.pairwise_cons.mp h
    obtain ⟨classes, hties⟩ := ih hrest
    cases ranked with
    | nil => exact ⟨_, hties.push (by simp)⟩
    | cons b ranked =>
      by_cases hab : a.score = b.score
      · obtain ⟨l, others, rfl⟩ := hties.exists_first
        exact ⟨_, hties.extend hab⟩
      · refine ⟨_, hties.push fun x hx hax => hab (place_inj.mp (le_antisymm ?_ ?_))⟩
        · rw [hax]
          rcases List.mem_cons.mp hx with rfl | hx
          · exact le_rfl
          · exact (List.pairwise_cons.mp hrest).1 x hx
        · exact hfirst b List.mem_cons_self

lemma Ties.reverse (h : Ties ranked classes) : Ties classes.reverse.flatten classes.reverse where
  listed := rfl
  nonempty l hl := h.nonempty l (List.mem_reverse.mp hl)
  tied l hl := h.tied l (List.mem_reverse.mp hl)
  apart := List.pairwise_reverse.mpr (h.apart.imp fun hlm y hy x hx => (hlm x hx y hy).symm)

end Classes

section Directions

variable (boost : Boost) (c : RankingConfig Float) (byTag : Bool) (now : Instant)
  (rows : List RankRow)

lemma place_le_of_sortKey_le {a b : Ranked}
    (h : sortKey .descending a ≤ sortKey .descending b) :
    place b.score ≤ place a.score ∧ (a.score = b.score → a.row.thread ≤ b.row.thread) := by
  rw [sortKey, sortKey, Prod.Lex.toLex_le_toLex] at h
  simp only at h
  refine ⟨by omega, fun hscore => ?_⟩
  rw [hscore] at h
  omega

lemma sortKey_ascending_le {a b : Ranked} :
    sortKey .ascending a ≤ sortKey .ascending b ↔
      place a.score < place b.score ∨ a.score = b.score ∧ a.row.thread ≤ b.row.thread := by
  rw [sortKey, sortKey, Prod.Lex.toLex_le_toLex]
  simp only [place_inj]

/-- The classes of the descending ranking, in reverse order, are sorted for the ascending one. -/
lemma ascending_reverse_ties {ranked : List Ranked} {classes : List (List Ranked)}
    (hties : Ties ranked classes)
    (hranked : ranked.Pairwise (sortKey .descending · ≤ sortKey .descending ·)) :
    classes.reverse.flatten.Pairwise (sortKey .ascending · ≤ sortKey .ascending ·) := by
  rw [← hties.listed, List.pairwise_flatten] at hranked
  obtain ⟨hwithin, hacross⟩ := hranked
  rw [List.pairwise_flatten, List.pairwise_reverse]
  refine ⟨fun l hl => ?_, ?_⟩
  · rw [List.mem_reverse] at hl
    refine (hwithin l hl).imp_of_mem fun ha hb h => ?_
    have hscore := hties.tied l hl _ ha _ hb
    exact sortKey_ascending_le.mpr (.inr ⟨hscore, (place_le_of_sortKey_le h).2 hscore⟩)
  · refine (hacross.and hties.apart).imp fun ⟨hle, hne⟩ y hy x hx => ?_
    refine sortKey_ascending_le.mpr (.inl (lt_of_le_of_ne (place_le_of_sortKey_le ?_).1 ?_))
    · exact hle x hx y hy
    · exact fun h => hne x hx y hy (place_inj.mp h).symm

/-- Entries of one sort key are in one class. -/
lemma filter_reverse_ties {ranked : List Ranked} {classes : List (List Ranked)}
    (hties : Ties ranked classes) (k : ℤ ×ₗ ℤ) :
    classes.reverse.flatten.filter (sortKey .ascending · = k) =
      ranked.filter (sortKey .ascending · = k) := by
  rw [← hties.listed, List.filter_flatten, List.filter_flatten, List.map_reverse]
  refine flatten_reverse_of_pairwise (List.pairwise_map.mpr (hties.apart.imp fun {l m} h => ?_))
  by_contra! hboth
  obtain ⟨x, hx⟩ := List.exists_mem_of_ne_nil _ hboth.1
  obtain ⟨y, hy⟩ := List.exists_mem_of_ne_nil _ hboth.2
  simp only [List.mem_filter, decide_eq_true_eq] at hx hy
  have hkey : sortKey .ascending x = sortKey .ascending y := hx.2.trans hy.2.symm
  have hplace : place x.score = place y.score :=
    congrArg (fun k : ℤ ×ₗ ℤ => (ofLex k).1) hkey
  exact h x hx.1 y hy.1 (place_inj.mp hplace)

lemma sortKey_ascending_eq_iff {k : ℤ ×ₗ ℤ} {x : Ranked} :
    sortKey .ascending x = k ↔
      sortKey .descending x = toLex (-(ofLex k).1, (ofLex k).2) := by
  simp [sortKey, ← ofLex_inj, Prod.ext_iff]

/-- The ascending ranking is the descending one with its classes of one score in reverse order. -/
lemma exists_ties_rank :
    ∃ classes, Ties (rank boost c byTag now .descending rows) classes ∧
      Ties (rank boost c byTag now .ascending rows) classes.reverse := by
  have hsorted := rank_sorted boost c byTag now .descending rows
  obtain ⟨classes, hties⟩ := exists_ties (hsorted.imp fun h => (place_le_of_sortKey_le h).1)
  have hascending : classes.reverse.flatten = rank boost c byTag now .ascending rows := by
    refine eq_of_filter_eq (ascending_reverse_ties hties hsorted)
      (rank_sorted boost c byTag now .ascending rows) fun k => ?_
    -- Neither sort moves entries of one key past each other.
    rw [filter_reverse_ties hties, rank, rank, filter_mergeSort (precedes_iff .ascending)]
    simp only [sortKey_ascending_eq_iff]
    exact filter_mergeSort (precedes_iff .descending) _ _
  exact ⟨classes, hties, hascending ▸ hties.reverse⟩

end Directions

/-- Ranking sorts the rows by their adjusted scores, with ties by thread. Rows of distinct threads
are ranked alike in whatever order they come, and the two directions list the same classes of tied
scores in opposite orders. -/
theorem rank_orders (boost : Boost) (c : RankingConfig Float) (byTag : Bool) (now : Instant)
    (rows : List RankRow) :
    (∀ direction, Ranks boost c byTag now direction rows
        (rank boost c byTag now direction rows)) ∧
      ((rows.map (·.thread)).Nodup → ∀ direction rows', rows'.Perm rows →
        rank boost c byTag now direction rows' = rank boost c byTag now direction rows) ∧
      ∃ classes, Ties (rank boost c byTag now .descending rows) classes ∧
        Ties (rank boost c byTag now .ascending rows) classes.reverse :=
  ⟨fun direction => ranks_rank boost c byTag now direction rows,
    fun hdistinct direction _ hperm => rank_congr_perm boost c byTag now direction hdistinct hperm,
    exists_ties_rank boost c byTag now rows⟩

/-- Two threads with the scores zero and minus zero and one whose score is not a number. -/
theorem rank_orders_signed_zeros :
    let boost : Boost := fun row _ =>
      if row.thread = 1 then 0 else if row.thread = 2 then -0 else Float.nan
    let row : Int → RankRow := fun thread => ⟨thread, ⟨0, 0⟩, 0, ⟨0, 0⟩⟩
    ([1, 2, 3].map row |>.map (·.thread)).Nodup ∧
      rank boost .standard false ⟨0, 0⟩ .descending ([3, 1, 2].map row) =
        rank boost .standard false ⟨0, 0⟩ .descending ([1, 2, 3].map row) := by
  intro boost row
  exact ⟨by decide, (rank_orders boost .standard false ⟨0, 0⟩ ([1, 2, 3].map row)).2.1
    (by decide) .descending _ (by decide)⟩

end Ranking

end ForumSearch
