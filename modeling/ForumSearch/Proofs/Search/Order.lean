import ForumSearch.Proofs.Ranking.Rank
import ForumSearch.Proofs.Search.Candidates
import ForumSearch.Proofs.Store.History
import ForumSearch.Store.Read

/-!
# The order of search results

Candidates are ordered by a column or by a score, in the requested direction, ties by thread. The
store orders by a column and the ranking by a score, each with a comparison of its own; both come to
this order.
-/

namespace ForumSearch

/-- What a direction makes of the order of smaller and greater. -/
def Direction.Orders {α : Type} (d : Direction) (less : α → α → Prop) (a b : α) : Prop :=
  match d with
  | .ascending => less a b
  | .descending => less b a

namespace Search

/-- A missing key is smaller than all others. -/
def orBottom : Option Int → WithBot ℤ
  | some n => n
  | none => ⊥

/-- The column that results are ordered by, unless they are by score. -/
def sortColumn? (q : Query) : Option SortColumn :=
  match q.sortMethod.effective with
  | .column column => some column
  | .comprehensive | .custom _ => none

section Specification

variable (g : SearchSettings) (s : Store) (q : Query) (now : Instant)

/-- The score of a thread by the votes on the included tags; minus infinity if it is no number. -/
def scoreOf (t : Thread) : Float :=
  let tagIds := g.tags.resolveAll q.includeTags
  let row : RankRow := ⟨t.id, t.lastActiveAt, t.reactions, s.votesFor t.id tagIds⟩
  let value := (Ranking.score g.ranking (!tagIds.isEmpty) now row).value
  if value.isNaN then -Float.inf else value

/-- The value of a thread in a column. Without a viewer, the time of collection is that of the last
activity. -/
def columnValue (column : SortColumn) (t : Thread) : WithBot ℤ :=
  match column with
  | .createdAt => t.createdAt.seconds
  | .lastActiveAt => t.lastActiveAt.seconds
  | .reactions => t.reactions
  | .replies => t.replies
  | .collectedAt =>
    match q.viewer with
    | some viewer => orBottom (s.collections.get? (viewer, t.id))
    | none => t.lastActiveAt.seconds

/-- Whether a thread has the smaller sort key. Scores are in the total order of numbers. -/
def Smaller (a b : Thread) : Prop :=
  match sortColumn? q with
  | some column => columnValue s q column a < columnValue s q column b
  | none => Binary64.Below (scoreOf g s q now a) (scoreOf g s q now b)

def SameKey (a b : Thread) : Prop :=
  match sortColumn? q with
  | some column => columnValue s q column a = columnValue s q column b
  | none => scoreOf g s q now a = scoreOf g s q now b

def Before (a b : Thread) : Prop :=
  q.direction.Orders (Smaller g s q now) a b ∨ SameKey g s q now a b ∧ a.id < b.id

/-- The candidates of a query, each once and in order. -/
structure Listing (threads : List Thread) : Prop where
  complete : ∀ t, t ∈ threads ↔
    t ∈ s.threads.values ∧ ∀ p ∈ (q.compile g.tags).filter, s.satisfies t p = true
  once : (threads.map Thread.id).Nodup
  sorted : threads.Pairwise (Before g s q now)

end Specification

section Key

variable (g : SearchSettings) (s : Store) (q : Query) (now : Instant)

/-- A number for the sort key of a thread, that of a score by its place among the numbers. -/
def key (t : Thread) : WithBot ℤ :=
  match sortColumn? q with
  | some column => columnValue s q column t
  | none => Ranking.place (scoreOf g s q now t)

/-- A comparison that puts no thread before one that it comes after. -/
def Respects (le : Thread → Thread → Bool) : Prop :=
  ∀ a b, le a b = true ↔
    q.direction.Orders (· < ·) (key g s q now a) (key g s q now b) ∨
      key g s q now a = key g s q now b ∧ a.id ≤ b.id

end Key

variable {g : SearchSettings} {s : Store} {q : Query} {now : Instant}

lemma isNaN_scoreOf (t : Thread) : (scoreOf g s q now t).isNaN = false := by
  unfold scoreOf
  simp only
  split_ifs with h
  · rw [← Ranking.lowest_eq]
    exact Ranking.isNaN_lowest
  · simpa using h

lemma key_lt_iff (a b : Thread) :
    key g s q now a < key g s q now b ↔ Smaller g s q now a b := by
  unfold key Smaller
  cases sortColumn? q with
  | some column => exact Iff.rfl
  | none =>
    rw [WithBot.coe_lt_coe]
    exact Ranking.place_lt_place (isNaN_scoreOf a) (isNaN_scoreOf b)

lemma key_eq_iff (a b : Thread) :
    key g s q now a = key g s q now b ↔ SameKey g s q now a b := by
  unfold key SameKey
  cases sortColumn? q with
  | some column => exact Iff.rfl
  | none =>
    rw [WithBot.coe_inj]
    exact Ranking.place_inj

lemma before_iff (a b : Thread) :
    Before g s q now a b ↔
      q.direction.Orders (· < ·) (key g s q now a) (key g s q now b) ∨
        key g s q now a = key g s q now b ∧ a.id < b.id := by
  unfold Before Direction.Orders
  rw [key_eq_iff]
  cases q.direction with
  | ascending => exact or_congr (key_lt_iff a b).symm Iff.rfl
  | descending => exact or_congr (key_lt_iff b a).symm Iff.rfl

lemma orders_trans {d : Direction} {x y z : WithBot ℤ} (hxy : d.Orders (· < ·) x y)
    (hyz : d.Orders (· < ·) y z) : d.Orders (· < ·) x z := by
  cases d
  · exact lt_trans hxy hyz
  · exact lt_trans hyz hxy

lemma orders_or_eq (d : Direction) (x y : WithBot ℤ) :
    d.Orders (· < ·) x y ∨ x = y ∨ d.Orders (· < ·) y x := by
  cases d
  · exact lt_trichotomy x y
  · rcases lt_trichotomy x y with h | h | h
    · exact .inr (.inr h)
    · exact .inr (.inl h)
    · exact .inl h

/-- Different stored threads have different ids. -/
lemma nodup_candidate_ids (hs : Store.Sound s) (filter : List Predicate) :
    ((s.candidates filter).map Thread.id).Nodup :=
  hs.nodup_ids.sublist (List.filter_sublist.map Thread.id)

namespace Respects

variable {le : Thread → Thread → Bool} (h : Respects g s q now le)

include h

lemma le_trans (a b c : Thread) (hab : le a b = true) (hbc : le b c = true) : le a c = true := by
  rw [h] at *
  rcases hab with hab | ⟨hab, hid⟩
  · rcases hbc with hbc | ⟨hbc, -⟩
    · exact .inl (orders_trans hab hbc)
    · exact .inl (hbc ▸ hab)
  · rcases hbc with hbc | ⟨hbc, hid'⟩
    · exact .inl (hab ▸ hbc)
    · exact .inr ⟨hab.trans hbc, hid.trans hid'⟩

lemma le_total (a b : Thread) : (le a b || le b a) = true := by
  rw [Bool.or_eq_true, h, h]
  rcases orders_or_eq q.direction (key g s q now a) (key g s q now b) with hk | hk | hk
  · exact .inl (.inl hk)
  · rcases Int.le_total a.id b.id with hid | hid
    · exact .inl (.inr ⟨hk, hid⟩)
    · exact .inr (.inr ⟨hk.symm, hid⟩)
  · exact .inr (.inl hk)

lemma before_of_le {a b : Thread} (hab : le a b = true) (hne : a.id ≠ b.id) :
    Before g s q now a b := by
  rw [before_iff]
  rcases (h a b).mp hab with hk | ⟨hk, hid⟩
  · exact .inl hk
  · exact .inr ⟨hk, lt_of_le_of_ne hid hne⟩

/-- Sorting the candidates by such a comparison lists them. -/
lemma listing (hs : Store.Sound s) :
    Listing g s q now ((s.candidates (q.compile g.tags).filter).mergeSort le) where
  complete t := by
    rw [(List.mergeSort_perm _ _).mem_iff, Store.mem_candidates]
  once := ((List.mergeSort_perm _ le).map Thread.id).nodup_iff.mpr (nodup_candidate_ids hs _)
  sorted := by
    have hperm := List.mergeSort_perm (s.candidates (q.compile g.tags).filter) le
    have hids : ((s.candidates (q.compile g.tags).filter).mergeSort le).Pairwise
        fun a b => a.id ≠ b.id :=
      List.pairwise_map.mp ((hperm.map Thread.id).nodup_iff.mpr (nodup_candidate_ids hs _))
    have hle := List.pairwise_mergeSort h.le_trans h.le_total
      (s.candidates (q.compile g.tags).filter)
    exact hle.imp₂ (fun a b hab hne => h.before_of_le hab hne) hids

end Respects

lemma keyLt_iff (x y : Option Int) : Store.keyLt x y = true ↔ orBottom x < orBottom y := by
  cases x <;> cases y <;> simp [Store.keyLt, orBottom]

lemma orBottom_inj {x y : Option Int} : orBottom x = orBottom y ↔ x = y := by
  cases x <;> cases y <;> simp [orBottom]

lemma key_of_column {column : SortColumn} (h : sortColumn? q = some column) (t : Thread) :
    key g s q now t = orBottom (s.sortKey (pageOrder q column) t) := by
  unfold key
  rw [h]
  unfold columnValue
  cases column with
  | collectedAt =>
    cases hv : q.viewer with
    | none => simp [Store.sortKey, pageOrder, hv, orBottom]
    | some viewer => simp [Store.sortKey, pageOrder, hv]
  | createdAt => simp [Store.sortKey, pageOrder, orBottom]
  | lastActiveAt => simp [Store.sortKey, pageOrder, orBottom]
  | reactions => simp [Store.sortKey, pageOrder, orBottom]
  | replies => simp [Store.sortKey, pageOrder, orBottom]

lemma inOrder_respects {column : SortColumn} (h : sortColumn? q = some column) :
    Respects g s q now (s.inOrder (pageOrder q column)) := by
  intro a b
  rw [key_of_column h, key_of_column h, orBottom_inj]
  unfold Store.inOrder Direction.Orders
  simp only [show (pageOrder q column).direction = q.direction from rfl]
  cases q.direction <;> simp [keyLt_iff]

/-- The row that the store hands over for the ranking of a thread. -/
def rankRow (g : SearchSettings) (s : Store) (q : Query) (t : Thread) : RankRow :=
  ⟨t.id, t.lastActiveAt, t.reactions, s.votesFor t.id (q.compile g.tags).tagIds⟩

def ranked (g : SearchSettings) (s : Store) (q : Query) (now : Instant) (t : Thread) :
    Ranking.Ranked :=
  Ranking.adjusted Ranking.noBoost g.ranking (!(q.compile g.tags).tagIds.isEmpty) now
    (rankRow g s q t)

lemma precedes_respects (h : sortColumn? q = none) :
    Respects g s q now fun a b =>
      Ranking.precedes q.direction (ranked g s q now a) (ranked g s q now b) := by
  have hkey (t : Thread) :
      key g s q now t = (Ranking.place (ranked g s q now t).score : WithBot ℤ) := by
    unfold key scoreOf
    rw [h, ← Ranking.lowest_eq]
    rfl
  have hid (t : Thread) : (ranked g s q now t).row.thread = t.id := rfl
  intro a b
  rw [hkey, hkey]
  unfold Ranking.precedes Direction.Orders
  simp only [hid]
  generalize Ranking.place (ranked g s q now a).score = x
  generalize Ranking.place (ranked g s q now b).score = y
  cases q.direction
  · simp
  · simp [@eq_comm _ y x]

end Search

end ForumSearch
