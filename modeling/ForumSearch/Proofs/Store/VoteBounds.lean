import ForumSearch.Proofs.Store.History
import ForumSearch.Store.Read

/-!
# How far votes count

A vote moves each counter of its link by one at most, and no other write moves a counter away from
zero. All counters of a store together are therefore bounded by the number of its writes.
-/

namespace ForumSearch

/-- How far counters are from zero. -/
def Counters.weight (c : Counters) : Int := |c.up| + |c.down|

lemma Counters.weight_nonneg (c : Counters) : 0 ≤ c.weight :=
  add_nonneg (abs_nonneg _) (abs_nonneg _)

lemma Counters.weight_add (a b : Counters) : (a.add b).weight ≤ a.weight + b.weight := by
  have hup : |a.up + b.up| ≤ |a.up| + |b.up| := abs_add_le _ _
  have hdown : |a.down + b.down| ≤ |a.down| + |b.down| := abs_add_le _ _
  simp only [weight, add]
  omega

lemma Transition.weight_change (t : Transition) : t.change.weight ≤ 2 := by
  cases t with
  | created b => cases b <;> decide
  | retracted b => cases b <;> decide
  | switched old new => cases old <;> cases new <;> decide

namespace Store

/-- How far all counters of some links are from zero. -/
def weight (links : Table (Int × Int) Counters) : Int :=
  (links.values.map Counters.weight).sum

lemma weight_addLink (links : Table (Int × Int) Counters) (thread tag : Int) :
    weight (addLink thread links tag) = weight links := by
  unfold addLink
  by_cases h : links.contains (thread, tag) = true
  · rw [if_pos h]
  · have hnone := Table.not_contains_iff.mp (Bool.not_eq_true _ ▸ h)
    have hzero : Counters.zero.weight = 0 := by decide
    rw [if_neg h, weight, Table.sum_values_insert, hnone, hzero]
    simp [weight]

lemma weight_relink (links : Table (Int × Int) Counters) (thread : Int) (tagIds : List Int) :
    weight (relink links thread tagIds) ≤ weight links := by
  have hadded (links : Table (Int × Int) Counters) :
      weight (tagIds.foldl (addLink thread) links) = weight links := by
    induction tagIds generalizing links with
    | nil => rfl
    | cons tag tagIds ih => rw [List.foldl_cons, ih, weight_addLink]
  have hkept : (links.filter fun k _ => k.1 ≠ thread || tagIds.contains k.2).values.Sublist
      links.values := List.filter_sublist.map _
  rw [relink, hadded]
  refine (hkept.map Counters.weight).sum_le_sum ?_
  exact List.forall_mem_map.mpr fun c _ => c.weight_nonneg

/-- What one write adds. -/
lemma weight_write (s : Store) (w : Write) : weight (s.write w).links ≤ weight s.links + 2 := by
  cases w with
  | thread t tagIds =>
    have hrelink : weight (s.write (.thread t tagIds)).links ≤ weight s.links :=
      weight_relink s.links t.id tagIds
    omega
  | vote v =>
    rw [write]
    cases h : s.links.get? (v.thread, v.tag) with
    | none =>
      rw [applyVote_of_unlinked h]
      exact Int.le_add_of_nonneg_right (by decide)
    | some c =>
      rw [applyVote_of_linked h]
      dsimp only
      set t := Transition.plan
        ((s.votes.get? (v.user, v.thread, v.tag)).bind Ballot.ofInt?) v.ballot
      have hadd := c.weight_add t.change
      have hchange := t.weight_change
      rw [weight, Table.sum_values_insert, h, Option.map_some, Option.getD_some, ← weight]
      omega
  | author _ | tag _ | collect _ _ _ => exact Int.le_add_of_nonneg_right (by decide)

lemma weight_after (history : List Write) :
    weight (after history).links ≤ 2 * history.length := by
  induction history using List.reverseRecOn with
  | nil => decide
  | append_singleton history w ih =>
    have hwrite := weight_write (after history) w
    rw [after_append_singleton, List.length_append, List.length_singleton]
    push_cast
    omega

lemma sum_weight_linksOf (s : Store) (thread : Int) :
    ((s.linksOf thread).map fun link => link.counters.weight).sum ≤ weight s.links := by
  have hsub : ((s.linksOf thread).map fun link => link.counters).Sublist s.links.values := by
    rw [linksOf, List.map_map]
    exact List.filter_sublist.map Prod.snd
  have hsum := (hsub.map Counters.weight).sum_le_sum
    (List.forall_mem_map.mpr fun c _ => c.weight_nonneg)
  rwa [List.map_map] at hsum

/-- The counters of a thread are bounded by the number of writes. -/
theorem sum_weight_linksOf_after (history : List Write) (thread : Int) :
    (((after history).linksOf thread).map fun link => link.counters.weight).sum ≤
      2 * history.length :=
  (sum_weight_linksOf _ thread).trans (weight_after history)

end Store

end ForumSearch
