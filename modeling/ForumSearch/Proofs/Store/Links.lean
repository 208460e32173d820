import ForumSearch.Proofs.Store.History
import ForumSearch.Store.Read

/-!
# Links of a thread

The links of a thread are read in increasing order of its tags, and a write of the thread makes them
its listed tags. A tag that stays keeps its counters and a new one starts from zero, in whatever
order and however often the tags are listed.
-/

namespace ForumSearch.Store

/-- The tags of a thread are found in the keys of the links. -/
lemma map_tag_linksOf (s : Store) (thread : Int) :
    (s.linksOf thread).map (·.tag) =
      (s.links.keys.filter fun k => k.1 = thread).map (·.2) := by
  rw [linksOf, Table.keys, List.filter_map, List.map_map, List.map_map]
  rfl

lemma mem_linksOf {s : Store} {thread : Int} {l : Link} :
    l ∈ s.linksOf thread ↔
      l.thread = thread ∧ s.links.get? (thread, l.tag) = some l.counters := by
  simp only [linksOf, List.mem_map, List.mem_filter, decide_eq_true_eq, Table.get?_eq_some_iff]
  constructor
  · rintro ⟨⟨⟨th, tag⟩, c⟩, ⟨hrow, rfl⟩, rfl⟩
    exact ⟨rfl, hrow⟩
  · obtain ⟨th, tag, c⟩ := l
    rintro ⟨rfl, hrow⟩
    exact ⟨((th, tag), c), ⟨hrow, rfl⟩, rfl⟩

lemma mem_map_tag_linksOf {s : Store} {thread tag : Int} :
    tag ∈ (s.linksOf thread).map (·.tag) ↔ s.links.contains (thread, tag) = true := by
  rw [List.mem_map, Table.contains_iff]
  constructor
  · rintro ⟨l, hl, rfl⟩
    exact ⟨l.counters, (mem_linksOf.mp hl).2⟩
  · rintro ⟨c, hc⟩
    exact ⟨⟨thread, tag, c⟩, mem_linksOf.mpr ⟨rfl, hc⟩, rfl⟩

lemma increasing_tags_linksOf (s : Store) (thread : Int) :
    ((s.linksOf thread).map (·.tag)).Pairwise (· < ·) := by
  rw [map_tag_linksOf, List.pairwise_map, List.pairwise_filter]
  have hsorted : s.links.keys.Pairwise fun a b => Key.lt a b = true :=
    List.pairwise_map.mpr s.links.sorted
  refine hsorted.imp ?_
  intro a b hab ha hb
  have hthread : a.1 = b.1 := (of_decide_eq_true ha).trans (of_decide_eq_true hb).symm
  rcases Key.pairLt_iff.mp hab with hlt | ⟨-, hlt⟩
  · rw [hthread, Key.lt_irrefl] at hlt
    exact absurd hlt Bool.false_ne_true
  · exact of_decide_eq_true hlt

/-- The counters of a tag of a thread; those of a tag that the thread does not carry are zero. -/
def countersOf (s : Store) (thread tag : Int) : Counters :=
  (s.links.get? (thread, tag)).getD .zero

lemma countersOf_of_mem {s : Store} {thread : Int} {l : Link} (h : l ∈ s.linksOf thread) :
    s.countersOf thread l.tag = l.counters := by
  rw [countersOf, (mem_linksOf.mp h).2, Option.getD_some]

lemma foldl_add_counters (links : List Link) (c : Counters) :
    links.foldl (fun sum l => sum.add l.counters) c =
      ⟨c.up + (links.map (·.counters.up)).sum, c.down + (links.map (·.counters.down)).sum⟩ := by
  induction links generalizing c with
  | nil => simp
  | cons l links ih =>
    rw [List.foldl_cons, ih]
    simp [Counters.add, Int.add_assoc]

/-- A number read off the counters, summed over the links to some tags, is summed over the tags. -/
lemma sum_linksOf (s : Store) (thread : Int) (tagIds : List Int) {f : Counters → Int}
    (hf : f .zero = 0) :
    (((s.linksOf thread).filter fun l => tagIds.contains l.tag).map (f ·.counters)).sum =
      ∑ tag ∈ tagIds.toFinset, f (s.countersOf thread tag) := by
  set chosen := (s.linksOf thread).filter fun l => tagIds.contains l.tag with hchosen
  have hnodup : (chosen.map (·.tag)).Nodup := by
    have htags : ((s.linksOf thread).map (·.tag)).Nodup :=
      (increasing_tags_linksOf s thread).imp ne_of_lt
    exact htags.sublist (List.filter_sublist.map _)
  have hlinks : chosen.map (f ·.counters) =
      (chosen.map (·.tag)).map fun tag => f (s.countersOf thread tag) := by
    rw [List.map_map]
    refine List.map_congr_left ?_
    intro l hl
    rw [Function.comp_apply, countersOf_of_mem (List.mem_of_mem_filter hl)]
  rw [hlinks, ← List.sum_toFinset _ hnodup]
  apply Finset.sum_subset
  · intro tag htag
    obtain ⟨l, hl, rfl⟩ := List.mem_map.mp (List.mem_toFinset.mp htag)
    exact List.mem_toFinset.mpr (List.contains_iff_mem.mp (List.mem_filter.mp hl).2)
  · intro tag htag hnot
    -- A listed tag that is not among the chosen ones is not a tag of the thread.
    have hnone : s.links.get? (thread, tag) = none := by
      rw [Option.eq_none_iff_forall_ne_some]
      intro c hc
      refine hnot (List.mem_toFinset.mpr (List.mem_map.mpr ⟨⟨thread, tag, c⟩, ?_, rfl⟩))
      exact List.mem_filter.mpr
        ⟨mem_linksOf.mpr ⟨rfl, hc⟩, List.contains_iff_mem.mpr (List.mem_toFinset.mp htag)⟩
    rw [countersOf, hnone, Option.getD_none, hf]

lemma votesFor_eq (s : Store) (thread : Int) (tagIds : List Int) :
    s.votesFor thread tagIds =
      ⟨∑ tag ∈ tagIds.toFinset, (s.countersOf thread tag).up,
        ∑ tag ∈ tagIds.toFinset, (s.countersOf thread tag).down⟩ := by
  rw [votesFor, foldl_add_counters, sum_linksOf s thread tagIds (f := Counters.up) rfl,
    sum_linksOf s thread tagIds (f := Counters.down) rfl]
  simp [Counters.zero]

/-- What a write of a thread with some tags makes of the links, and what it leaves alone. -/
structure Relinked (thread : Int) (tagIds : List Int) (s s' : Store) : Prop where
  listed : ∀ tag, tag ∈ (s'.linksOf thread).map (·.tag) ↔ tag ∈ tagIds
  once : ((s'.linksOf thread).map (·.tag)).Nodup
  kept : ∀ tag c, tag ∈ tagIds → s.links.get? (thread, tag) = some c →
    s'.links.get? (thread, tag) = some c
  made : ∀ tag, tag ∈ tagIds → s.links.get? (thread, tag) = none →
    s'.links.get? (thread, tag) = some .zero
  otherLinks : ∀ k, k.1 ≠ thread → s'.links.get? k = s.links.get? k
  otherThreads : ∀ id, id ≠ thread → s'.threads.get? id = s.threads.get? id
  otherContents : ∀ id, id ≠ thread → s'.contents.get? id = s.contents.get? id
  authors : s'.authors = s.authors
  tags : s'.tags = s.tags
  votes : s'.votes = s.votes
  collections : s'.collections = s.collections

lemma relinked_upsertThread (s : Store) (t : Thread) (tagIds : List Int) :
    Relinked t.id tagIds s (s.upsertThread t tagIds) := by
  have hget (k : Int × Int) : (s.upsertThread t tagIds).links.get? k =
      if k.1 = t.id then
        if k.2 ∈ tagIds then some ((s.links.get? k).getD .zero) else none
      else s.links.get? k :=
    get?_relink s.links t.id tagIds k
  refine ⟨?_, ?_, ?_, ?_, ?_, ?_, ?_, rfl, rfl, rfl, rfl⟩
  · intro tag
    rw [mem_map_tag_linksOf, Table.contains, hget]
    by_cases htag : tag ∈ tagIds
    · simp [htag]
    · simp [htag]
  · exact (increasing_tags_linksOf _ _).imp ne_of_lt
  · intro tag c htag hc
    rw [hget, if_pos rfl, if_pos htag, hc, Option.getD_some]
  · intro tag htag hnone
    rw [hget, if_pos rfl, if_pos htag, hnone, Option.getD_none]
  · intro k hk
    rw [hget, if_neg hk]
  · intro id hid
    rw [upsertThread, Table.get?_insert, if_neg (Ne.symm hid)]
  · intro id hid
    rw [upsertThread, Table.get?_insert, if_neg (Ne.symm hid)]

end ForumSearch.Store
