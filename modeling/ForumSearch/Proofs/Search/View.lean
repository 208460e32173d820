import ForumSearch.Proofs.Search.Answer

/-!
# What a search looks at

A search does not look at stored votes, at the counters of tags that its score does not count, or at
what others than its viewer have collected. Stores that differ in nothing else look alike to it, and
writes of these kinds lead from a store to one that looks alike.
-/

namespace ForumSearch

namespace Store

/-- Two stores that a search by some viewer does not tell apart, if its score counts the votes on
some tags at most. -/
structure Alike (viewer : Option Int) (tagIds : List Int) (s s' : Store) : Prop where
  authors : s.authors = s'.authors
  threads : s.threads = s'.threads
  contents : s.contents = s'.contents
  links : ∀ k, s.links.contains k = s'.links.contains k
  counters : ∀ k, k.2 ∈ tagIds → s.links.get? k = s'.links.get? k
  collections : ∀ user, viewer = some user → ∀ thread,
    s.collections.get? (user, thread) = s'.collections.get? (user, thread)

/-- A vote on none of the tags, or an entry in the collection of another user. -/
def Unseen (viewer : Option Int) (tagIds : List Int) : Write → Prop
  | .vote v => v.tag ∉ tagIds
  | .collect user _ _ => viewer ≠ some user
  | .author _ | .tag _ | .thread _ _ => False

variable {viewer : Option Int} {tagIds : List Int} {s s' s'' : Store}

namespace Alike

lemma refl (s : Store) : Alike viewer tagIds s s :=
  ⟨rfl, rfl, rfl, fun _ => rfl, fun _ _ => rfl, fun _ _ _ => rfl⟩

lemma trans (h : Alike viewer tagIds s s') (h' : Alike viewer tagIds s' s'') :
    Alike viewer tagIds s s'' where
  authors := h.authors.trans h'.authors
  threads := h.threads.trans h'.threads
  contents := h.contents.trans h'.contents
  links k := (h.links k).trans (h'.links k)
  counters k hk := (h.counters k hk).trans (h'.counters k hk)
  collections user hu thread := (h.collections user hu thread).trans (h'.collections user hu thread)

lemma applyVote {v : Vote} (hv : v.tag ∉ tagIds) :
    Alike viewer tagIds s (s.applyVote v).2 := by
  cases hl : s.links.get? (v.thread, v.tag) with
  | none =>
    rw [applyVote_of_unlinked hl]
    exact refl s
  | some c =>
    rw [applyVote_of_linked hl]
    refine ⟨rfl, rfl, rfl, ?_, ?_, fun _ _ _ => rfl⟩
    · intro k
      rw [Table.contains, Table.contains, Table.get?_insert]
      by_cases hk : (v.thread, v.tag) = k
      · rw [if_pos hk, ← hk, hl]
        rfl
      · rw [if_neg hk]
    · intro k hk
      have hne : (v.thread, v.tag) ≠ k := by
        rintro rfl
        exact hv hk
      rw [Table.get?_insert, if_neg hne]

lemma collect {user : Int} (hu : viewer ≠ some user) (thread : Int) (time : Instant) :
    Alike viewer tagIds s (s.collect user thread time) := by
  refine ⟨rfl, rfl, rfl, fun _ => rfl, fun _ _ => rfl, ?_⟩
  intro user' hviewer thread'
  have hne : (user, thread) ≠ (user', thread') := by
    intro heq
    obtain ⟨rfl, -⟩ := Prod.mk.inj heq
    exact hu hviewer
  rw [Store.collect, Table.get?_insert, if_neg hne]

lemma write {w : Write} (hw : Unseen viewer tagIds w) : Alike viewer tagIds s (s.write w) := by
  cases w with
  | vote v => exact applyVote hw
  | collect user thread time => exact collect hw thread time
  | author a => exact hw.elim
  | tag t => exact hw.elim
  | thread t tagIds => exact hw.elim

/-- Unseen writes leave a store that looks alike, however many there are. -/
lemma after_append (history : List Write) {writes : List Write}
    (h : ∀ w ∈ writes, Unseen viewer tagIds w) :
    Alike viewer tagIds (after history) (after (history ++ writes)) := by
  induction writes using List.reverseRecOn with
  | nil =>
    rw [List.append_nil]
    exact refl _
  | append_singleton writes w ih =>
    rw [← List.append_assoc, after_append_singleton]
    have hwrites := ih fun w hw => h w (List.mem_append_left _ hw)
    exact hwrites.trans (write (h w (by simp)))

variable (h : Alike viewer tagIds s s')

include h

lemma hasTag (thread tag : Int) : s.hasTag thread tag = s'.hasTag thread tag :=
  h.links (thread, tag)

lemma contains_collections {user : Int} (hviewer : viewer = some user) (thread : Int) :
    s.collections.contains (user, thread) = s'.collections.contains (user, thread) := by
  rw [Table.contains, Table.contains, h.collections user hviewer thread]

/-- Every predicate but one about the collection of another user is met alike. -/
lemma satisfies (t : Thread) (p : Predicate)
    (hp : ∀ user, p = .collectedBy user → viewer = some user) :
    s.satisfies t p = s'.satisfies t p := by
  rw [Bool.eq_iff_iff]
  cases p with
  | anyTag ids => simp only [satisfies_anyTag, h.hasTag]
  | noTag ids => simp only [satisfies_noTag, h.hasTag]
  | collectedBy user =>
    simp only [satisfies_collectedBy, h.contains_collections (hp user rfl)]
  | authorNamed name => simp only [Store.satisfies, Predicate.condition, meets, h.authors]
  | textMatches e =>
    simp only [Store.satisfies, Predicate.condition, meets, textHolds, h.contents]
  | textExcludes e =>
    simp only [Store.satisfies, Predicate.condition, meets, textHolds, h.contents]
  | notDeleted => simp
  | channelIn ids => simp
  | threadNotIn ids => simp
  | authorIn ids => simp
  | authorNotIn ids => simp
  | timeWithin column after before => simp
  | countWithin column range => simp

lemma record (t : Thread) : s.record t = s'.record t := by
  rw [Store.record, Store.record, h.authors, map_tag_linksOf, map_tag_linksOf,
    Table.keys_ext h.links]

lemma votesFor (thread : Int) : s.votesFor thread tagIds = s'.votesFor thread tagIds := by
  have hcounters : ∀ tag ∈ tagIds.toFinset, s.countersOf thread tag = s'.countersOf thread tag := by
    intro tag htag
    rw [countersOf, countersOf, h.counters (thread, tag) (List.mem_toFinset.mp htag)]
  have hsum (f : Counters → Int) : ∑ tag ∈ tagIds.toFinset, f (s.countersOf thread tag) =
      ∑ tag ∈ tagIds.toFinset, f (s'.countersOf thread tag) :=
    Finset.sum_congr rfl fun tag htag => congrArg f (hcounters tag htag)
  rw [votesFor_eq, votesFor_eq, hsum Counters.up, hsum Counters.down]

lemma fetch (ids : List Int) : s.fetch ids = s'.fetch ids := by
  rw [Store.fetch, Store.fetch, h.threads]
  exact List.map_congr_left fun t _ => h.record t

lemma sortKey {order : PageOrder} (hviewer : order.viewer = viewer) (t : Thread) :
    s.sortKey order t = s'.sortKey order t := by
  obtain ⟨column, direction, orderViewer⟩ := order
  obtain rfl : orderViewer = viewer := hviewer
  cases column with
  | collectedAt =>
    cases orderViewer with
    | none => rfl
    | some user => exact h.collections user rfl t.id
  | createdAt => rfl
  | lastActiveAt => rfl
  | reactions => rfl
  | replies => rfl

section Filter

variable {filter : List Predicate}
  (hfilter : ∀ user, .collectedBy user ∈ filter → viewer = some user)

include hfilter

lemma candidates : s.candidates filter = s'.candidates filter := by
  have hmeets (t : Thread) : s.meets t (.every (filter.map Predicate.condition)) =
      s'.meets t (.every (filter.map Predicate.condition)) := by
    rw [Condition.every, meets_foldl_both, meets_foldl_both, List.all_map, List.all_map]
    have hall : filter.all (s.satisfies t) = filter.all (s'.satisfies t) := by
      rw [Bool.eq_iff_iff, List.all_eq_true, List.all_eq_true]
      refine forall₂_congr ?_
      intro p hp
      rw [h.satisfies t p fun user hcollected => hfilter user (hcollected ▸ hp)]
    exact hall
  rw [Store.candidates, Store.candidates, h.threads]
  exact List.filter_congr fun t _ => hmeets t

lemma rankRows : s.rankRows filter tagIds = s'.rankRows filter tagIds := by
  rw [Store.rankRows, Store.rankRows, h.candidates hfilter]
  simp only [h.votesFor]

lemma page {order : PageOrder} (hviewer : order.viewer = viewer) (offset limit : Int) :
    s.page filter order offset limit = s'.page filter order offset limit := by
  have horder : s.inOrder order = s'.inOrder order := by
    funext a b
    simp only [inOrder, h.sortKey hviewer]
  rw [Store.page, Store.page, h.candidates hfilter, horder]
  exact List.map_congr_left fun t _ => h.record t

end Filter

end Alike

end Store

lemma Query.collectedBy_mem_compile {q : Query} {tags : TagSnapshot} {user : Int}
    (h : .collectedBy user ∈ (q.compile tags).filter) : q.viewer = some user := by
  have htags : .collectedBy user ∉ q.tagPredicates tags := by
    unfold tagPredicates
    cases q.tagLogic <;> simp [unlessEmpty]
  have hexclusion : .collectedBy user ∉ q.exclusionPredicates := by
    unfold exclusionPredicates
    split <;> simp
  have hasked : q.collectedOnly = true ∧ q.viewer = some user := by
    simpa [compile, unlessEmpty, timePredicate, htags, hexclusion] using h
  exact hasked.2

namespace Search

variable {g : SearchSettings} {s s' : Store} {q : Query} {now : Instant}

section Congr

variable {tagIds : List Int} (h : Store.Alike q.viewer tagIds s s')
  (hscore : sortColumn? q = none → tagIds = (q.compile g.tags).tagIds)

include h

lemma candidates_congr : s.candidates (q.compile g.tags).filter =
    s'.candidates (q.compile g.tags).filter :=
  h.candidates fun _ hmem => Query.collectedBy_mem_compile hmem

lemma isCollected_congr (id : Int) : isCollected s q id = isCollected s' q id := by
  unfold isCollected
  cases hv : q.viewer with
  | none => rfl
  | some user => exact h.contains_collections hv id

include hscore

lemma rankedWindow_congr (hc : sortColumn? q = none) :
    rankedWindow g s q now = rankedWindow g s' q now := by
  obtain rfl := hscore hc
  unfold rankedWindow
  rw [h.rankRows fun _ hmem => Query.collectedBy_mem_compile hmem]

lemma found_congr : found g s q now = found g s' q now := by
  unfold found
  cases hc : sortColumn? q with
  | some column =>
    have hpage : s.page (q.compile g.tags).filter (pageOrder q column) q.offset q.limit = _ :=
      h.page (fun _ hmem => Query.collectedBy_mem_compile hmem) rfl _ _
    simp only [hpage]
  | none => simp only [rankedWindow_congr h hscore hc, h.fetch]

/-- Stores that look alike give the same page. The votes count only in an order by score. -/
lemma answer_congr : answer g s q now = answer g s' q now := by
  have hsummary : summary g s q = summary g s' q := by
    funext hit
    simp only [summary, isCollected_congr h]
  unfold answer Store.count
  rw [candidates_congr h, found_congr h hscore, hsummary]

lemma asked_congr : asked g s q now = asked g s' q now := by
  have hfetched : fetched g q ((rankedWindow g s q now).map (·.1)) =
      fetched g q ((rankedWindow g s' q now).map (·.1)) := by
    unfold fetched
    cases hc : sortColumn? q with
    | some column => rfl
    | none => rw [rankedWindow_congr h hscore hc]
  unfold asked Store.count
  rw [candidates_congr h, found_congr h hscore, hfetched]

end Congr

end Search

end ForumSearch
