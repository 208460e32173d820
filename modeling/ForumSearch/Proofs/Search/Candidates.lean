import ForumSearch.Proofs.Query.Request
import ForumSearch.Proofs.Table
import ForumSearch.Store.Candidates
import ForumSearch.Store.History

/-!
# Candidates of a query

A query becomes a list of predicates, and each predicate a condition on the tables of the store.
What the conditions come to is stated here of the thread itself: a field that is left empty and a
tag name without ids restrict nothing.
-/

namespace ForumSearch

/-- Whether a thread is one that a query without texts asks for. -/
structure Query.Admits (q : Query) (tags : TagSnapshot) (s : Store) (t : Thread) : Prop where
  found : t.misses = 0
  collected : q.collectedOnly = true →
    ∃ viewer, q.viewer = some viewer ∧ s.collections.contains (viewer, t.id) = true
  channel : q.channels = [] ∨ t.channel ∈ q.channels
  thread : t.id ∉ q.excludeThreads
  author : q.includeAuthors = [] ∨ t.author ∈ q.includeAuthors
  otherAuthor : t.author ∉ q.excludeAuthors
  reactions : ∀ range, q.reactions = some range → range.contains t.reactions = true
  replies : ∀ range, q.replies = some range → range.contains t.replies = true
  createdAfter : ∀ bound, q.createdAfter = some bound → bound.seconds ≤ t.createdAt.seconds
  createdBefore : ∀ bound, q.createdBefore = some bound → t.createdAt.seconds ≤ bound.seconds
  activeAfter : ∀ bound, q.activeAfter = some bound → bound.seconds ≤ t.lastActiveAt.seconds
  activeBefore : ∀ bound, q.activeBefore = some bound → t.lastActiveAt.seconds ≤ bound.seconds
  allTags : q.tagLogic = .all → ∀ name ∈ q.includeTags, tags.resolve name ≠ [] →
    ∃ id ∈ tags.resolve name, s.hasTag t.id id = true
  anyTag : q.tagLogic = .any → (∃ name ∈ q.includeTags, tags.resolve name ≠ []) →
    ∃ name ∈ q.includeTags, ∃ id ∈ tags.resolve name, s.hasTag t.id id = true
  noTag : ∀ name ∈ q.excludeTags, ∀ id ∈ tags.resolve name, s.hasTag t.id id = false

namespace Store

attribute [local simp] meets

variable (s : Store) (t : Thread)

lemma meets_foldl_both (conditions : List Condition) (c : Condition) :
    s.meets t (conditions.foldl .both c) = (s.meets t c && conditions.all (s.meets t)) := by
  induction conditions generalizing c with
  | nil => simp
  | cons d conditions ih => rw [List.foldl_cons, ih, List.all_cons, ← Bool.and_assoc]; rfl

lemma mem_candidates {filter : List Predicate} :
    t ∈ s.candidates filter ↔
      t ∈ s.threads.values ∧ ∀ p ∈ filter, s.satisfies t p = true := by
  rw [candidates, List.mem_filter, Condition.every, meets_foldl_both]
  simp [satisfies]

lemma meets_ofBound (column : Column) (comparison : Comparison) (bound : Option Instant) :
    s.meets t (.ofBound column comparison bound) = true ↔
      ∀ b, bound = some b → comparison.compare (column.read t) b.seconds = true := by
  cases bound with
  | none => simp [Condition.ofBound]
  | some b => simp [Condition.ofBound]

@[simp]
lemma satisfies_notDeleted : s.satisfies t .notDeleted = true ↔ t.misses = 0 :=
  decide_eq_true_iff

@[simp]
lemma satisfies_channelIn (ids : List Int) :
    s.satisfies t (.channelIn ids) = true ↔ t.channel ∈ ids := by
  simp [satisfies, Predicate.condition, Column.read]

@[simp]
lemma satisfies_threadNotIn (ids : List Int) :
    s.satisfies t (.threadNotIn ids) = true ↔ t.id ∉ ids := by
  simp [satisfies, Predicate.condition, Column.read]

@[simp]
lemma satisfies_authorIn (ids : List Int) :
    s.satisfies t (.authorIn ids) = true ↔ t.author ∈ ids := by
  simp [satisfies, Predicate.condition, Column.read]

@[simp]
lemma satisfies_authorNotIn (ids : List Int) :
    s.satisfies t (.authorNotIn ids) = true ↔ t.author ∉ ids := by
  simp [satisfies, Predicate.condition, Column.read]

@[simp]
lemma satisfies_collectedBy (user : Int) :
    s.satisfies t (.collectedBy user) = true ↔ s.collections.contains (user, t.id) = true := by
  simp [satisfies, Predicate.condition]

@[simp]
lemma satisfies_anyTag (ids : List Int) :
    s.satisfies t (.anyTag ids) = true ↔ ∃ id ∈ ids, s.hasTag t.id id = true := by
  simp [satisfies, Predicate.condition]

@[simp]
lemma satisfies_noTag (ids : List Int) :
    s.satisfies t (.noTag ids) = true ↔ ∀ id ∈ ids, s.hasTag t.id id = false := by
  simp [satisfies, Predicate.condition]

/-- The two comparisons with the ends of an interval say that the interval contains the count. -/
@[simp]
lemma satisfies_countWithin (column : CountColumn) (range : Interval) :
    s.satisfies t (.countWithin column range) = true ↔
      range.contains (column.column.read t) = true := by
  obtain ⟨lower, upper, lowerIncluded, upperIncluded⟩ := range
  cases lowerIncluded <;> cases upperIncluded <;>
    simp [satisfies, Predicate.condition, Comparison.compare, Interval.contains]

@[simp]
lemma satisfies_timeWithin (column : TimeColumn) (after before : Option Instant) :
    s.satisfies t (.timeWithin column after before) = true ↔
      (∀ bound, after = some bound → bound.seconds ≤ column.column.read t) ∧
        ∀ bound, before = some bound → column.column.read t ≤ bound.seconds := by
  unfold satisfies Predicate.condition
  simp only [meets, Bool.and_eq_true, meets_ofBound]
  simp [Comparison.compare]

end Store

namespace Query

lemma forall_mem_unlessEmpty {P : Predicate → Prop} (ids : List Int) (p : List Int → Predicate) :
    (∀ x ∈ unlessEmpty ids p, P x) ↔ ids = [] ∨ P (p ids) := by
  cases ids <;> simp [unlessEmpty]

lemma forall_mem_toList_map {α : Type} {P : Predicate → Prop} (o : Option α) (p : α → Predicate) :
    (∀ x ∈ (o.map p).toList, P x) ↔ ∀ a, o = some a → P (p a) := by
  cases o <;> simp

variable (q : Query) (tags : TagSnapshot) (s : Store) (t : Thread)

lemma forall_mem_timePredicate (column : TimeColumn) (after before : Option Instant) :
    (∀ p ∈ timePredicate column after before, s.satisfies t p = true) ↔
      (∀ bound, after = some bound → bound.seconds ≤ column.column.read t) ∧
        ∀ bound, before = some bound → column.column.read t ≤ bound.seconds := by
  unfold timePredicate
  by_cases h : (after.isNone && before.isNone) = true
  · obtain ⟨ha, hb⟩ := Bool.and_eq_true_iff.mp h
    rw [Option.isNone_iff_eq_none] at ha hb
    simp [ha, hb]
  · simp only [h, if_neg, Bool.false_eq_true, not_false_eq_true, List.forall_mem_singleton,
      Store.satisfies_timeWithin]

lemma mem_resolveAll {names : List Text} {id : Int} :
    id ∈ tags.resolveAll names ↔ ∃ name ∈ names, id ∈ tags.resolve name := by
  rw [TagSnapshot.resolveAll, Key.mem_sortDistinct, List.mem_flatMap]

lemma resolveAll_eq_nil {names : List Text} :
    tags.resolveAll names = [] ↔ ∀ name ∈ names, tags.resolve name = [] := by
  simp only [List.eq_nil_iff_forall_not_mem, mem_resolveAll]
  constructor
  · intro h name hname id hid
    exact h id ⟨name, hname, hid⟩
  · rintro h id ⟨name, hname, hid⟩
    exact h name hname id hid

/-- The tag predicates in both modes. Under any, names without ids drop out unless none has. -/
lemma forall_mem_tagPredicates :
    (∀ p ∈ q.tagPredicates tags, s.satisfies t p = true) ↔
      (q.tagLogic = .all → ∀ name ∈ q.includeTags, tags.resolve name ≠ [] →
        ∃ id ∈ tags.resolve name, s.hasTag t.id id = true) ∧
      (q.tagLogic = .any → (∃ name ∈ q.includeTags, tags.resolve name ≠ []) →
        ∃ name ∈ q.includeTags, ∃ id ∈ tags.resolve name, s.hasTag t.id id = true) := by
  unfold tagPredicates
  cases q.tagLogic with
  | all =>
    simp only [List.forall_mem_map, List.mem_filter, Bool.not_eq_true', List.isEmpty_eq_false_iff,
      Store.satisfies_anyTag, and_imp, reduceCtorEq, true_implies, false_implies, and_true]
  | any =>
    have hnone : tags.resolveAll q.includeTags = [] ↔
        ¬∃ name ∈ q.includeTags, tags.resolve name ≠ [] := by
      rw [resolveAll_eq_nil]
      push Not
      rfl
    have hsome : (∃ id ∈ tags.resolveAll q.includeTags, s.hasTag t.id id = true) ↔
        ∃ name ∈ q.includeTags, ∃ id ∈ tags.resolve name, s.hasTag t.id id = true := by
      simp only [mem_resolveAll]
      constructor
      · rintro ⟨id, ⟨name, hname, hid⟩, htag⟩
        exact ⟨name, hname, id, hid, htag⟩
      · rintro ⟨name, hname, id, hid, htag⟩
        exact ⟨id, ⟨name, hname, hid⟩, htag⟩
    simp only [forall_mem_unlessEmpty, Store.satisfies_anyTag, hnone, hsome, reduceCtorEq,
      false_implies, true_implies, true_and]
    exact or_iff_not_imp_left.trans (by rw [not_not])

lemma forall_mem_exclusion :
    (∀ p ∈ unlessEmpty (tags.resolveAll q.excludeTags) .noTag, s.satisfies t p = true) ↔
      ∀ name ∈ q.excludeTags, ∀ id ∈ tags.resolve name, s.hasTag t.id id = false := by
  rw [forall_mem_unlessEmpty, Store.satisfies_noTag, resolveAll_eq_nil]
  constructor
  · rintro (hnil | hno) name hname id hid
    · rw [hnil name hname] at hid
      exact absurd hid List.not_mem_nil
    · exact hno id ((mem_resolveAll tags).mpr ⟨name, hname, hid⟩)
  · intro h
    right
    intro id hid
    obtain ⟨name, hname, hid⟩ := (mem_resolveAll tags).mp hid
    exact h name hname id hid

lemma forall_mem_collectedOnly (hviewer : q.collectedOnly = true → q.viewer ≠ none) :
    (∀ p ∈ (if q.collectedOnly then (q.viewer.map Predicate.collectedBy).toList else []),
        s.satisfies t p = true) ↔
      (q.collectedOnly = true →
        ∃ viewer, q.viewer = some viewer ∧ s.collections.contains (viewer, t.id) = true) := by
  by_cases hc : q.collectedOnly = true
  · obtain ⟨viewer, hv⟩ := Option.ne_none_iff_exists'.mp (hviewer hc)
    simp [hc, hv]
  · simp [hc]

/-- The predicates of a query say that it admits the thread, and that its texts suit. -/
lemma forall_mem_compile (hviewer : q.collectedOnly = true → q.viewer ≠ none) :
    (∀ p ∈ (q.compile tags).filter, s.satisfies t p = true) ↔
      q.Admits tags s t ∧
      (∀ name, q.authorName = some name → s.satisfies t (.authorNamed name) = true) ∧
      (∀ e ∈ q.keywordGroups.filterMap Index.groupExpression,
        s.satisfies t (.textMatches e) = true) ∧
      ∀ p ∈ q.exclusionPredicates, s.satisfies t p = true := by
  unfold compile
  simp only [List.forall_mem_append, List.forall_mem_singleton,
    forall_mem_collectedOnly q s t hviewer, forall_mem_unlessEmpty q.channels,
    forall_mem_unlessEmpty q.excludeThreads, forall_mem_unlessEmpty q.includeAuthors,
    forall_mem_unlessEmpty q.excludeAuthors, forall_mem_toList_map, forall_mem_timePredicate,
    forall_mem_tagPredicates, forall_mem_exclusion, List.forall_mem_map,
    Store.satisfies_notDeleted, Store.satisfies_channelIn, Store.satisfies_threadNotIn,
    Store.satisfies_authorIn, Store.satisfies_authorNotIn, Store.satisfies_countWithin, and_assoc]
  have hempty {α : Type} (a : α) (l : List α) : l = [] ∨ a ∉ l ↔ a ∉ l := by
    refine or_iff_right_of_imp ?_
    rintro rfl
    exact List.not_mem_nil
  simp only [hempty]
  constructor
  · rintro ⟨found, collected, channel, thread, author, named, otherAuthor, reactions, replies,
      createdAfter, createdBefore, activeAfter, activeBefore, allTags, anyTag, noTag, groups,
      exclusion⟩
    exact ⟨⟨found, collected, channel, thread, author, otherAuthor, reactions, replies,
      createdAfter, createdBefore, activeAfter, activeBefore, allTags, anyTag, noTag⟩,
      named, groups, exclusion⟩
  · rintro ⟨h, named, groups, exclusion⟩
    exact ⟨h.found, h.collected, h.channel, h.thread, h.author, named, h.otherAuthor, h.reactions,
      h.replies, h.createdAfter, h.createdBefore, h.activeAfter, h.activeBefore, h.allTags,
      h.anyTag, h.noTag, groups, exclusion⟩

/-- A request that has included tags and a search box at most, with neither an author nor excluded
words in the box, is accepted. It asks for its tags and its keywords. -/
lemma compile_plain {r : Request} (hr : r = { query := r.query, includeTags := r.includeTags })
    (hauthor : r.author = none) (hexcluded : r.excluded = []) (now : Instant) :
    ∃ q, r.validate now = .ok q ∧
      q.compile tags =
        ⟨.notDeleted :: ((((Request.normalNames r.includeTags).map tags.resolve).filter fun ids =>
          !ids.isEmpty).map .anyTag ++ (r.groups.filterMap Index.groupExpression).map .textMatches),
        tags.resolveAll (Request.normalNames r.includeTags)⟩ := by
  have hnone : tags.resolveAll (Request.normalNames []) = [] := rfl
  generalize r.query = query, r.includeTags = names at hr
  subst hr
  refine ⟨_, rfl, ?_⟩
  simp only [compile, exclusionPredicates, hauthor, hexcluded, hnone]
  simp [unlessEmpty, timePredicate, tagPredicates, Index.Expression.joinLeft]

/-- A stored thread passes the filter of a query without texts exactly when the query admits it. -/
theorem mem_candidates_compile_iff {r : Request} {now : Instant} {q : Query}
    (h : r.validate now = .ok q) (hname : q.authorName = none) (hgroups : q.keywordGroups = [])
    (hwords : q.excludeKeywords = []) (tags : TagSnapshot) (s : Store) (t : Thread)
    (ht : t ∈ s.threads.values) :
    t ∈ s.candidates (q.compile tags).filter ↔ q.Admits tags s t := by
  have hviewer : q.collectedOnly = true → q.viewer ≠ none := by
    obtain ⟨hb, -, -, -, -, -, -, hq⟩ := Request.validate_eq_ok_iff.mp h
    rw [hq]
    exact hb.viewer
  have hexclusion : q.exclusionPredicates = [] := by
    simp [exclusionPredicates, hwords, Index.Expression.joinLeft]
  rw [s.mem_candidates t, and_iff_right ht, forall_mem_compile q tags s t hviewer, hname, hgroups,
    hexclusion]
  simp

/-- Both tags of one name are asked for, and the thread carries one of them. No tag goes by the
other name. -/
theorem mem_candidates_compile_iff_one_of_two :
    let r : Request :=
      { includeTags := [['a'], ['b']], reactionRange := some ['[', '0', ',', '5', ')'] }
    let t : Thread := ⟨1, 1, 1, ['x'], ⟨0, 0⟩, ⟨0, 0⟩, 4, 0, none, [], 0⟩
    let s := Store.after [.thread t [11]]
    let tags := TagSnapshot.ofTags [⟨10, ['a']⟩, ⟨11, ['a']⟩]
    ∃ q, r.validate ⟨0, 0⟩ = .ok q ∧ q.authorName = none ∧ q.keywordGroups = [] ∧
      q.excludeKeywords = [] ∧ t ∈ s.threads.values ∧
      (t ∈ s.candidates (q.compile tags).filter ↔ q.Admits tags s t) := by
  intro r t s tags
  have hq : r.validate ⟨0, 0⟩ = .ok _ := rfl
  have ht : t ∈ s.threads.values := by decide
  exact ⟨_, hq, rfl, rfl, rfl, ht, mem_candidates_compile_iff hq rfl rfl rfl tags s t ht⟩

end Query

end ForumSearch
