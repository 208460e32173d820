import ForumSearch.Proofs.Index.Exclusion
import ForumSearch.Proofs.Index.Stretch

/-!
# Narrower and wider searches

Asking for more in a field leaves fewer candidates, and exempting more leaves more of them. Only the
fields that say what a thread must be are compared here; a request that is changed in them is still
accepted. Nothing is assumed of the analyzer of the index.
-/

namespace ForumSearch

open Index
open scoped List

lemma Text.mem_distinct {names : List Text} {name : Text} :
    name ∈ Text.distinct names ↔ name ∈ names := by
  have hfold (seen : List Text) : name ∈ names.foldl
      (fun seen name => if seen.contains name then seen else seen ++ [name]) seen ↔
        name ∈ seen ∨ name ∈ names := by
    induction names generalizing seen with
    | nil => simp
    | cons first names ih =>
      rw [List.foldl_cons, ih]
      by_cases hseen : first ∈ seen
      · have hfirst : name = first → name ∈ seen := fun h => h ▸ hseen
        simp only [List.contains_iff_mem, hseen, if_true, List.mem_cons]
        tauto
      · simp [hseen, or_assoc]
  rw [Text.distinct, hfold]
  simp

lemma Request.mem_normalNames {names : List Text} {name : Text} :
    name ∈ normalNames names ↔ name ≠ [] ∧ ∃ raw ∈ names, raw.trim = name := by
  simp [normalNames, Text.mem_distinct, and_comm]

lemma Request.normalNames_subset {names names' : List Text} (hsub : names ⊆ names') :
    normalNames names ⊆ normalNames names' := by
  intro name hname
  obtain ⟨hne, raw, hraw, htrim⟩ := mem_normalNames.mp hname
  exact mem_normalNames.mpr ⟨hne, raw, hsub hraw, htrim⟩

namespace Index

lemma holds_exclusionExpression_mono {keep : Analyzer} {doc : List Text} {word : Text}
    {markers markers' : List Text} {window : Nat} {e e' : Expression} (hsub : markers ⊆ markers')
    (h : exclusionExpression word markers window = some e)
    (h' : exclusionExpression word markers' window = some e') (hholds : holds keep doc e' = true) :
    holds keep doc e = true := by
  obtain ⟨hphrase, hnear⟩ := (holds_exclusionExpression_iff h').mp hholds
  refine (holds_exclusionExpression_iff h).mpr ⟨hphrase, ?_⟩
  intro words hwords
  obtain ⟨marker, hmarker, hmarkerWords⟩ := List.mem_filterMap.mp hwords
  exact hnear words (List.mem_filterMap.mpr ⟨marker, hsub hmarker, hmarkerWords⟩)

end Index

lemma Store.textHolds_joinLeft_either (s : Store) (keep : Analyzer) {es : List Expression}
    {e : Expression} (h : Expression.joinLeft .either es = some e) (id : Int) :
    s.textHolds keep id e = true ↔ ∃ x ∈ es, s.textHolds keep id x = true := by
  unfold textHolds
  cases s.contents.get? id with
  | none => simp
  | some content => exact holds_joinLeft_either h

namespace Query

/-- A query without what it asks of tags, of the author's name and of texts. -/
def core (q : Query) : Query :=
  { q with
    includeTags := [], excludeTags := [], tagLogic := .all, keywordGroups := []
    excludeKeywords := [], exemptionMarkers := [], authorName := none }

lemma mem_compile (q : Query) (tags : TagSnapshot) (p : Predicate) :
    p ∈ (q.compile tags).filter ↔
      p ∈ (q.core.compile tags).filter ∨ p ∈ (q.authorName.map Predicate.authorNamed).toList ∨
        p ∈ q.tagPredicates tags ∨ p ∈ unlessEmpty (tags.resolveAll q.excludeTags) .noTag ∨
        p ∈ (q.keywordGroups.filterMap groupExpression).map .textMatches ∨
        p ∈ q.exclusionPredicates := by
  have htags : q.core.tagPredicates tags = [] := rfl
  have hnoTag : unlessEmpty (tags.resolveAll q.core.excludeTags) .noTag = [] := rfl
  have hexclusion : q.core.exclusionPredicates = [] := rfl
  unfold compile
  simp only [List.mem_append, htags, hnoTag, hexclusion]
  simp only [core, Option.map_none, Option.toList_none, List.filterMap_nil, List.map_nil,
    List.not_mem_nil, or_false]
  exact Iff.of_eq (by ac_rfl)

lemma forall_mem_compile_core {P : Predicate → Prop} (q : Query) (tags : TagSnapshot) :
    (∀ p ∈ (q.compile tags).filter, P p) ↔
      (∀ p ∈ (q.core.compile tags).filter, P p) ∧
        (∀ p ∈ (q.authorName.map Predicate.authorNamed).toList, P p) ∧
        (∀ p ∈ q.tagPredicates tags, P p) ∧
        (∀ p ∈ unlessEmpty (tags.resolveAll q.excludeTags) .noTag, P p) ∧
        (∀ p ∈ (q.keywordGroups.filterMap groupExpression).map .textMatches, P p) ∧
        ∀ p ∈ q.exclusionPredicates, P p := by
  simp only [mem_compile q, or_imp, forall_and]

section Stricter

variable (tags : TagSnapshot) (s : Store) (keep : Analyzer) (t : Thread)

/-- A thread that meets what one query asks of tags, names and texts meets what another one asks of
them, and in all else the two queries agree. -/
structure Stricter (q' q : Query) : Prop where
  -- One change of a request leaves most of these as they are.
  core : q.core = q'.core := by rfl
  author : ∀ name, q.authorName = some name → q'.authorName = some name := by exact fun _ h => h
  tagged : (∀ p ∈ q'.tagPredicates tags, s.satisfiesBy keep t p = true) →
    ∀ p ∈ q.tagPredicates tags, s.satisfiesBy keep t p = true := by exact fun h => h
  untagged : q.excludeTags ⊆ q'.excludeTags := by exact fun _ h => h
  groups : q.keywordGroups ⊆ q'.keywordGroups := by exact fun _ h => h
  exclusion : (∀ p ∈ q'.exclusionPredicates, s.satisfiesBy keep t p = true) →
    ∀ p ∈ q.exclusionPredicates, s.satisfiesBy keep t p = true := by exact fun h => h

variable {tags s keep t}

lemma forall_mem_untagged (q : Query) :
    (∀ p ∈ unlessEmpty (tags.resolveAll q.excludeTags) .noTag, s.satisfiesBy keep t p = true) ↔
      ∀ name ∈ q.excludeTags, ∀ id ∈ tags.resolve name, s.hasTag t.id id = false := by
  rw [← forall_mem_exclusion, forall_mem_unlessEmpty, forall_mem_unlessEmpty]
  rfl

lemma Stricter.passes {q q' : Query} (h : Stricter tags s keep t q' q)
    (hall : ∀ p ∈ (q'.compile tags).filter, s.satisfiesBy keep t p = true) :
    ∀ p ∈ (q.compile tags).filter, s.satisfiesBy keep t p = true := by
  rw [forall_mem_compile_core] at hall ⊢
  obtain ⟨hcore, hauthor, htagged, huntagged, hgroups, hexclusion⟩ := hall
  refine ⟨h.core ▸ hcore, ?_, h.tagged htagged, ?_, ?_, h.exclusion hexclusion⟩
  · rw [forall_mem_toList_map] at hauthor ⊢
    exact fun name hname => hauthor name (h.author name hname)
  · rw [forall_mem_untagged] at huntagged ⊢
    exact fun name hname => huntagged name (h.untagged hname)
  · rw [List.forall_mem_map] at hgroups ⊢
    intro e he
    obtain ⟨group, hgroup, he⟩ := List.mem_filterMap.mp he
    exact hgroups e (List.mem_filterMap.mpr ⟨group, h.groups hgroup, he⟩)

lemma candidatesBy_sublist {q q' : Query} (h : ∀ t, Stricter tags s keep t q' q) :
    s.candidatesBy keep (q'.compile tags).filter <+ s.candidatesBy keep (q.compile tags).filter := by
  refine List.monotone_filter_right _ ?_
  intro t ht
  rw [List.all_eq_true] at ht ⊢
  exact (h t).passes ht

lemma forall_mem_tagged (q : Query) :
    (∀ p ∈ q.tagPredicates tags, s.satisfiesBy keep t p = true) ↔
      (q.tagLogic = .all → ∀ name ∈ q.includeTags, tags.resolve name ≠ [] →
        ∃ id ∈ tags.resolve name, s.hasTag t.id id = true) ∧
      (q.tagLogic = .any → (∃ name ∈ q.includeTags, tags.resolve name ≠ []) →
        ∃ name ∈ q.includeTags, ∃ id ∈ tags.resolve name, s.hasTag t.id id = true) := by
  rw [← forall_mem_tagPredicates]
  unfold tagPredicates
  cases q.tagLogic with
  | all =>
    simp only [List.forall_mem_map]
    rfl
  | any =>
    simp only [forall_mem_unlessEmpty]
    rfl

lemma tagged_of_all {q q' : Query} (hq : q.tagLogic = .all) (hq' : q'.tagLogic = .all)
    (hsub : q.includeTags ⊆ q'.includeTags)
    (h : ∀ p ∈ q'.tagPredicates tags, s.satisfiesBy keep t p = true) :
    ∀ p ∈ q.tagPredicates tags, s.satisfiesBy keep t p = true := by
  rw [forall_mem_tagged] at h ⊢
  refine ⟨fun _ name hname => h.1 hq' name (hsub hname), ?_⟩
  intro hany
  exact absurd (hq.symm.trans hany) (by decide)

lemma tagged_of_any {q q' : Query} (hq : q.tagLogic = .any) (hq' : q'.tagLogic = .any)
    (hsub : q'.includeTags ⊆ q.includeTags)
    (hknown : ∃ name ∈ q'.includeTags, tags.resolve name ≠ [])
    (h : ∀ p ∈ q'.tagPredicates tags, s.satisfiesBy keep t p = true) :
    ∀ p ∈ q.tagPredicates tags, s.satisfiesBy keep t p = true := by
  rw [forall_mem_tagged] at h ⊢
  refine ⟨fun hall => absurd (hq.symm.trans hall) (by decide), ?_⟩
  intro _ _
  -- If no earlier name had an id, nothing was asked of the tags, and a later name might ask.
  obtain ⟨name, hname, hid⟩ := h.2 hq' hknown
  exact ⟨name, hsub hname, hid⟩

lemma tagged_any_of_all {q q' : Query} (hq : q.tagLogic = .any) (hq' : q'.tagLogic = .all)
    (hsame : q.includeTags = q'.includeTags)
    (h : ∀ p ∈ q'.tagPredicates tags, s.satisfiesBy keep t p = true) :
    ∀ p ∈ q.tagPredicates tags, s.satisfiesBy keep t p = true := by
  rw [forall_mem_tagged] at h ⊢
  refine ⟨fun hall => absurd (hq.symm.trans hall) (by decide), ?_⟩
  rintro - ⟨name, hname, hknown⟩
  exact ⟨name, hname, h.1 hq' name (hsame ▸ hname) hknown⟩

lemma forall_mem_exclusionPredicates (q : Query) :
    (∀ p ∈ q.exclusionPredicates, s.satisfiesBy keep t p = true) ↔
      ∀ word ∈ q.excludeKeywords, ∀ e, exclusionExpression word q.exemptionMarkers 8 = some e →
        s.textHolds keep t.id e = false := by
  have hparts : (∀ word ∈ q.excludeKeywords, ∀ e,
      exclusionExpression word q.exemptionMarkers 8 = some e → s.textHolds keep t.id e = false) ↔
      ∀ e ∈ q.excludeKeywords.filterMap (exclusionExpression · q.exemptionMarkers 8),
        s.textHolds keep t.id e = false := by
    constructor
    · intro h e he
      obtain ⟨word, hword, he⟩ := List.mem_filterMap.mp he
      exact h word hword e he
    · intro h word hword e he
      exact h e (List.mem_filterMap.mpr ⟨word, hword, he⟩)
  rw [hparts, exclusionPredicates_eq, exclusionChoice]
  cases he : Expression.joinLeft .either
      (q.excludeKeywords.filterMap (exclusionExpression · q.exemptionMarkers 8)) with
  | none =>
    rw [joinLeft_eq_none_iff] at he
    simp [he]
  | some e =>
    have hjoined : s.satisfiesBy keep t (.textExcludes e) = !s.textHolds keep t.id e := rfl
    have hnone := not_congr (s.textHolds_joinLeft_either keep he t.id)
    push Not at hnone
    simpa [hjoined] using hnone

/-- Excluded words that are added take out more threads, and markers that are added fewer. -/
lemma exclusion_of_subset {q q' : Query} (hwords : q.excludeKeywords ⊆ q'.excludeKeywords)
    (hmarkers : q'.exemptionMarkers ⊆ q.exemptionMarkers)
    (h : ∀ p ∈ q'.exclusionPredicates, s.satisfiesBy keep t p = true) :
    ∀ p ∈ q.exclusionPredicates, s.satisfiesBy keep t p = true := by
  rw [forall_mem_exclusionPredicates] at h ⊢
  intro word hword e he
  have hsome : exclusionExpression word q'.exemptionMarkers 8 ≠ none := by
    rw [Ne, exclusionExpression_eq_none_iff, ← exclusionExpression_eq_none_iff word
      q.exemptionMarkers 8, he]
    exact Option.some_ne_none e
  -- Each word is compared with itself under the other markers.
  obtain ⟨e', he'⟩ := Option.ne_none_iff_exists'.mp hsome
  have hkept := h word (hwords hword) e' he'
  unfold Store.textHolds at hkept ⊢
  cases hcontent : s.contents.get? t.id with
  | none => rfl
  | some content =>
    rw [hcontent, Option.any_some] at hkept
    rw [Option.any_some, ← Bool.not_eq_true]
    intro hholds
    exact Bool.false_ne_true (hkept.symm.trans
      (holds_exclusionExpression_mono hmarkers he' he hholds))

end Stricter

/-- A query that takes over what a request says of tags, of the author's name and of texts. -/
def reworded (q : Query) (r : Request) : Query :=
  { q with
    includeTags := Request.normalNames r.includeTags
    excludeTags := Request.normalNames r.excludeTags
    tagLogic := r.tagLogic
    keywordGroups := r.groups
    excludeKeywords := r.excluded
    exemptionMarkers := r.exemptionMarkers.getD Request.defaultMarkers
    authorName := r.author }

end Query

namespace Request

/-- Whether a request is accepted does not depend on what it says of tags and texts. -/
lemma validate_reworded {r : Request} {now : Instant} {q : Query} (h : r.validate now = .ok q)
    (r' : Request) (hr : r' = { r with
      query := r'.query, includeTags := r'.includeTags, excludeTags := r'.excludeTags
      tagLogic := r'.tagLogic, keywords := r'.keywords, excludeKeywords := r'.excludeKeywords
      exemptionMarkers := r'.exemptionMarkers }) :
    q = q.reworded r ∧ r'.validate now = .ok (q.reworded r') := by
  obtain ⟨hb, hca, hcb, haa, hab, hrs, hrp, hq⟩ := validate_eq_ok_iff.mp h
  refine ⟨by rw [hq]; rfl, ?_⟩
  rw [hr]
  refine validate_eq_ok_iff.mpr
    ⟨⟨hb.one_le_limit, hb.limit_le, hb.offset_nonneg, hb.viewer⟩, hca, hcb, haa, hab, hrs, hrp, ?_⟩
  rw [hq]
  rfl

/-- A field of words separated by commas with one more text at its end. -/
def appended (field : Option Text) (text : Text) : Option Text :=
  match field with
  | none => some text
  | some given => some (given ++ ',' :: text)

/-- A request that asks for more: in a search box that was not there, or by one more excluded word,
excluded tag, keyword group or tag, or for all of its tags and not for any of them. -/
inductive Narrows (r : Request) : Request → Prop where
  | search (hquery : r.query = none) (raw : Text) : Narrows r { r with query := some raw }
  | excludedWord (word : Text) :
    Narrows r { r with excludeKeywords := appended r.excludeKeywords word }
  | excludedTag (name : Text) : Narrows r { r with excludeTags := r.excludeTags ++ [name] }
  | group (text : Text) : Narrows r { r with keywords := appended r.keywords text }
  | includedTag (hall : r.tagLogic = .all) (name : Text) :
    Narrows r { r with includeTags := r.includeTags ++ [name] }
  | allTags (hany : r.tagLogic = .any) : Narrows r { r with tagLogic := .all }

/-- A request that lets more through: by one more marker, or by one more tag where any of the tags
is enough and one of those before has an id. -/
inductive Widens (tags : TagSnapshot) (r : Request) : Request → Prop where
  | marker (markers : List Text) (hmarkers : r.exemptionMarkers = some markers) (marker : Text) :
    Widens tags r { r with exemptionMarkers := some (markers ++ [marker]) }
  | includedTag (hany : r.tagLogic = .any)
    (hknown : ∃ name ∈ normalNames r.includeTags, tags.resolve name ≠ []) (name : Text) :
    Widens tags r { r with includeTags := r.includeTags ++ [name] }

lemma splitExcluded_append_comma (given text : Text) :
    Keyword.splitExcluded (given ++ ',' :: text) =
      Keyword.splitExcluded given ++ Keyword.splitExcluded text := by
  unfold Keyword.splitExcluded
  rw [Text.splitAtEach_append_cons (by decide), List.filter_append]

lemma parseGroups_append_comma (given text : Text) :
    Keyword.parseGroups (given ++ ',' :: text) =
      Keyword.parseGroups given ++ Keyword.parseGroups text := by
  unfold Keyword.parseGroups
  rw [Text.splitAtEach_append_cons (by decide), List.map_append, List.filter_append]

/-- Where a field of commas is read piece by piece, a text at its end adds pieces. -/
lemma getD_appended_subset {α : Type} {read : Text → List α}
    (hread : ∀ given text, read (given ++ ',' :: text) = read given ++ read text)
    (field : Option Text) (text : Text) :
    (field.map read).getD [] ⊆ ((appended field text).map read).getD [] := by
  cases field with
  | none => exact List.nil_subset _
  | some given =>
    have hmore : ((appended (some given) text).map read).getD [] = read given ++ read text :=
      hread given text
    rw [hmore]
    exact List.subset_append_left _ _

section Queries

variable {tags : TagSnapshot} {s : Store} {keep : Analyzer} {t : Thread} {r r' : Request}

lemma stricter_search (q : Query) (hquery : r.query = none) (raw : Text) :
    Query.Stricter tags s keep t (q.reworded { r with query := some raw }) (q.reworded r) := by
  have hfree : r.freeText = ⟨none, [], [], []⟩ := by rw [freeText, hquery]
  -- The box names an author only where the field does not.
  have hauthor (name : Text) (hname : r.author = some name) :
      author { r with query := some raw } = some name := by
    unfold author at hname ⊢
    dsimp only
    cases hfield : (r.authorName.map Text.trim).filter fun s => !s.isEmpty with
    | some given => rwa [hfield] at hname
    | none => simp [hfield, hfree] at hname
  have hgroups : r.groups ⊆ groups { r with query := some raw } := by
    have hnone : Keyword.parseGroups [] = [] := by decide
    have hr : r.groups = (r.keywords.map Keyword.parseGroups).getD [] := by
      simp [groups, hfree, hnone]
    rw [hr, groups, List.append_assoc]
    exact List.subset_append_left _ _
  have hexcluded : r.excluded ⊆ excluded { r with query := some raw } := by
    have hr : r.excluded = (r.excludeKeywords.map Keyword.splitExcluded).getD [] := by
      simp [excluded, hfree]
    rw [hr, excluded]
    exact List.subset_append_left _ _
  exact { author := hauthor, groups := hgroups,
          exclusion := Query.exclusion_of_subset hexcluded (List.Subset.refl _) }

lemma Narrows.stricter (h : r.Narrows r') (q : Query) :
    Query.Stricter tags s keep t (q.reworded r') (q.reworded r) := by
  cases h with
  | search hquery raw => exact stricter_search q hquery raw
  | excludedWord word =>
    have hmore := getD_appended_subset splitExcluded_append_comma r.excludeKeywords word
    have hexcluded : r.excluded ⊆
        excluded { r with excludeKeywords := appended r.excludeKeywords word } :=
      List.append_subset.mpr ⟨List.subset_append_of_subset_left _ hmore,
        List.subset_append_right _ _⟩
    exact { exclusion := Query.exclusion_of_subset hexcluded (List.Subset.refl _) }
  | excludedTag name =>
    exact { untagged := normalNames_subset (List.subset_append_left _ _) }
  | group text =>
    have hmore := getD_appended_subset parseGroups_append_comma r.keywords text
    have hgroups : r.groups ⊆ groups { r with keywords := appended r.keywords text } := by
      unfold groups
      rw [List.append_assoc, List.append_assoc]
      exact List.append_subset.mpr ⟨List.subset_append_of_subset_left _ hmore,
        List.subset_append_right _ _⟩
    exact { groups := hgroups }
  | includedTag hall name =>
    have hsub := normalNames_subset (List.subset_append_left r.includeTags [name])
    exact { tagged := Query.tagged_of_all hall hall hsub }
  | allTags hany => exact { tagged := Query.tagged_any_of_all hany rfl rfl }

lemma Widens.stricter (h : r.Widens tags r') (q : Query) :
    Query.Stricter tags s keep t (q.reworded r) (q.reworded r') := by
  cases h with
  | marker markers hmarkers marker =>
    have hsub : r.exemptionMarkers.getD defaultMarkers ⊆ markers ++ [marker] := by
      rw [hmarkers]
      exact List.subset_append_left _ _
    exact { exclusion := Query.exclusion_of_subset (List.Subset.refl _) hsub }
  | includedTag hany hknown name =>
    have hsub := normalNames_subset (List.subset_append_left r.includeTags [name])
    exact { tagged := Query.tagged_of_any hany hany hsub hknown }

end Queries

/-- A request that asks for more is accepted as well, and its candidates are among those of the
first, in the same order. One that lets more through is accepted and has all of them. -/
theorem candidatesBy_narrowed_widened (s : Store) (keep : Analyzer) (tags : TagSnapshot)
    {r : Request} {now : Instant} {q : Query} (h : r.validate now = .ok q) (r' : Request) :
    (r.Narrows r' → ∃ q', r'.validate now = .ok q' ∧
      s.candidatesBy keep (q'.compile tags).filter <+
        s.candidatesBy keep (q.compile tags).filter) ∧
    (r.Widens tags r' → ∃ q', r'.validate now = .ok q' ∧
      s.candidatesBy keep (q.compile tags).filter <+
        s.candidatesBy keep (q'.compile tags).filter) := by
  constructor
  · intro hnarrows
    obtain ⟨hq, hq'⟩ := validate_reworded h r' (by cases hnarrows <;> rfl)
    refine ⟨_, hq', ?_⟩
    rw [hq]
    exact Query.candidatesBy_sublist fun t => hnarrows.stricter q
  · intro hwidens
    obtain ⟨hq, hq'⟩ := validate_reworded h r' (by cases hwidens <;> rfl)
    refine ⟨_, hq', ?_⟩
    rw [hq]
    exact Query.candidatesBy_sublist fun t => hwidens.stricter q

/-- A word in the box takes out the only candidate, and a marker lets a second one through. -/
theorem candidatesBy_narrowed_widened_box :
    let t (id : Int) (title : Text) : Thread :=
      ⟨id, 1, 1, title, ⟨0, 0⟩, ⟨0, 0⟩, 0, 0, none, [], 0⟩
    let s := Store.after [.thread (t 1 ['R', 'u', 's', 't', ' ', 'b', 'u', 'g', ' ', '禁']) [11],
      .thread (t 2 ['R', 'u', 's', 't']) [11]]
    let tags := TagSnapshot.ofTags [⟨10, ['a']⟩, ⟨11, ['a']⟩]
    let r : Request :=
      { includeTags := [['a']], excludeKeywords := some ['b', 'u', 'g'],
        exemptionMarkers := some [] }
    let boxed := { r with query := some ['-', 'r', 'u', 's', 't'] }
    let marked := { r with exemptionMarkers := some ([] ++ [['禁']]) }
    let found (q : Query) := s.candidatesBy standard (q.compile tags).filter
    ∃ q q₁ q₂, r.validate ⟨0, 0⟩ = .ok q ∧
      r.Narrows boxed ∧ boxed.validate ⟨0, 0⟩ = .ok q₁ ∧ found q₁ <+ found q ∧
      r.Widens tags marked ∧ marked.validate ⟨0, 0⟩ = .ok q₂ ∧ found q <+ found q₂ ∧
      (found q₁).map (·.id) = [] ∧ (found q).map (·.id) = [2] ∧
      (found q₂).map (·.id) = [1, 2] := by
  intro t s tags r boxed marked found
  have hq : r.validate ⟨0, 0⟩ = .ok _ := rfl
  have hnarrows : r.Narrows boxed := .search rfl _
  have hwidens : r.Widens tags marked := .marker [] rfl _
  obtain ⟨q₁, hq₁, hless⟩ := (candidatesBy_narrowed_widened s standard tags hq boxed).1 hnarrows
  obtain ⟨q₂, hq₂, hmore⟩ := (candidatesBy_narrowed_widened s standard tags hq marked).2 hwidens
  refine ⟨_, q₁, q₂, hq, hnarrows, hq₁, hless, hwidens, hq₂, hmore, ?_, ?_, ?_⟩
  · have hboxed : boxed.validate ⟨0, 0⟩ = .ok _ := rfl
    obtain rfl := Except.ok.inj (hboxed.symm.trans hq₁)
    decide +kernel
  · decide +kernel
  · have hmarked : marked.validate ⟨0, 0⟩ = .ok _ := rfl
    obtain rfl := Except.ok.inj (hmarked.symm.trans hq₂)
    decide +kernel

end Request

end ForumSearch
