import ForumSearch.Proofs.Search.Answer
import ForumSearch.Proofs.Tag.Snapshot
import ForumSearch.Tag.Resolver

/-!
# The tags that results show

A filter goes from tag names to the threads that carry them, and a result from its thread back to
tag names. Both go through one snapshot, and the two tables of a snapshot that was loaded from a
store are inverse to each other, so what is shown agrees with what was asked for.
-/

namespace ForumSearch

lemma Key.lt_char (c d : Char) : Key.lt c d = true ↔ c < d := by
  rw [Char.lt_def, UInt32.lt_iff_toNat_lt]
  exact decide_eq_true_iff

/-- Texts that are keys are ordered as lists of characters. -/
lemma Key.lt_text (a b : Text) : Key.lt a b = true ↔ a < b := by
  induction a generalizing b with
  | nil => cases b <;> simp [Key.lt, Key.listLt]
  | cons c a ih =>
    cases b with
    | nil => simp [Key.lt, Key.listLt]
    | cons d b =>
      have hcons : Key.lt (c :: a) (d :: b) = true ↔
          Key.lt c d = true ∨ c = d ∧ Key.lt a b = true := Key.listLt_cons
      rw [hcons, ih, Key.lt_char, List.cons_lt_cons_iff]

namespace TagSnapshot

lemma name?_addTag (s : TagSnapshot) (tag : Tag) (id : Int) :
    (s.addTag tag).name? id = if tag.id = id then some tag.name else s.name? id :=
  Table.get?_insert _ _ _ _

/-- If no two tags share an id, each id is shown by the name it was listed with. -/
theorem name?_ofTags {tags : List Tag} (hids : (tags.map Tag.id).Nodup) (id : Int) (name : Text) :
    (ofTags tags).name? id = some name ↔ ⟨id, name⟩ ∈ tags := by
  induction tags using List.reverseRecOn with
  | nil => simp [ofTags, name?, empty]
  | append_singleton tags tag ih =>
    obtain ⟨i, n⟩ := tag
    rw [List.map_append, List.nodup_append] at hids
    obtain ⟨hids, -, hnew⟩ := hids
    rw [ofTags_concat, name?_addTag, List.mem_append, List.mem_singleton, Tag.mk.injEq]
    by_cases hi : i = id
    · have hnot : (⟨id, name⟩ : Tag) ∉ tags := by
        intro hmem
        exact hnew id (List.mem_map_of_mem hmem) i (by simp) hi.symm
      simp [hi, hnot, eq_comm]
    · rw [if_neg hi, ih hids]
      simp [Ne.symm hi]

lemma mem_shownNames {s : TagSnapshot} {ids : List Int} {name : Text} :
    name ∈ s.shownNames ids ↔ ∃ id ∈ ids, s.name? id = some name := by
  rw [shownNames, Key.mem_sortDistinct, List.mem_filterMap]

lemma increasing_shownNames (s : TagSnapshot) (ids : List Int) :
    (s.shownNames ids).Pairwise (· < ·) := by
  refine (Key.pairwise_sortDistinct _).imp ?_
  intro a b hab
  exact (Key.lt_text a b).mp hab

/-- Some of the ids that a name resolves to are among those of a thread exactly if the thread shows
the name. -/
lemma mem_shownNames_ofTags {tags : List Tag} (hids : (tags.map Tag.id).Nodup) {ids : List Int}
    {name : Text} :
    name ∈ (ofTags tags).shownNames ids ↔ ∃ id ∈ (ofTags tags).resolve name, id ∈ ids := by
  simp only [mem_shownNames, name?_ofTags hids, mem_resolve_ofTags]
  constructor
  · rintro ⟨id, hid, htag⟩
    exact ⟨id, htag, hid⟩
  · rintro ⟨id, htag, hid⟩
    exact ⟨id, hid, htag⟩

end TagSnapshot

namespace Store

lemma map_id_loadTags (s : Store) : s.loadTags.map Tag.id = s.tags.keys := by
  rw [loadTags, List.map_map]
  rfl

/-- The tags of a record are those that its thread is linked to. -/
lemma mem_tagIds_record {s : Store} {t : Thread} {id : Int} :
    id ∈ (s.record t).tagIds ↔ s.hasTag t.id id = true := by
  exact mem_map_tag_linksOf

end Store

/-- The tag names shown with a result agree with those that the request includes and excludes. -/
structure Request.TagsAgree (r : Request) (tags : TagSnapshot) (shown : List Text) : Prop where
  all : r.tagLogic = .all → ∀ name ∈ normalNames r.includeTags, tags.resolve name ≠ [] →
    name ∈ shown
  any : r.tagLogic = .any → (∃ name ∈ normalNames r.includeTags, tags.resolve name ≠ []) →
    ∃ name ∈ normalNames r.includeTags, name ∈ shown
  excluded : ∀ name ∈ normalNames r.excludeTags, name ∉ shown
  increasing : shown.Pairwise (· < ·)

namespace Search

variable {g : SearchSettings} {s : Store} {q : Query} {now : Instant}

/-- A candidate shows the names that it was selected by. -/
lemma tagsAgree_of_candidate {r : Request} (h : r.validate now = .ok q) {tags : List Tag}
    (hids : (tags.map Tag.id).Nodup) {t : Thread}
    (ht : t ∈ s.candidates (q.compile (.ofTags tags)).filter) :
    r.TagsAgree (.ofTags tags) ((TagSnapshot.ofTags tags).shownNames (s.record t).tagIds) := by
  obtain ⟨hb, -, -, -, -, -, -, hq⟩ := Request.validate_eq_ok_iff.mp h
  have hviewer : q.collectedOnly = true → q.viewer ≠ none := by
    rw [hq]
    exact hb.viewer
  obtain ⟨hadmits, -⟩ := (Query.forall_mem_compile q (.ofTags tags) s t hviewer).mp
    ((Store.mem_candidates s t).mp ht).2
  have hinclude : q.includeTags = Request.normalNames r.includeTags := by rw [hq]
  have hexclude : q.excludeTags = Request.normalNames r.excludeTags := by rw [hq]
  have hlogic : q.tagLogic = r.tagLogic := by rw [hq]
  have hshown (name : Text) :
      name ∈ (TagSnapshot.ofTags tags).shownNames (s.record t).tagIds ↔
        ∃ id ∈ (TagSnapshot.ofTags tags).resolve name, s.hasTag t.id id = true := by
    rw [TagSnapshot.mem_shownNames_ofTags hids]
    simp only [Store.mem_tagIds_record]
  refine ⟨?_, ?_, ?_, TagSnapshot.increasing_shownNames _ _⟩
  · intro hall name hname hresolves
    rw [hshown]
    exact hadmits.allTags (hlogic.trans hall) name (hinclude ▸ hname) hresolves
  · intro hany hresolves
    rw [← hinclude] at hresolves ⊢
    obtain ⟨name, hname, hcarried⟩ := hadmits.anyTag (hlogic.trans hany) hresolves
    exact ⟨name, hname, (hshown name).mpr hcarried⟩
  · intro name hname hmem
    obtain ⟨id, hid, hcarried⟩ := (hshown name).mp hmem
    rw [hadmits.noTag name (hexclude ▸ hname) id hid] at hcarried
    exact Bool.false_ne_true hcarried

/-- The results of a search show tags that agree with the request, whatever has been stored since
the tags were loaded. -/
theorem run_tags_agree (before since : List Write) (resolver : TagResolver)
    (config : RankingConfig Float) (boost : Ranking.Boost) {r : Request} {now : Instant} {q : Query}
    (h : r.validate now = .ok q) :
    let tags := (resolver.rebuild (.ok (Store.after before).loadTags)).2.current
    let s := Store.after (before ++ since)
    ∃ calls page, (∀ e, run (s.backend e) ⟨tags, config, boost⟩ r now = e.reply calls page) ∧
      ∀ x ∈ page.results, r.TagsAgree tags x.tags := by
  intro tags s
  have hids : ((Store.after before).loadTags.map Tag.id).Nodup := by
    rw [Store.map_id_loadTags]
    exact Table.nodup_keys _
  refine ⟨_, _, run_of_valid h, ?_⟩
  intro x hx
  obtain ⟨hit, hhit, rfl⟩ := List.mem_map.mp hx
  obtain ⟨t, ht, hrecord⟩ := mem_found (Store.sound_after _) hhit
  have hagree : r.TagsAgree tags (tags.shownNames (s.record t).tagIds) :=
    tagsAgree_of_candidate h hids ht
  rw [← hrecord] at hagree
  exact hagree

/-- Two tags of one name, and one of them is renamed after the tags were loaded. The thread carries
it, and a tag that is not known. -/
theorem run_tags_agree_renamed :
    let t : Thread := ⟨1, 1, 1, ['x'], ⟨0, 0⟩, ⟨0, 0⟩, 0, 0, none, [], 0⟩
    let before : List Write := [.tag ⟨10, ['b']⟩, .tag ⟨11, ['b']⟩, .tag ⟨12, ['a']⟩]
    let since : List Write := [.tag ⟨11, ['c']⟩, .thread t [12, 11, 99]]
    let tags := (TagResolver.empty.rebuild (.ok (Store.after before).loadTags)).2.current
    let s := Store.after (before ++ since)
    let r : Request :=
      { includeTags := [[' ', 'b'], ['d']], excludeTags := [['c']],
        sortMethod := "created_at".toList }
    ∃ q, r.validate ⟨0, 0⟩ = .ok q ∧
      ∃ page, (run (s.backend .sqlite) ⟨tags, .standard, Ranking.noBoost⟩ r ⟨0, 0⟩).1 = .ok page ∧
        page.results.map Summary.tags = [[['a'], ['b']]] ∧
        ∀ x ∈ page.results, r.TagsAgree tags x.tags := by
  intro t before since tags s r
  have hq : r.validate ⟨0, 0⟩ = .ok _ := rfl
  obtain ⟨calls, page, hrun, hagree⟩ :=
    run_tags_agree before since .empty .standard Ranking.noBoost hq
  obtain ⟨hcalls, hpage⟩ := eq_of_runs hq hrun
  have hanswers : Engine.sqlite.Answers calls := by
    rw [← hcalls]
    decide +kernel
  refine ⟨_, hq, page, ?_, ?_, hagree⟩
  · rw [hrun, Engine.reply_of_answers hanswers]
  · rw [← hpage]
    decide +kernel

end Search

end ForumSearch
