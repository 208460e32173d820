import ForumSearch.Proofs.Search.Candidates

/-!
# Snapshots of tags

A snapshot lists the names of its tags, and a name resolves to the ids that were listed under it.
Requests trim the names they ask for: a listed name is searched for when it has no blanks around
it, and a padded one is searched for as if it had none.
-/

namespace ForumSearch

namespace TagSnapshot

lemma ofTags_concat (tags : List Tag) (tag : Tag) :
    ofTags (tags ++ [tag]) = (ofTags tags).addTag tag := by
  simp [ofTags, List.foldl_append]

lemma resolve_addTag (s : TagSnapshot) (tag : Tag) (name : Text) :
    (s.addTag tag).resolve name =
      if tag.name = name then
        if tag.id ∈ s.resolve name then s.resolve name else s.resolve name ++ [tag.id]
      else s.resolve name := by
  unfold addTag resolve
  rw [Table.get?_insert]
  by_cases hname : tag.name = name
  · simp [hname]
  · simp [hname]

/-- A name resolves to the ids that it was listed with. -/
theorem mem_resolve_ofTags (tags : List Tag) (name : Text) (id : Int) :
    id ∈ (ofTags tags).resolve name ↔ ⟨id, name⟩ ∈ tags := by
  induction tags using List.reverseRecOn with
  | nil => simp [ofTags, resolve, empty]
  | append_singleton tags tag ih =>
    obtain ⟨i, n⟩ := tag
    rw [ofTags_concat, resolve_addTag, List.mem_append, List.mem_singleton, Tag.mk.injEq, ← ih]
    by_cases hname : n = name
    · subst hname
      by_cases hid : i ∈ (ofTags tags).resolve n
      · simp only [hid, if_true, and_true]
        refine (or_iff_left_of_imp ?_).symm
        rintro rfl
        exact hid
      · simp [hid]
    · simp [hname, Ne.symm hname]

lemma nodup_resolve_ofTags (tags : List Tag) (name : Text) :
    ((ofTags tags).resolve name).Nodup := by
  induction tags using List.reverseRecOn with
  | nil => exact List.nodup_nil
  | append_singleton tags tag ih =>
    rw [ofTags_concat, resolve_addTag]
    split_ifs with hname hid
    · exact ih
    · exact ih.append (List.nodup_singleton _) (by simpa using hid)
    · exact ih

lemma get?_idsOf_ne_nil (tags : List Tag) (name : Text) :
    (ofTags tags).idsOf.get? name ≠ some [] := by
  induction tags using List.reverseRecOn with
  | nil => simp [ofTags, empty]
  | append_singleton tags tag ih =>
    rw [ofTags_concat, addTag, Table.get?_insert]
    split_ifs with hname hid
    · intro hnil
      rw [Option.some.inj hnil] at hid
      simp at hid
    · simp
    · exact ih

/-- The names of a snapshot are those that resolve. -/
theorem mem_names_ofTags (tags : List Tag) (name : Text) :
    name ∈ (ofTags tags).names ↔ (ofTags tags).resolve name ≠ [] := by
  have hkey : name ∈ (ofTags tags).names ↔ ∃ ids, (ofTags tags).idsOf.get? name = some ids := by
    rw [names, Table.mem_keys, Table.contains_iff]
  have hne := get?_idsOf_ne_nil tags name
  rw [hkey, resolve]
  cases h : (ofTags tags).idsOf.get? name with
  | none => simp
  | some ids =>
    rw [h] at hne
    simpa using hne

/-- The ids of a single name are asked for in increasing order. -/
lemma resolveAll_singleton (tags : List Tag) (name : Text) :
    (ofTags tags).resolveAll [name] = ((ofTags tags).resolve name).mergeSort (· ≤ ·) := by
  set ids := (ofTags tags).resolve name with hids
  have hall : (ofTags tags).resolveAll [name] = Key.sortDistinct ids := by
    simp [resolveAll, hids]
  have hstrict : (Key.sortDistinct ids).Pairwise (· < ·) :=
    (Key.pairwise_sortDistinct ids).imp of_decide_eq_true
  have hperm : (Key.sortDistinct ids).Perm (ids.mergeSort (· ≤ ·)) := by
    refine (List.Perm.trans ?_ (List.mergeSort_perm ids _).symm)
    rw [List.perm_ext_iff_of_nodup (hstrict.imp ne_of_lt) (nodup_resolve_ofTags tags name)]
    exact fun _ => Key.mem_sortDistinct
  rw [hall]
  exact hperm.eq_of_pairwise' (hstrict.imp le_of_lt) (List.pairwise_mergeSort' _ ids)

end TagSnapshot

namespace Request

lemma normalNames_singleton (name : Text) :
    normalNames [name] = if name.trim = [] then [] else [name.trim] := by
  by_cases h : name.trim = []
  · simp [normalNames, h, Text.distinct]
  · simp [normalNames, h, Text.distinct]

/-- Every listed name without blanks around it can be searched for: a request that includes it
alone is accepted and asks for the ids that are listed under it, so only threads that carry one of
them are candidates. -/
theorem search_listed_name (tags : List Tag) (name : Text) (now : Instant)
    (hlisted : name ∈ (TagSnapshot.ofTags tags).names) (htrim : name.trim = name)
    (hname : name ≠ []) :
    ∃ q, ({ includeTags := [name] } : Request).validate now = .ok q ∧
      .anyTag ((TagSnapshot.ofTags tags).resolve name) ∈
        (q.compile (TagSnapshot.ofTags tags)).filter ∧
      (q.compile (TagSnapshot.ofTags tags)).tagIds =
        ((TagSnapshot.ofTags tags).resolve name).mergeSort (· ≤ ·) ∧
      ∀ (s : Store) (t : Thread),
        t ∈ s.candidates (q.compile (TagSnapshot.ofTags tags)).filter →
          ∃ id ∈ (TagSnapshot.ofTags tags).resolve name, s.hasTag t.id id = true := by
  obtain ⟨q, hq, hcompile⟩ := Query.compile_plain (TagSnapshot.ofTags tags)
    (r := { includeTags := [name] }) rfl rfl rfl now
  have hids : (TagSnapshot.ofTags tags).resolve name ≠ [] :=
    (TagSnapshot.mem_names_ofTags tags name).mp hlisted
  have hnormal : normalNames [name] = [name] := by
    rw [normalNames_singleton, htrim, if_neg hname]
  have hasked : .anyTag ((TagSnapshot.ofTags tags).resolve name) ∈
      (q.compile (TagSnapshot.ofTags tags)).filter := by
    simp [hcompile, hnormal, hids]
  refine ⟨q, hq, hasked, ?_, ?_⟩
  · rw [hcompile, hnormal, TagSnapshot.resolveAll_singleton]
  · intro s t ht
    have hall := ((Store.mem_candidates s t).mp ht).2
    exact (Store.satisfies_anyTag s t _).mp (hall _ hasked)

/-- Two tags go by one name. -/
theorem search_listed_name_of_two :
    let tags : List Tag := [⟨12, ['a']⟩, ⟨11, ['b']⟩, ⟨10, ['a']⟩]
    let t : Thread := ⟨1, 1, 1, ['x'], ⟨0, 0⟩, ⟨0, 0⟩, 0, 0, none, [], 0⟩
    let s := Store.after [.thread t [10]]
    ['a'] ∈ (TagSnapshot.ofTags tags).names ∧ Text.trim ['a'] = ['a'] ∧
      ∃ q, ({ includeTags := [['a']] } : Request).validate ⟨0, 0⟩ = .ok q ∧
        .anyTag [12, 10] ∈ (q.compile (TagSnapshot.ofTags tags)).filter ∧
        (q.compile (TagSnapshot.ofTags tags)).tagIds = [12, 10].mergeSort (· ≤ ·) ∧
        (t ∈ s.candidates (q.compile (TagSnapshot.ofTags tags)).filter →
          ∃ id ∈ [12, 10], s.hasTag t.id id = true) := by
  intro tags t s
  have hlisted : ['a'] ∈ (TagSnapshot.ofTags tags).names := by decide
  have htrim : Text.trim ['a'] = ['a'] := by decide
  have hids : (TagSnapshot.ofTags tags).resolve ['a'] = [12, 10] := by decide
  have hsearch := search_listed_name tags ['a'] ⟨0, 0⟩ hlisted htrim (by decide)
  rw [hids] at hsearch
  obtain ⟨q, hq, hasked, htagIds, hcarries⟩ := hsearch
  exact ⟨hlisted, htrim, q, hq, hasked, htagIds, hcarries s t⟩

/-- A listed name that begins with a blank is looked up without it, where nothing is listed, and a
blank name is not looked up at all: the search is not restricted to the tag, and a thread without
tags is a candidate. -/
theorem padded_names_not_searched :
    let snapshot := TagSnapshot.ofTags [⟨10, [' ', 'A']⟩, ⟨50, []⟩]
    let t : Thread := ⟨1, 1, 1, ['x'], ⟨0, 0⟩, ⟨0, 0⟩, 0, 0, none, [], 0⟩
    ∀ name ∈ [[' ', 'A'], []],
      name ∈ snapshot.names ∧ snapshot.resolve name ≠ [] ∧
        ∃ q, ({ includeTags := [name] } : Request).validate ⟨0, 0⟩ = .ok q ∧
          q.compile snapshot = ⟨[.notDeleted], []⟩ ∧
          t ∈ (Store.after [.thread t []]).candidates (q.compile snapshot).filter := by
  intro snapshot t name hname
  obtain ⟨q, hq, hcompile⟩ := Query.compile_plain snapshot
    (r := { includeTags := [name] }) rfl rfl rfl ⟨0, 0⟩
  have hlisted : ∀ name ∈ [[' ', 'A'], []],
      name ∈ snapshot.names ∧ snapshot.resolve name ≠ [] := by decide
  have hdropped : ∀ name ∈ [[' ', 'A'], []],
      ((normalNames [name]).map snapshot.resolve).filter (fun ids => !ids.isEmpty) = [] ∧
        snapshot.resolveAll (normalNames [name]) = [] := by decide
  have hfilter : q.compile snapshot = ⟨[.notDeleted], []⟩ := by
    rw [hcompile, (hdropped name hname).1, (hdropped name hname).2]
    rfl
  refine ⟨(hlisted name hname).1, (hlisted name hname).2, q, hq, hfilter, ?_⟩
  rw [hfilter]
  decide

end Request

end ForumSearch
