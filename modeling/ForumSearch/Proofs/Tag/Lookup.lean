import ForumSearch.Proofs.Search.ShownTags

/-!
# Look-ups in a snapshot

A list of tags may repeat a tag, list one name under several ids and one id under several names. The
ids of a name keep their first places in the list, the name of an id is the one listed last, and where
no id has two names the two look-ups are inverse to each other.
-/

namespace ForumSearch.TagSnapshot

/-- The ids that are listed with a name, in the order of the list. -/
def listedIds (tags : List Tag) (name : Text) : List Int :=
  (tags.filter fun tag => tag.name = name).map Tag.id

/-- The tag that is listed last with an id. -/
def lastListed? (tags : List Tag) (id : Int) : Option Tag :=
  tags.reverse.find? fun tag => tag.id = id

section Lists

variable (tags : List Tag) (tag : Tag)

lemma listedIds_concat (name : Text) :
    listedIds (tags ++ [tag]) name =
      listedIds tags name ++ if tag.name = name then [tag.id] else [] := by
  by_cases h : tag.name = name
  · simp [listedIds, h]
  · simp [listedIds, h]

lemma mem_listedIds (name : Text) (id : Int) :
    id ∈ listedIds tags name ↔ id ∈ (ofTags tags).resolve name := by
  rw [mem_resolve_ofTags, listedIds, List.mem_map]
  constructor
  · rintro ⟨⟨i, n⟩, htag, rfl⟩
    obtain ⟨hmem, hname⟩ := List.mem_filter.mp htag
    rwa [← of_decide_eq_true hname]
  · intro hmem
    exact ⟨⟨id, name⟩, List.mem_filter.mpr ⟨hmem, decide_eq_true rfl⟩, rfl⟩

lemma lastListed?_concat (id : Int) :
    lastListed? (tags ++ [tag]) id = if tag.id = id then some tag else lastListed? tags id := by
  rw [lastListed?, List.reverse_concat, List.find?_cons]
  by_cases h : tag.id = id
  · simp [h]
  · simp [h, lastListed?]

lemma lastListed?_eq_none_iff (id : Int) :
    lastListed? tags id = none ↔ ∀ tag ∈ tags, tag.id ≠ id := by
  simp [lastListed?]

lemma of_lastListed? {id : Int} (h : lastListed? tags id = some tag) : tag ∈ tags ∧ tag.id = id := by
  have hfound := List.find?_some h
  exact ⟨List.mem_reverse.mp (List.mem_of_find?_eq_some h), of_decide_eq_true hfound⟩

end Lists

/-- Ids resolve in the order of their first occurrences. -/
lemma pairwise_resolve_ofTags (tags : List Tag) (name : Text) :
    ((ofTags tags).resolve name).Pairwise fun a b =>
      (listedIds tags name).idxOf a < (listedIds tags name).idxOf b := by
  induction tags using List.reverseRecOn with
  | nil => exact .nil
  | append_singleton tags tag ih =>
    have hkept : ∀ ids, ((ofTags tags).resolve name).Pairwise fun a b =>
        (listedIds tags name ++ ids).idxOf a < (listedIds tags name ++ ids).idxOf b := by
      intro ids
      refine ih.imp_of_mem ?_
      intro a b ha hb hab
      rwa [List.idxOf_append_of_mem ((mem_listedIds tags name a).mpr ha),
        List.idxOf_append_of_mem ((mem_listedIds tags name b).mpr hb)]
    rw [ofTags_concat, resolve_addTag, listedIds_concat]
    split_ifs with hname hid
    · exact hkept _
    · refine List.pairwise_append.mpr ⟨hkept _, List.pairwise_singleton _ _, ?_⟩
      intro a ha b hb
      obtain rfl := List.mem_singleton.mp hb
      have hold := (mem_listedIds tags name a).mpr ha
      have hnew : tag.id ∉ listedIds tags name := mt (mem_listedIds tags name tag.id).mp hid
      rw [List.idxOf_append_of_mem hold, List.idxOf_append_of_notMem hnew]
      exact Nat.lt_add_right _ (List.idxOf_lt_length_of_mem hold)
    · exact hkept _

/-- An id goes by the name that it was listed with last. -/
lemma name?_eq_lastListed? (tags : List Tag) (id : Int) :
    (ofTags tags).name? id = (lastListed? tags id).map Tag.name := by
  induction tags using List.reverseRecOn with
  | nil => rfl
  | append_singleton tags tag ih =>
    rw [ofTags_concat, name?_addTag, lastListed?_concat, ih]
    by_cases h : tag.id = id
    · rw [if_pos h, if_pos h]
      rfl
    · rw [if_neg h, if_neg h]

lemma increasing_names (s : TagSnapshot) : s.names.Pairwise (· < ·) := by
  refine List.pairwise_map.mpr (s.idsOf.sorted.imp ?_)
  intro a b hab
  exact (Key.lt_text a.1 b.1).mp hab

lemma mem_keys_nameOf (tags : List Tag) (id : Int) :
    id ∈ (ofTags tags).nameOf.keys ↔ id ∈ tags.map Tag.id := by
  have hname : (ofTags tags).nameOf.get? id = (lastListed? tags id).map Tag.name :=
    name?_eq_lastListed? tags id
  rw [Table.mem_keys, Table.contains, hname, Option.isSome_map, List.mem_map]
  cases h : lastListed? tags id with
  | none =>
    have hnone := (lastListed?_eq_none_iff tags id).mp h
    simpa using hnone
  | some tag => simpa using ⟨tag, of_lastListed? tags tag h⟩

/-- A snapshot counts the ids of its tags once each. -/
lemma size_ofTags (tags : List Tag) : (ofTags tags).size = (tags.map Tag.id).toFinset.card := by
  have hkeys : (ofTags tags).nameOf.keys.toFinset = (tags.map Tag.id).toFinset := by
    ext id
    rw [List.mem_toFinset, List.mem_toFinset, mem_keys_nameOf]
  rw [← hkeys, List.toFinset_card_of_nodup (Table.nodup_keys _), Table.keys, List.length_map]
  rfl

section All

variable (s : TagSnapshot)

lemma mem_resolveAll (names : List Text) (id : Int) :
    id ∈ s.resolveAll names ↔ ∃ name ∈ names, id ∈ s.resolve name :=
  Query.mem_resolveAll s

lemma increasing_resolveAll (names : List Text) : (s.resolveAll names).Pairwise (· < ·) :=
  (Key.pairwise_sortDistinct _).imp of_decide_eq_true

/-- Only the known names count, in no order and once each. -/
lemma resolveAll_congr {names names' : List Text}
    (h : ∀ name, s.resolve name ≠ [] → (name ∈ names' ↔ name ∈ names)) :
    s.resolveAll names' = s.resolveAll names := by
  have hmem : ∀ id, id ∈ s.resolveAll names' ↔ id ∈ s.resolveAll names := by
    intro id
    rw [mem_resolveAll, mem_resolveAll]
    refine exists_congr fun name => and_congr_left fun hid => h name ?_
    exact List.ne_nil_of_mem hid
  have hincreasing := s.increasing_resolveAll
  have hperm : (s.resolveAll names').Perm (s.resolveAll names) :=
    (List.perm_ext_iff_of_nodup ((hincreasing names').imp ne_of_lt)
      ((hincreasing names).imp ne_of_lt)).mpr hmem
  exact hperm.eq_of_pairwise' ((hincreasing names').imp le_of_lt) ((hincreasing names).imp le_of_lt)

end All

/-- Where no id is listed with two names, the ids of a name are those that go by it. -/
lemma mem_resolve_iff_name? {tags : List Tag}
    (h : ∀ t ∈ tags, ∀ u ∈ tags, t.id = u.id → t.name = u.name) (name : Text) (id : Int) :
    id ∈ (ofTags tags).resolve name ↔ (ofTags tags).name? id = some name := by
  rw [mem_resolve_ofTags, name?_eq_lastListed?]
  cases hlast : lastListed? tags id with
  | none =>
    have hnone := (lastListed?_eq_none_iff tags id).mp hlast
    simp only [Option.map_none, reduceCtorEq, iff_false]
    intro hmem
    exact hnone _ hmem rfl
  | some tag =>
    obtain ⟨htag, hid⟩ := of_lastListed? tags tag hlast
    rw [Option.map_some, Option.some.injEq]
    constructor
    · intro hmem
      exact h tag htag ⟨id, name⟩ hmem hid
    · rintro rfl
      rwa [← hid]

/-- What is looked up in a snapshot of a list of tags. -/
structure Lookups (tags : List Tag) (s : TagSnapshot) : Prop where
  /-- The ids of a name are those listed with it, without repeats. -/
  ids : ∀ name id, id ∈ s.resolve name ↔ ⟨id, name⟩ ∈ tags
  ids_nodup : ∀ name, (s.resolve name).Nodup
  /-- They stand in the order in which they first occur. -/
  ids_order : ∀ name, (s.resolve name).Pairwise fun a b =>
    (listedIds tags name).idxOf a < (listedIds tags name).idxOf b
  name : ∀ id, s.name? id = (lastListed? tags id).map Tag.name
  names : ∀ name, name ∈ s.names ↔ s.resolve name ≠ []
  names_increasing : s.names.Pairwise (· < ·)
  size : s.size = (tags.map Tag.id).toFinset.card
  all : ∀ names id, id ∈ s.resolveAll names ↔ ∃ name ∈ names, id ∈ s.resolve name
  all_increasing : ∀ names, (s.resolveAll names).Pairwise (· < ·)
  /-- The order of the names, repeats and unknown names do not matter. -/
  all_congr : ∀ names names',
    (∀ name, s.resolve name ≠ [] → (name ∈ names' ↔ name ∈ names)) →
      s.resolveAll names' = s.resolveAll names
  inverse : (∀ t ∈ tags, ∀ u ∈ tags, t.id = u.id → t.name = u.name) →
    ∀ name id, id ∈ s.resolve name ↔ s.name? id = some name

/-- The snapshot of any list of tags keeps the first places of the ids of a name and the last name of
an id. Names and the ids of several names come in increasing order. -/
theorem lookups_ofTags (tags : List Tag) : Lookups tags (ofTags tags) where
  ids := mem_resolve_ofTags tags
  ids_nodup := nodup_resolve_ofTags tags
  ids_order := pairwise_resolve_ofTags tags
  name := name?_eq_lastListed? tags
  names := mem_names_ofTags tags
  names_increasing := increasing_names _
  size := size_ofTags tags
  all := mem_resolveAll _
  all_increasing := increasing_resolveAll _
  all_congr _ _ h := resolveAll_congr _ h
  inverse := mem_resolve_iff_name?

/-- A tag is listed twice, and ids are not listed in order. -/
theorem lookups_ofTags_repeated :
    let tags : List Tag := [⟨2, ['b']⟩, ⟨1, ['b']⟩, ⟨3, ['a']⟩, ⟨2, ['b']⟩]
    let s := ofTags tags
    (∀ t ∈ tags, ∀ u ∈ tags, t.id = u.id → t.name = u.name) ∧
      s.resolve ['b'] = [2, 1] ∧ s.names = [['a'], ['b']] ∧
      s.resolveAll [['b'], ['c'], ['a'], ['b']] = s.resolveAll [['a'], ['b']] ∧
      (∀ name id, id ∈ s.resolve name ↔ s.name? id = some name) ∧
      s.size = (tags.map Tag.id).toFinset.card := by
  intro tags s
  have hnames : ∀ t ∈ tags, ∀ u ∈ tags, t.id = u.id → t.name = u.name := by decide
  have hlisted : s.names = [['a'], ['b']] := by decide
  have h := lookups_ofTags tags
  refine ⟨hnames, by decide, hlisted, h.all_congr _ _ ?_, h.inverse hnames, h.size⟩
  intro name hknown
  have hname : name ∈ [['a'], ['b']] := hlisted ▸ (h.names name).mpr hknown
  fin_cases hname
  · simp
  · simp

/-- The later name of an id counts, and the id resolves under both. -/
example :
    let s := ofTags [⟨1, ['b']⟩, ⟨1, ['a']⟩]
    s.name? 1 = some ['a'] ∧ s.resolve ['a'] = [1] ∧ s.resolve ['b'] = [1] := by
  decide

end ForumSearch.TagSnapshot
