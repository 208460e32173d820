import ForumSearch.Settings.Basic
import ForumSearch.Proofs.Settings.Layering

/-!
# The preset that layers name

A preset is named by a text or by the only key of a table. Tables of several layers merge, so a table
that names a preset can be the work of several layers. But a layer never takes a key away: what the
table names in the end is named by every layer that has put something into it, and in particular by
the last one.
-/

namespace ForumSearch

open Setting

namespace Setting

lemma mem_keys_put {α : Type} {key key' : Text} {value : α} {members : List (Text × α)} :
    key' ∈ (put key value members).map (·.1) ↔ key' = key ∨ key' ∈ members.map (·.1) := by
  induction members with
  | nil => simp [put]
  | cons member members ih =>
    by_cases h : member.1 = key
    · simp [put, h]
    · rw [put, if_neg h, List.map_cons, List.mem_cons, ih, List.map_cons, List.mem_cons,
        or_left_comm]

lemma nodup_keys_put {α : Type} {key : Text} {value : α} {members : List (Text × α)}
    (h : (members.map (·.1)).Nodup) : ((put key value members).map (·.1)).Nodup := by
  induction members with
  | nil => exact List.nodup_singleton key
  | cons member members ih =>
    obtain ⟨hfresh, hnodup⟩ := List.nodup_cons.mp h
    by_cases hkey : member.1 = key
    · rw [put, if_pos hkey]
      exact hkey ▸ h
    · rw [put, if_neg hkey]
      refine List.nodup_cons.mpr ⟨?_, ih hnodup⟩
      rw [mem_keys_put]
      exact not_or.mpr ⟨hkey, hfresh⟩

lemma put_ne_nil {α : Type} (key : Text) (value : α) (members : List (Text × α)) :
    put key value members ≠ [] := by
  cases members with
  | nil => exact List.cons_ne_nil _ _
  | cons member members =>
    rw [put]
    split_ifs <;> exact List.cons_ne_nil _ _

/-- How a table made by some values alone compares to the one that they make out of what was there
before. -/
structure Within (before own whole : List (Text × Setting)) : Prop where
  nodup : (own.map (·.1)).Nodup
  subset : own.map (·.1) ⊆ whole.map (·.1)
  untouched : own = [] → whole = [] ∨ whole = before

namespace Within

variable {before own whole : List (Text × Setting)}

lemma nil : Within before [] [] :=
  ⟨List.nodup_nil, List.Subset.refl _, fun _ => .inl rfl⟩

lemma put (h : Within before own whole) (key : Text) (v w : Setting) :
    Within before (put key v own) (put key w whole) where
  nodup := nodup_keys_put h.nodup
  subset := by
    intro key' hkey'
    rw [mem_keys_put] at hkey' ⊢
    exact hkey'.imp_right (h.subset ·)
  untouched hnil := absurd hnil (put_ne_nil _ _ _)

lemma overrideAll (h : Within before own whole) (members : List (Text × Setting)) :
    Within before (overrideAll own members) (overrideAll whole members) := by
  induction members generalizing own whole with
  | nil =>
    rw [Setting.overrideAll, Setting.overrideAll]
    exact h
  | cons member members ih =>
    rw [Setting.overrideAll, Setting.overrideAll]
    exact ih (h.put _ _ _)

lemma place {own whole : Option Setting} (h : Within before (membersOf own) (membersOf whole))
    (p : Placing) :
    Within before (membersOf (some (place p.2 p.1 own))) (membersOf (some (place p.2 p.1 whole))) := by
  match p with
  | ([], .table members) =>
    simp only [Setting.place, override]
    exact h.overrideAll members
  | (.key name :: path, value) => exact h.put name _ _
  | (.index position :: path, value) => exact nil
  | ([], .null) | ([], .bool _) | ([], .integer _) | ([], .number _) | ([], .text _)
  | ([], .list _) =>
    simp only [Setting.place, override]
    exact nil

lemma settle (found : Option Setting) (placings : List Placing) :
    Within (membersOf found) (membersOf (settle none placings))
      (membersOf (settle found placings)) := by
  induction placings using List.reverseRecOn with
  | nil => exact ⟨List.nodup_nil, List.nil_subset _, fun _ => .inr rfl⟩
  | append_singleton placings p ih =>
    rw [settle_concat, settle_concat]
    exact ih.place p

/-- Where one key is all that there is in the end, either the values alone put nothing into the table,
and the key was there before, or this one key is what they put there. -/
lemma eq_of_singleton {name : Text} {v : Setting} (h : Within before own [(name, v)]) :
    own = [] ∧ before = [(name, v)] ∨ ∃ w, own = [(name, w)] := by
  match own, h with
  | [], h => exact .inl ⟨rfl, ((h.untouched rfl).resolve_left (List.cons_ne_nil _ _)).symm⟩
  | [(key, w)], h =>
    have hkey : key = name := by simpa using h.subset
    exact .inr ⟨w, by rw [hkey]⟩
  | (key, w) :: (key', w') :: rest, h =>
    have hkey : key = name := by simpa using h.subset (by simp : key ∈ _)
    have hkey' : key' = name := by simpa using h.subset (by simp : key' ∈ _)
    exact absurd h.nodup (by simp [hkey, hkey'])

end Within

/-- Only a value placed so that there is a table leaves one. -/
lemma tabular_of_place_eq_table {p : Placing} {base : Option Setting}
    {members : List (Text × Setting)} (h : place p.2 p.1 base = .table members) :
    Tabular p = true := by
  obtain ⟨path, value⟩ := p
  cases path with
  | nil =>
    cases value with
    | table members => rfl
    | _ =>
      simp only [place, override] at h
      cases h
  | cons step path =>
    cases step with
    | key name => rfl
    | index position => cases h

lemma exists_table_of_settle_eq_table {found : Option Setting} {placings : List Placing}
    {members : List (Text × Setting)} (hplacings : placings ≠ [])
    (h : settle found placings = some (.table members)) :
    ∃ own, settle none placings = some (.table own) := by
  obtain ⟨front, p, rfl⟩ := (List.eq_nil_or_concat placings).resolve_left hplacings
  rw [List.concat_eq_append, settle_concat, Option.some.injEq] at h
  obtain ⟨own, hown, -⟩ := place_of_tabular (tabular_of_place_eq_table h) (settle none front)
  exact ⟨own, by rw [List.concat_eq_append, settle_concat, hown]⟩

/-- Plain values are of no account to what is placed over them. -/
lemma settle_some_of_plain {v : Setting} (hv : v.Plain) {placings : List Placing}
    (h : placings ≠ []) : settle (some v) placings = settle none placings := by
  obtain ⟨p, rest, rfl⟩ := List.exists_cons_of_ne_nil h
  have hfirst : place p.2 p.1 (some v) = place p.2 p.1 none := by
    have hmembers : membersOf (some v) = membersOf none := by
      cases v with
      | table members => exact hv.elim
      | _ => rfl
    have hitems : itemsOf (some v) = itemsOf none := by
      cases v with
      | list items => exact hv.elim
      | _ => rfl
    match p with
    | ([], .table members) => simp only [place, override, hmembers]
    | (.key name :: path, value) => simp only [place, hmembers]
    | (.index position :: path, value) => simp only [place, hitems]
    | ([], .null) | ([], .bool _) | ([], .integer _) | ([], .number _) | ([], .text _)
    | ([], .list _) => simp only [place, override]
  change settle (some (place p.2 p.1 (some v))) rest = settle (some (place p.2 p.1 none)) rest
  rw [hfirst]

def IsEmptyTable : Setting → Bool
  | .table [] => true
  | _ => false

lemma Plain.isEmptyTable {v : Setting} (hv : v.Plain) : v.IsEmptyTable = false := by
  cases v with
  | table members => exact hv.elim
  | _ => rfl

end Setting

namespace Layer

/-- What a layer says of a key, where a table with nothing in it says nothing. -/
def named (key : Text) (layer : Layer) : Option Setting :=
  (layer.given key).filter fun v => !v.IsEmptyTable

lemma last?_named_eq_none {key : Text} {layers : List Layer}
    (h : last? (given key) layers = none) : last? (named key) layers = none := by
  rw [last?_eq_none_iff] at h ⊢
  intro layer hlayer
  rw [named, h layer hlayer]
  rfl

lemma last?_named_of_last?_given {key : Text} {layers : List Layer} {v : Setting}
    (hv : v.IsEmptyTable = false) (h : last? (given key) layers = some v) :
    last? (named key) layers = some v := by
  induction layers using List.reverseRecOn with
  | nil => exact nomatch h
  | append_singleton layers layer ih =>
    rw [last?_concat] at h ⊢
    rw [named]
    cases hgiven : layer.given key with
    | none =>
      rw [hgiven] at h
      exact ih h
    | some w =>
      rw [hgiven] at h
      obtain rfl : w = v := Option.some.inj h
      rw [Option.filter_some, hv]
      rfl

/-- A table with one key comes from a layer with this key alone that no layer but empty tables
follows. -/
lemma exists_last?_named_of_stack {key name : Text} {layers : List Layer} {v : Setting}
    (h : (stack layers).lookup key = some (.table [(name, v)])) :
    ∃ w, last? (named key) layers = some (.table [(name, w)]) := by
  rw [lookup_stack] at h
  induction layers using List.reverseRecOn generalizing v with
  | nil => exact nomatch h
  | append_singleton layers layer ih =>
    rw [List.flatMap_append, List.flatMap_singleton, settle_append] at h
    rw [last?_concat, named, given_eq]
    by_cases hplacings : placingsAt key layer = []
    · rw [hplacings] at h ⊢
      exact ih h
    · obtain ⟨own, hown⟩ := exists_table_of_settle_eq_table hplacings h
      have hwithin := Within.settle (settle none (layers.flatMap (placingsAt key)))
        (placingsAt key layer)
      rw [h, hown] at hwithin
      rw [hown]
      obtain ⟨rfl, hbefore⟩ | ⟨w, rfl⟩ := hwithin.eq_of_singleton
      · refine ih (v := v) ?_
        cases hfound : settle none (layers.flatMap (placingsAt key)) with
        | none =>
          rw [hfound] at hbefore
          exact nomatch hbefore
        | some found =>
          rw [hfound] at hbefore
          cases found with
          | table members => exact congrArg (fun members => some (table members)) hbefore
          | _ => exact nomatch hbefore
      · exact ⟨w, rfl⟩

end Layer

namespace Settings

open Layer

lemma presetOf?_eq_some_cases {found : Option Setting} {preset : Option RankingPreset}
    (h : presetOf? found = some preset) :
    found = none ∨ (∃ v : Setting, v.Plain ∧ found = some v) ∨
      ∃ name v, found = some (.table [(name, v)]) := by
  cases found with
  | none => exact .inl rfl
  | some v =>
    refine .inr ?_
    match v, h with
    | .table [(name, w)], _ => exact .inr ⟨name, w, rfl⟩
    | .null, _ | .bool _, _ | .integer _, _ | .number _, _ | .text _, _ =>
      exact .inl ⟨_, by trivial, rfl⟩

variable {layers : List Layer} {key : Text} {preset : Option RankingPreset}

/-- The preset of the tree of settings is the one that the last layer names. -/
theorem presetOf?_last?_named (h : presetOf? ((stack layers).lookup key) = some preset) :
    presetOf? (last? (named key) layers) = some preset := by
  obtain hnone | ⟨v, hv, hplain⟩ | ⟨name, v, htable⟩ := presetOf?_eq_some_cases h
  · rw [last?_named_eq_none (lookup_stack_eq_none_iff.mp hnone), ← hnone, h]
  · have hgiven := (lookup_stack_eq_some_iff_of_plain hv).mp hplain
    rw [last?_named_of_last?_given hv.isEmptyTable hgiven, ← hplain, h]
  · obtain ⟨w, hw⟩ := exists_last?_named_of_stack htable
    rw [hw]
    rw [htable] at h
    exact h

/-- A preset that is named last by other than a table is the preset of the tree of settings. -/
theorem presetOf?_stack (hplain : ∀ v, last? (given key) layers = some v → v.Plain) :
    presetOf? ((stack layers).lookup key) = presetOf? (last? (named key) layers) := by
  cases hgiven : last? (given key) layers with
  | none => rw [lookup_stack_eq_none_iff.mpr hgiven, last?_named_eq_none hgiven]
  | some v =>
    have hv := hplain v hgiven
    rw [(lookup_stack_eq_some_iff_of_plain hv).mpr hgiven,
      last?_named_of_last?_given hv.isEmptyTable hgiven]

/-- What layers say of the preset, they also say over the preset that they name. -/
lemma presetOf?_settle_name {placings : List Placing}
    (h : presetOf? (settle none placings) = some preset) :
    presetOf? (settle (preset.map fun p => .text p.name.toList) placings) = some preset := by
  cases preset with
  | none => exact h
  | some p =>
    have hplacings : placings ≠ [] := by
      rintro rfl
      exact nomatch h
    rw [Option.map_some, settle_some_of_plain (by trivial) hplacings, h]

end Settings

end ForumSearch
