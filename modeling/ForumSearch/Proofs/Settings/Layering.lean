import ForumSearch.Settings.Layer
import Mathlib

/-!
# Layers of settings key by key

Layers are laid over one another entry by entry, and what ends up at a key depends on the entries for
that key alone. A value that is neither a table nor a list stands at a key exactly if the last entry
for the key puts it there; so it comes from the last layer that says something of the key, and it is
what that layer says all by itself. The same holds of the members of a table, as long as the entries
leave it a table.
-/

namespace ForumSearch

/-- A value and the place for it, as a path from where it is laid. -/
abbrev Placing := Path × Setting

namespace Setting

lemma lookup_cons {α : Type} (key key' : Text) (value : α) (members : List (Text × α)) :
    ((key', value) :: members).lookup key =
      if key' = key then some value else members.lookup key := by
  rw [List.lookup_cons]
  by_cases h : key' = key
  · simp [h]
  · simp [h, beq_eq_false_iff_ne.mpr (Ne.symm h)]

lemma lookup_put {α : Type} (key key' : Text) (value : α) (members : List (Text × α)) :
    (put key value members).lookup key' =
      if key = key' then some value else members.lookup key' := by
  induction members with
  | nil => simp only [put, lookup_cons, List.lookup_nil]
  | cons member members ih =>
    obtain ⟨k, v⟩ := member
    by_cases hk : k = key
    · subst hk
      simp only [put, if_true, lookup_cons]
      by_cases h : k = key'
      · simp [h]
      · simp [h]
    · simp only [put, if_neg hk, lookup_cons, ih]
      by_cases h : k = key'
      · simp [h, Ne.symm (h ▸ hk)]
      · simp [h]

/-- Neither a table nor a list. -/
def Plain : Setting → Prop
  | .table _ | .list _ => False
  | _ => True

/-- What is found after some values are placed one after the other. -/
def settle (found : Option Setting) (placings : List Placing) : Option Setting :=
  placings.foldl (fun found p => some (place p.2 p.1 found)) found

section Settle

variable (found : Option Setting) (placings : List Placing) (p : Placing)

lemma settle_append (placings' : List Placing) :
    settle found (placings ++ placings') = settle (settle found placings) placings' :=
  List.foldl_append

lemma settle_concat :
    settle found (placings ++ [p]) = some (place p.2 p.1 (settle found placings)) := by
  rw [settle_append]
  rfl

variable {found} {placings}

lemma override_eq_of_plain {v w : Setting} (hv : v.Plain) (base : Option Setting) :
    override base w = v ↔ w = v := by
  cases w with
  | table members =>
    rw [override]
    constructor
    · rintro rfl
      exact hv.elim
    · rintro rfl
      exact hv.elim
  | _ => rw [override]

/-- A plain value is found where it was placed. -/
lemma place_eq_of_plain {v w : Setting} (hv : v.Plain) (path : Path) (base : Option Setting) :
    place w path base = v ↔ path = [] ∧ w = v := by
  match path with
  | [] => simp only [place, override_eq_of_plain hv, true_and]
  | .key name :: path =>
    have hne : place w (.key name :: path) base ≠ v := by
      rintro rfl
      exact hv
    simp [hne]
  | .index position :: path =>
    have hne : place w (.index position :: path) base ≠ v := by
      rintro rfl
      exact hv
    simp [hne]

lemma settle_eq_of_plain {v : Setting} (hv : v.Plain) :
    settle found placings = some v ↔
      placings = [] ∧ found = some v ∨ placings.getLast? = some ([], v) := by
  rcases List.eq_nil_or_concat placings with rfl | ⟨front, ⟨path, w⟩, rfl⟩
  · simp [settle]
  · rw [List.concat_eq_append, settle_concat, Option.some.injEq, place_eq_of_plain hv]
    simp

lemma settle_ne_none (h : placings ≠ []) : settle found placings ≠ none := by
  obtain ⟨front, p, rfl⟩ := (List.eq_nil_or_concat placings).resolve_left h
  rw [List.concat_eq_append, settle_concat]
  exact Option.some_ne_none _

lemma settle_eq_none_iff : settle none placings = none ↔ placings = [] := by
  constructor
  · exact not_imp_not.mp settle_ne_none
  · rintro rfl
    rfl

end Settle

/-- What a value placed somewhere says of a member of the table that it is placed in. -/
def under (key : Text) : Placing → List Placing
  | ([], .table members) => (members.filter fun m => m.1 = key).map fun m => ([], m.2)
  | (.key name :: path, value) => if name = key then [(path, value)] else []
  | _ => []

/-- A value placed so that there is a table. -/
def Tabular : Placing → Bool
  | ([], .table _) => true
  | (.key _ :: _, _) => true
  | _ => false

lemma lookup_overrideAll (base members : List (Text × Setting)) (key : Text) :
    (overrideAll base members).lookup key =
      settle (base.lookup key) (under key ([], .table members)) := by
  induction members generalizing base with
  | nil => rw [overrideAll]; rfl
  | cons member members ih =>
    obtain ⟨k, v⟩ := member
    rw [overrideAll, ih, lookup_put]
    by_cases h : k = key
    · subst h
      simp only [under, List.filter_cons, decide_true, if_true, List.map_cons]
      rfl
    · simp only [under, List.filter_cons, h, decide_false, if_false, Bool.false_eq_true]

/-- Where a value leaves a table, its members are those of before with what it says of each. -/
lemma place_of_tabular {p : Placing} (h : Tabular p = true) (base : Option Setting) :
    ∃ members, place p.2 p.1 base = .table members ∧
      ∀ key, members.lookup key = settle ((membersOf base).lookup key) (under key p) := by
  match p with
  | ([], .table members) =>
    refine ⟨overrideAll (membersOf base) members, ?_, lookup_overrideAll _ _⟩
    rw [place, override]
  | (.key name :: path, value) =>
    refine ⟨_, rfl, ?_⟩
    intro key
    rw [lookup_put]
    by_cases hname : name = key
    · subst hname
      simp only [under, if_true]
      rfl
    · simp only [under, if_neg hname]
      rfl

lemma lookup_settle_of_tabular {placings : List Placing} (h : ∀ p ∈ placings, Tabular p = true)
    (found : Option Setting) (key : Text) :
    (membersOf (settle found placings)).lookup key =
      settle ((membersOf found).lookup key) (placings.flatMap (under key)) := by
  induction placings using List.reverseRecOn with
  | nil => rfl
  | append_singleton placings p ih =>
    obtain ⟨hfront, hlast⟩ := List.forall_mem_append.mp h
    obtain ⟨members, hplace, hmembers⟩ :=
      place_of_tabular (hlast p (List.mem_singleton_self p)) (settle found placings)
    rw [settle_concat, hplace, List.flatMap_append, settle_append, ← ih hfront,
      List.flatMap_singleton]
    exact hmembers key

lemma exists_table_of_tabular {placings : List Placing} (h : ∀ p ∈ placings, Tabular p = true)
    (members : List (Text × Setting)) :
    ∃ members', settle (some (.table members)) placings = some (.table members') := by
  rcases List.eq_nil_or_concat placings with rfl | ⟨front, p, rfl⟩
  · exact ⟨members, rfl⟩
  · rw [List.concat_eq_append] at h ⊢
    obtain ⟨members', hplace, -⟩ :=
      place_of_tabular (h p (by simp)) (settle (some (.table members)) front)
    rw [settle_concat, hplace]
    exact ⟨members', rfl⟩

end Setting

namespace Layer

open Setting

/-- What a layer places at a key, and inside of what is there. -/
def placingsAt (key : Text) (layer : Layer) : List Placing :=
  layer.filterMap fun entry =>
    match Path.ofKey entry.1 with
    | .key name :: path => if name = key then some (path, entry.2) else none
    | _ => none

lemma exists_ofKey (key : Text) : ∃ name path, Path.ofKey key = .key name :: path := by
  unfold Path.ofKey
  cases hread : Path.readKey key with
  | none => exact ⟨key, [], rfl⟩
  | some read =>
    cases hsteps : Path.readSteps read.2.length read.2 with
    | none => exact ⟨key, [], by simp [hsteps]⟩
    | some steps => exact ⟨read.1, steps, by simp [hsteps]⟩

lemma lookup_enter (members : List (Text × Setting)) (entry : Text × Setting) (key : Text) :
    (enter members entry).lookup key =
      settle (members.lookup key) (placingsAt key [entry]) := by
  obtain ⟨name, path, hpath⟩ := exists_ofKey entry.1
  rw [enter, hpath, place, membersOf, lookup_put]
  by_cases h : name = key
  · subst h
    simp only [placingsAt, List.filterMap_cons, hpath, if_true, List.filterMap_nil]
    rfl
  · simp only [placingsAt, List.filterMap_cons, hpath, if_neg h, List.filterMap_nil]
    rfl

lemma lookup_foldl_enter (layer : Layer) (members : List (Text × Setting)) (key : Text) :
    (layer.foldl enter members).lookup key =
      settle (members.lookup key) (placingsAt key layer) := by
  induction layer generalizing members with
  | nil => rfl
  | cons entry layer ih =>
    have hsplit : placingsAt key (entry :: layer) =
        placingsAt key [entry] ++ placingsAt key layer :=
      List.filterMap_append (l := [entry])
    rw [List.foldl_cons, ih, lookup_enter, hsplit, settle_append]

lemma placingsAt_flatten (key : Text) (layers : List Layer) :
    placingsAt key layers.flatten = layers.flatMap (placingsAt key) :=
  List.filterMap_flatten.trans (List.flatMap_def ..).symm

/-- What stands at a key depends on the entries for the key alone. -/
theorem lookup_stack (layers : List Layer) (key : Text) :
    (stack layers).lookup key = settle none (layers.flatMap (placingsAt key)) := by
  rw [stack, lookup_foldl_enter, placingsAt_flatten]
  rfl

/-- What a layer says of a key all by itself. -/
def given (key : Text) (layer : Layer) : Option Setting :=
  (stack [layer]).lookup key

lemma given_eq (key : Text) (layer : Layer) :
    layer.given key = settle none (placingsAt key layer) := by
  rw [given, lookup_stack, List.flatMap_singleton]

/-- What a layer says of a member of the table at a key. -/
def givenIn (key member : Text) (layer : Layer) : Option Setting :=
  (membersOf (layer.given key)).lookup member

/-- A layer in which nothing but a table is laid at a key. -/
def TabularAt (key : Text) (layer : Layer) : Prop :=
  ∀ p ∈ placingsAt key layer, Tabular p = true

instance (key : Text) (layer : Layer) : Decidable (layer.TabularAt key) :=
  inferInstanceAs (Decidable (∀ p ∈ placingsAt key layer, Tabular p = true))

/-- What a layer places inside of the table at a key. -/
def placingsIn (key member : Text) (layer : Layer) : List Placing :=
  (placingsAt key layer).flatMap (under member)

lemma givenIn_eq {key : Text} {layer : Layer} (h : layer.TabularAt key) (member : Text) :
    layer.givenIn key member = settle none (placingsIn key member layer) := by
  rw [givenIn, given_eq, lookup_settle_of_tabular h]
  rfl

/-- What the last layer says that says anything. -/
def last? {α : Type} (said : Layer → Option α) (layers : List Layer) : Option α :=
  layers.reverse.findSome? said

lemma last?_cons {α : Type} (said : Layer → Option α) (layer : Layer) (layers : List Layer) :
    last? said (layer :: layers) = (last? said layers).or (said layer) := by
  rw [last?, List.reverse_cons, List.findSome?_append, List.findSome?_singleton]
  rfl

lemma last?_concat {α : Type} (said : Layer → Option α) (layers : List Layer) (layer : Layer) :
    last? said (layers ++ [layer]) = (said layer).or (last? said layers) := by
  rw [last?, List.reverse_concat, List.findSome?_cons]
  cases said layer with
  | none => rfl
  | some a => rfl

lemma last?_eq_none_iff {α : Type} {said : Layer → Option α} {layers : List Layer} :
    last? said layers = none ↔ ∀ layer ∈ layers, said layer = none := by
  simp [last?]

lemma last?_congr {α : Type} {said said' : Layer → Option α} {layers : List Layer}
    (h : ∀ layer ∈ layers, said layer = said' layer) : last? said layers = last? said' layers := by
  induction layers using List.reverseRecOn with
  | nil => rfl
  | append_singleton layers layer ih =>
    obtain ⟨hfront, hlast⟩ := List.forall_mem_append.mp h
    rw [last?_concat, last?_concat, ih hfront, hlast layer (List.mem_singleton_self layer)]

/-- A plain value is found where the last layer that places anything leaves it. -/
theorem settle_flatMap_eq_some_iff_of_plain {v : Setting} (hv : v.Plain)
    (placings : Layer → List Placing) (layers : List Layer) :
    settle none (layers.flatMap placings) = some v ↔
      last? (fun layer => settle none (placings layer)) layers = some v := by
  induction layers using List.reverseRecOn with
  | nil => rfl
  | append_singleton layers layer ih =>
    rw [last?_concat, List.flatMap_append, List.flatMap_singleton]
    by_cases h : placings layer = []
    · rw [h, List.append_nil, ih]
      rfl
    · have hsome : settle none (placings layer) ≠ none := settle_ne_none h
      obtain ⟨w, hw⟩ := Option.ne_none_iff_exists'.mp hsome
      have happend : layers.flatMap placings ++ placings layer ≠ [] := by simp [h]
      rw [hw, Option.some_or, ← hw, settle_eq_of_plain hv, settle_eq_of_plain hv,
        List.getLast?_append_of_ne_nil _ h]
      simp [h, happend]

lemma settle_flatMap_eq_none_iff (placings : Layer → List Placing) (layers : List Layer) :
    settle none (layers.flatMap placings) = none ↔
      last? (fun layer => settle none (placings layer)) layers = none := by
  rw [settle_eq_none_iff, List.flatMap_eq_nil_iff, last?_eq_none_iff]
  exact forall₂_congr fun _ _ => settle_eq_none_iff.symm

section Lookup

variable {key : Text} {layers : List Layer} {v : Setting}

lemma lookup_stack_eq_some_iff_of_plain (hv : v.Plain) :
    (stack layers).lookup key = some v ↔ last? (given key) layers = some v := by
  rw [lookup_stack, settle_flatMap_eq_some_iff_of_plain hv]
  simp only [← given_eq]

lemma lookup_stack_eq_none_iff :
    (stack layers).lookup key = none ↔ last? (given key) layers = none := by
  rw [lookup_stack, settle_flatMap_eq_none_iff]
  simp only [← given_eq]

variable (h : ∀ layer ∈ layers, layer.TabularAt key) (member : Text)
include h

lemma tabular_flatMap_placingsAt : ∀ p ∈ layers.flatMap (placingsAt key), Tabular p = true := by
  intro p hp
  obtain ⟨layer, hlayer, hp⟩ := List.mem_flatMap.mp hp
  exact h layer hlayer p hp

lemma lookup_membersOf_stack :
    (membersOf ((stack layers).lookup key)).lookup member =
      settle none (layers.flatMap (placingsIn key member)) := by
  rw [lookup_stack, lookup_settle_of_tabular (tabular_flatMap_placingsAt h), List.flatMap_assoc]
  rfl

lemma last?_givenIn :
    last? (givenIn key member) layers =
      last? (fun layer => settle none (placingsIn key member layer)) layers :=
  last?_congr fun layer hlayer => givenIn_eq (h layer hlayer) member

/-- A plain member of a table comes from the last layer that has the member. -/
theorem lookup_membersOf_stack_eq_some_iff_of_plain (hv : v.Plain) :
    (membersOf ((stack layers).lookup key)).lookup member = some v ↔
      last? (givenIn key member) layers = some v := by
  rw [lookup_membersOf_stack h, last?_givenIn h, settle_flatMap_eq_some_iff_of_plain hv]

lemma lookup_membersOf_stack_eq_none_iff :
    (membersOf ((stack layers).lookup key)).lookup member = none ↔
      last? (givenIn key member) layers = none := by
  rw [lookup_membersOf_stack h, last?_givenIn h, settle_flatMap_eq_none_iff]

end Lookup

end Layer

end ForumSearch
