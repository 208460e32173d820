import ForumSearch.Settings.Basic
import ForumSearch.Proofs.Settings.Layering

/-!
# Ranking configurations field by field

The fields of a ranking configuration are independent of one another, and together they are all there
is to it. So the configuration in a table is the one that has in each field what the table has under
its name, read as a number or as an integer, and the standard value where the table has nothing.
-/

namespace ForumSearch

open Setting

namespace Setting

lemma plain_of_toFloat? {v : Setting} {x : Float} (h : v.toFloat? = some x) : v.Plain := by
  cases v with
  | table members => exact nomatch h
  | list items => exact nomatch h
  | _ => trivial

lemma plain_of_toInt? {v : Setting} {n : Int} (h : v.toInt? = some n) : v.Plain := by
  cases v with
  | table members => exact nomatch h
  | list items => exact nomatch h
  | _ => trivial

lemma plain_of_toText? {v : Setting} {s : Text} (h : v.toText? = some s) : v.Plain := by
  cases v with
  | table members => exact nomatch h
  | list items => exact nomatch h
  | _ => trivial

end Setting

namespace RankingConfig

namespace Field

/-- The field has what a setting is read as. -/
def Reads (c : RankingConfig Float) (value : Setting) : Field Float → Prop
  | .number get _ => value.toFloat? = some (get c)
  | .count get _ => value.toInt? = some (get c)

/-- The field has the same in two configurations. -/
def Same (c c' : RankingConfig Float) : Field Float → Prop
  | .number get _ => get c = get c'
  | .count get _ => get c = get c'

/-- The field has what a setting is read as, or without a setting what it has in another
configuration. -/
def Takes (c base : RankingConfig Float) (value : Option Setting) (f : Field Float) : Prop :=
  match value with
  | some v => f.Reads c v
  | none => f.Same c base

variable {c c' c'' base : RankingConfig Float} {value : Setting} {found : Option Setting}
  {f : Field Float}

lemma Same.symm (h : f.Same c c') : f.Same c' c := by
  cases f with
  | number get set => exact Eq.symm h
  | count get set => exact Eq.symm h

lemma Same.trans (h : f.Same c c') (h' : f.Same c' c'') : f.Same c c'' := by
  cases f with
  | number get set => exact Eq.trans h h'
  | count get set => exact Eq.trans h h'

lemma Reads.plain (h : f.Reads c value) : value.Plain := by
  cases f with
  | number get set => exact plain_of_toFloat? h
  | count get set => exact plain_of_toInt? h

lemma Reads.of_same (h : f.Reads c value) (hsame : f.Same c' c) : f.Reads c' value := by
  cases f with
  | number get set => exact h.trans (congrArg some hsame.symm)
  | count get set => exact h.trans (congrArg some hsame.symm)

lemma Reads.same (h : f.Reads c value) (h' : f.Reads c' value) : f.Same c c' := by
  cases f with
  | number get set => exact Option.some.inj (h.symm.trans h')
  | count get set => exact Option.some.inj (h.symm.trans h')

lemma Takes.of_same (h : f.Takes c base found) (hsame : f.Same c' c) : f.Takes c' base found := by
  cases found with
  | none => exact hsame.trans h
  | some v => exact Reads.of_same h hsame

lemma Takes.same (h : f.Takes c base found) (h' : f.Takes c' base found) : f.Same c c' := by
  cases found with
  | none => exact Same.trans h (Same.symm h')
  | some v => exact Reads.same h h'

/-- For what a field takes, only plain values and none at all are told apart. -/
lemma takes_congr {found' : Option Setting} (hnone : found = none ↔ found' = none)
    (hplain : ∀ v : Setting, v.Plain → (found = some v ↔ found' = some v)) :
    f.Takes c base found ↔ f.Takes c base found' := by
  cases found with
  | none => rw [hnone.mp rfl]
  | some v =>
    cases found' with
    | none => exact nomatch hnone.mpr rfl
    | some v' =>
      constructor
      · intro h
        obtain rfl : v' = v := Option.some.inj ((hplain v (Reads.plain h)).mp rfl)
        exact h
      · intro h
        obtain rfl : v = v' := Option.some.inj ((hplain v' (Reads.plain h)).mpr rfl)
        exact h

lemma exists_assign? (h : f.Reads c value) (c' : RankingConfig Float) :
    ∃ c'', f.assign? c' value = some c'' := by
  cases f with
  | number get set => exact ⟨_, congrArg (Option.map _) h⟩
  | count get set => exact ⟨_, congrArg (Option.map _) h⟩

end Field

lemma ext_fields {c c' : RankingConfig Float} (h : ∀ f ∈ fields, f.2.Same c c') : c = c' := by
  obtain ⟨⟩ := c
  obtain ⟨⟩ := c'
  simpa [fields, Field.Same, and_assoc] using h

/-- A field that is assigned has the value, and no other field is touched. -/
lemma of_assign? {c c' : RankingConfig Float} {value : Setting} {f : String × Field Float}
    (hf : f ∈ fields) (h : f.2.assign? c value = some c') :
    f.2.Reads c' value ∧ ∀ g ∈ fields, g.1 ≠ f.1 → g.2.Same c' c := by
  fin_cases hf
  all_goals
    obtain ⟨x, hx, rfl⟩ := Option.map_eq_some_iff.mp h
    exact ⟨hx, by simp [fields, Field.Same]⟩

lemma nodup_fieldNames : ((fields : List (String × Field Float)).map (·.1)).Nodup := by
  decide

section Table

variable {members : List (Text × Setting)} {c c' base : RankingConfig Float}

lemma same_refl (f : Field Float) : f.Same c c := by
  cases f with
  | number get set => rfl
  | count get set => rfl

lemma of_assignFrom {f : String × Field Float} (hf : f ∈ fields)
    (h : assignFrom members c f = some c') :
    f.2.Takes c' c (members.lookup f.1.toList) ∧ ∀ g ∈ fields, g.1 ≠ f.1 → g.2.Same c' c := by
  unfold assignFrom at h
  cases hlookup : members.lookup f.1.toList with
  | none =>
    rw [hlookup] at h
    obtain rfl := Option.some.inj h
    exact ⟨same_refl f.2, fun g _ _ => same_refl g.2⟩
  | some value =>
    rw [hlookup] at h
    exact of_assign? hf h

/-- The fields are taken over one by one, and each stays as it was taken over. -/
lemma of_foldlM {fs : List (String × Field Float)} (hfs : ∀ f ∈ fs, f ∈ fields)
    (hnames : (fs.map (·.1)).Nodup) (h : fs.foldlM (assignFrom members) c = some c') :
    (∀ f ∈ fs, f.2.Takes c' c (members.lookup f.1.toList)) ∧
      ∀ g ∈ fields, g.1 ∉ fs.map (·.1) → g.2.Same c' c := by
  induction fs generalizing c with
  | nil =>
    obtain rfl := Option.some.inj h
    exact ⟨by simp, fun g _ _ => same_refl g.2⟩
  | cons f fs ih =>
    rw [List.foldlM_cons] at h
    obtain ⟨c₁, hfirst, hrest⟩ := Option.bind_eq_some_iff.mp h
    rw [List.map_cons, List.nodup_cons] at hnames
    obtain ⟨hf, hfs⟩ := List.forall_mem_cons.mp hfs
    obtain ⟨htaken, hothers⟩ := of_assignFrom hf hfirst
    obtain ⟨hlater, hkept⟩ := ih hfs hnames.2 hrest
    refine ⟨List.forall_mem_cons.mpr ⟨htaken.of_same (hkept f hf hnames.1), ?_⟩, ?_⟩
    · intro g hg
      have hne : g.1 ≠ f.1 := fun heq => hnames.1 (heq ▸ List.mem_map_of_mem hg)
      have hsame : g.2.Same c₁ c := hothers g (hfs g hg) hne
      have htakes := hlater g hg
      cases hlookup : members.lookup g.1.toList with
      | none =>
        rw [hlookup] at htakes
        exact Field.Same.trans htakes hsame
      | some value =>
        rw [hlookup] at htakes
        exact htakes
    · intro g hg hnot
      rw [List.map_cons, List.mem_cons, not_or] at hnot
      exact (hkept g hg hnot.2).trans (hothers g hg hnot.1)

lemma exists_foldlM {fs : List (String × Field Float)}
    (h : ∀ f ∈ fs, f.2.Takes c' base (members.lookup f.1.toList)) (c : RankingConfig Float) :
    ∃ c'', fs.foldlM (assignFrom members) c = some c'' := by
  induction fs generalizing c with
  | nil => exact ⟨c, rfl⟩
  | cons f fs ih =>
    obtain ⟨hf, hfs⟩ := List.forall_mem_cons.mp h
    have hfirst : ∃ c₁, assignFrom members c f = some c₁ := by
      unfold assignFrom
      cases hlookup : members.lookup f.1.toList with
      | none => exact ⟨c, rfl⟩
      | some value =>
        rw [hlookup] at hf
        exact Field.exists_assign? hf c
    obtain ⟨c₁, hc₁⟩ := hfirst
    rw [List.foldlM_cons, hc₁]
    exact ih hfs c₁

/-- The configuration in a table is the one that takes each field from the table. -/
theorem ofSetting?_table_eq_some_iff :
    ofSetting? (.table members) = some c ↔
      ∀ f ∈ fields, f.2.Takes c .standard (members.lookup f.1.toList) := by
  rw [ofSetting?]
  constructor
  · intro h
    exact (of_foldlM (fun _ hf => hf) nodup_fieldNames h).1
  · intro h
    obtain ⟨c', hc'⟩ := exists_foldlM h .standard
    have htaken := (of_foldlM (fun _ hf => hf) nodup_fieldNames hc').1
    rw [hc', ext_fields fun f hf => (htaken f hf).same (h f hf)]

end Table

lemma filter_map_name {α : Type} (value : Field Float → α) {fs : List (String × Field Float)}
    (hnames : (fs.map (·.1)).Nodup) {f : String × Field Float} (hf : f ∈ fs) :
    ((fs.map fun g => (g.1.toList, value g.2)).filter fun m => m.1 = f.1.toList) =
      [(f.1.toList, value f.2)] := by
  induction fs with
  | nil => exact nomatch hf
  | cons g fs ih =>
    rw [List.map_cons, List.nodup_cons] at hnames
    obtain ⟨hfresh, hnames⟩ := hnames
    rw [List.map_cons, List.filter_cons]
    rcases List.mem_cons.mp hf with rfl | hf
    · rw [if_pos (decide_eq_true rfl), List.filter_eq_nil_iff.mpr]
      rintro m hm
      obtain ⟨g, hg, rfl⟩ := List.mem_map.mp hm
      have hmem : g.1 ∈ fs.map (·.1) := List.mem_map_of_mem hg
      have hne : g.1 ≠ f.1 := fun heq => hfresh (heq ▸ hmem)
      simpa [String.toList_inj] using hne
    · have hmem : f.1 ∈ fs.map (·.1) := List.mem_map_of_mem hf
      have hne : g.1 ≠ f.1 := fun heq => hfresh (heq ▸ hmem)
      rw [if_neg (by simpa [String.toList_inj] using hne), ih hnames hf]

/-- A configuration written as a table says one thing of each of its fields. -/
lemma under_toSetting (c : RankingConfig Float) {f : String × Field Float} (hf : f ∈ fields) :
    under f.1.toList ([], c.toSetting) = [([], f.2.toSetting c)] := by
  rw [toSetting, under, filter_map_name _ nodup_fieldNames hf]
  rfl

lemma reads_toSetting {c : RankingConfig Float} (hsevere : Text.isInt64 c.severeMinVotes = true)
    (hmild : Text.isInt64 c.mildMinVotes = true) {f : String × Field Float} (hf : f ∈ fields) :
    f.2.Reads c (f.2.toSetting c) := by
  fin_cases hf
  case «9» => exact if_pos hsevere
  case «12» => exact if_pos hmild
  all_goals rfl

end RankingConfig

end ForumSearch
