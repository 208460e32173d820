import ForumSearch.Proofs.Settings.Preset
import ForumSearch.Proofs.Settings.RankingFields

/-!
# The settings that layers resolve to

Layers are evaluated twice, once for the preset and once laid over the values of the preset. What
comes of it can be read off the layers one by one: each field of the ranking is what the last layer
says that sets it, and a field that no layer sets is the preset's, wherever the preset stands among
the layers.
-/

namespace ForumSearch

namespace Settings

open Setting Layer RankingConfig

/-- The settings are those that the layers say, key by key. The preset is the one that the last layer
names; the database and each field of the ranking are what the last layer says that says anything, or
else the default and the value of the preset. -/
structure Resolves (layers : List Layer) (s : Settings) : Prop where
  preset : presetOf? (last? (named "preset".toList) layers) = some s.preset
  database : (last? (given "database_url".toList) layers).elim (some defaultDatabase) toText? =
    some s.database
  ranking : ∀ f ∈ fields, f.2.Takes s.ranking (rankingOf s.preset)
    (last? (givenIn "ranking".toList f.1.toList) layers)

namespace Resolves

variable {layers : List Layer} {s s' : Settings}

lemma unique (h : Resolves layers s) (h' : Resolves layers s') : s = s' := by
  have hpreset : s.preset = s'.preset := Option.some.inj (h.preset.symm.trans h'.preset)
  have hdatabase : s.database = s'.database := Option.some.inj (h.database.symm.trans h'.database)
  have hranking : s.ranking = s'.ranking :=
    ext_fields fun f hf => (h.ranking f hf).same (hpreset ▸ h'.ranking f hf)
  cases s
  cases s'
  simp_all only

end Resolves

section Base

variable (preset : Option RankingPreset)

lemma placingsAt_base_preset :
    placingsAt "preset".toList (base preset) =
      (preset.map fun p => ([], .text p.name.toList)).toList := by
  cases preset <;> rfl

lemma given_base_database :
    (base preset).given "database_url".toList = some (.text defaultDatabase) := by
  cases preset <;> rfl

lemma placingsAt_base_ranking :
    placingsAt "ranking".toList (base preset) = [([], (rankingOf preset).toSetting)] := by
  cases preset <;> rfl

lemma tabularAt_base : (base preset).TabularAt "ranking".toList := by
  intro p hp
  rw [placingsAt_base_ranking, List.mem_singleton] at hp
  rw [hp]
  rfl

lemma givenIn_base {f : String × RankingConfig.Field Float} (hf : f ∈ fields) :
    (base preset).givenIn "ranking".toList f.1.toList =
      some (f.2.toSetting (rankingOf preset)) := by
  rw [givenIn_eq (tabularAt_base preset), placingsIn, placingsAt_base_ranking,
    List.flatMap_singleton, under_toSetting _ hf]
  generalize rankingOf preset = c
  match f.2 with
  | .number get set | .count get set => rfl

lemma isInt64_rankingOf :
    Text.isInt64 (rankingOf preset).severeMinVotes = true ∧
      Text.isInt64 (rankingOf preset).mildMinVotes = true := by
  rcases preset with _ | ⟨_ | _ | _ | _ | _⟩ <;> exact ⟨rfl, rfl⟩

end Base

lemma ofMembers?_eq_some_iff {members : List (Text × Setting)} {s : Settings} :
    ofMembers? members = some s ↔
      (members.lookup "database_url".toList).bind toText? = some s.database ∧
        presetOf? (members.lookup "preset".toList) = some s.preset ∧
        (members.lookup "ranking".toList).bind RankingConfig.ofSetting? = some s.ranking := by
  cases s
  simp only [ofMembers?, Option.bind_eq_bind, Option.bind_eq_some_iff, Option.pure_def,
    Option.some.injEq, mk.injEq]
  constructor
  · rintro ⟨v, hv, _, hdatabase, _, hpreset, w, hw, _, hranking, rfl, rfl, rfl⟩
    exact ⟨⟨v, hv, hdatabase⟩, hpreset, w, hw, hranking⟩
  · rintro ⟨⟨v, hv, hdatabase⟩, hpreset, w, hw, hranking⟩
    exact ⟨v, hv, _, hdatabase, _, hpreset, w, hw, _, hranking, rfl, rfl, rfl⟩

variable {layers : List Layer} {s : Settings} {preset : Option RankingPreset}

/-- The evaluation over a preset that was found in the layers finds it again. -/
lemma presetOf?_stack_base (h : presetOf? ((stack layers).lookup "preset".toList) = some preset) :
    presetOf? ((stack (base preset :: layers)).lookup "preset".toList) = some preset := by
  rw [lookup_stack] at h ⊢
  rw [List.flatMap_cons, placingsAt_base_preset, settle_append]
  have hbase : settle none (preset.map fun p => ([], .text p.name.toList)).toList =
      preset.map fun p => .text p.name.toList := by
    cases preset <;> rfl
  rw [hbase, presetOf?_settle_name h]

lemma database_stack_base :
    ((stack (base preset :: layers)).lookup "database_url".toList).bind toText? = some s.database ↔
      (last? (given "database_url".toList) layers).elim (some defaultDatabase) toText? =
        some s.database := by
  have hsaid : ((stack (base preset :: layers)).lookup "database_url".toList).bind toText? =
      some s.database ↔
        (last? (given "database_url".toList) (base preset :: layers)).bind toText? =
          some s.database := by
    rw [Option.bind_eq_some_iff, Option.bind_eq_some_iff]
    refine exists_congr fun v => ?_
    rw [and_congr_left_iff]
    exact fun htext => lookup_stack_eq_some_iff_of_plain (plain_of_toText? htext)
  rw [hsaid, last?_cons, given_base_database]
  cases last? (given "database_url".toList) layers with
  | none => rfl
  | some v => rfl

lemma ranking_stack_base (h : ∀ layer ∈ layers, layer.TabularAt "ranking".toList)
    (c : RankingConfig Float) :
    ((stack (base preset :: layers)).lookup "ranking".toList).bind RankingConfig.ofSetting? =
        some c ↔
      ∀ f ∈ fields, f.2.Takes c (rankingOf preset)
        (last? (givenIn "ranking".toList f.1.toList) layers) := by
  have hall : ∀ layer ∈ base preset :: layers, layer.TabularAt "ranking".toList :=
    List.forall_mem_cons.mpr ⟨tabularAt_base preset, h⟩
  obtain ⟨members, hmembers⟩ : ∃ members,
      (stack (base preset :: layers)).lookup "ranking".toList = some (.table members) := by
    rw [lookup_stack, List.flatMap_cons, placingsAt_base_ranking, settle_append]
    exact exists_table_of_tabular (tabular_flatMap_placingsAt h) _
  rw [hmembers, Option.bind_some, ofSetting?_table_eq_some_iff]
  refine forall₂_congr fun f hf => ?_
  have hlookup : members.lookup f.1.toList =
      (membersOf ((stack (base preset :: layers)).lookup "ranking".toList)).lookup f.1.toList := by
    rw [hmembers]
    rfl
  rw [hlookup, Field.takes_congr (lookup_membersOf_stack_eq_none_iff hall _)
    fun _ => lookup_membersOf_stack_eq_some_iff_of_plain hall _, last?_cons, givenIn_base preset hf]
  cases last? (givenIn "ranking".toList f.1.toList) layers with
  | none =>
    obtain ⟨hsevere, hmild⟩ := isInt64_rankingOf preset
    have hreads := reads_toSetting hsevere hmild hf
    exact ⟨fun h => h.same hreads, fun h => hreads.of_same h⟩
  | some v => rfl

lemma ofMembers?_stack_base (h : ∀ layer ∈ layers, layer.TabularAt "ranking".toList)
    (hpreset : presetOf? ((stack layers).lookup "preset".toList) = some preset) :
    ofMembers? (stack (base preset :: layers)) = some s ↔ Resolves layers s ∧ s.preset = preset := by
  rw [ofMembers?_eq_some_iff, presetOf?_stack_base hpreset, database_stack_base,
    ranking_stack_base h, Option.some.injEq]
  constructor
  · rintro ⟨hdatabase, rfl, hranking⟩
    exact ⟨⟨presetOf?_last?_named hpreset, hdatabase, hranking⟩, rfl⟩
  · rintro ⟨⟨-, hdatabase, hranking⟩, rfl⟩
    exact ⟨hdatabase, rfl, hranking⟩

lemma resolve_eq_ok_iff :
    resolve layers = .ok s ↔
      ∃ preset, presetOf? ((stack layers).lookup "preset".toList) = some preset ∧
        ofMembers? (stack (base preset :: layers)) = some s ∧ s.ranking.validate = .ok () := by
  unfold resolve
  cases presetOf? ((stack layers).lookup "preset".toList) with
  | none => simp
  | some preset =>
    simp only [Option.some.injEq, exists_eq_left']
    cases ofMembers? (stack (base preset :: layers)) with
    | none => simp
    | some s' =>
      simp only [Option.some.injEq]
      cases hvalid : s'.ranking.validate with
      | ok u =>
        constructor
        · intro hs
          obtain rfl := Except.ok.inj hs
          exact ⟨rfl, hvalid⟩
        · rintro ⟨rfl, -⟩
          rfl
      | error cause =>
        constructor
        · exact nofun
        · rintro ⟨rfl, hok⟩
          exact nomatch hvalid.symm.trans hok

/-- The settings are read off the layers one by one, as long as none of them puts anything but a
table for the ranking. What comes out has a valid ranking, and where the ranking is not valid nothing
comes out. If the preset was named last by other than a table, valid settings do come out. -/
theorem resolve_layers (layers : List Layer)
    (h : ∀ layer ∈ layers, layer.TabularAt "ranking".toList) (s : Settings) :
    (resolve layers = .ok s → Resolves layers s ∧ s.ranking.validate = .ok ()) ∧
      (Resolves layers s → s.ranking.validate ≠ .ok () → ∃ e, resolve layers = .error e) ∧
      (Resolves layers s → s.ranking.validate = .ok () →
        (∀ v, last? (given "preset".toList) layers = some v → v.Plain) →
          resolve layers = .ok s) := by
  have hresolved : ∀ s, resolve layers = .ok s → Resolves layers s ∧ s.ranking.validate = .ok () := by
    intro s hs
    obtain ⟨preset, hpreset, hmembers, hvalid⟩ := resolve_eq_ok_iff.mp hs
    exact ⟨((ofMembers?_stack_base h hpreset).mp hmembers).1, hvalid⟩
  refine ⟨hresolved s, ?_, ?_⟩
  · intro hs hinvalid
    cases hresolve : resolve layers with
    | error e => exact ⟨e, rfl⟩
    | ok s' =>
      obtain ⟨hs', hvalid⟩ := hresolved s' hresolve
      exact absurd (hs.unique hs' ▸ hvalid) hinvalid
  · intro hs hvalid hplain
    have hpreset : presetOf? ((stack layers).lookup "preset".toList) = some s.preset := by
      rw [presetOf?_stack hplain, hs.preset]
    exact resolve_eq_ok_iff.mpr
      ⟨s.preset, hpreset, (ofMembers?_stack_base h hpreset).mpr ⟨hs, rfl⟩, hvalid⟩

/-- A field stays overridden when a later layer names a preset, and two layers that are each valid
alone are rejected together. -/
theorem resolve_layers_in_any_order :
    let rank : String → Float → Layer := fun field x =>
      [("ranking".toList, .table [(field.toList, .number x)])]
    let severe := rank "severe_penalty_threshold" 0.34
    let mild := rank "mild_penalty_threshold" 0.21
    let override := rank "reaction_log_base" 20
    let focused : Layer := [("preset".toList, .text "time_focused".toList)]
    let c : RankingConfig Float := { RankingConfig.ofPreset .timeFocused with logBase := 20 }
    (∀ layer ∈ [override, focused], layer.TabularAt "ranking".toList) ∧
      resolve [override, focused] = .ok ⟨defaultDatabase, some .timeFocused, c⟩ ∧
      (∃ s, resolve [severe] = .ok s) ∧ (∃ s, resolve [mild] = .ok s) ∧
      ∃ e, resolve [severe, mild] = .error e := by
  intro rank severe mild override focused c
  have hoverride : ∀ layer ∈ [override, focused], layer.TabularAt "ranking".toList := by decide
  have hboth : ∀ layer ∈ [severe, mild], layer.TabularAt "ranking".toList := by decide
  have hsevere : { RankingConfig.standard with severeThreshold := (0.34 : Float) }.validate =
      .ok () := validate_eq_ok_iff_fault?.mpr (by decide +kernel)
  have hmild : { RankingConfig.standard with mildThreshold := (0.21 : Float) }.validate =
      .ok () := validate_eq_ok_iff_fault?.mpr (by decide +kernel)
  refine ⟨hoverride, (resolve_layers _ hoverride _).2.2 ?_ ?_ ?_,
    ⟨⟨_, _, _⟩, resolve_eq_ok_iff.mpr ⟨none, rfl, rfl, hsevere⟩⟩,
    ⟨⟨_, _, _⟩, resolve_eq_ok_iff.mpr ⟨none, rfl, rfl, hmild⟩⟩,
    (resolve_layers _ hboth ⟨defaultDatabase, none,
      { RankingConfig.standard with severeThreshold := 0.34, mildThreshold := 0.21 }⟩).2.1 ?_ ?_⟩
  · refine ⟨rfl, rfl, fun f hf => ?_⟩
    fin_cases hf <;> rfl
  · exact validate_eq_ok_iff_fault?.mpr (by decide +kernel)
  · intro v hv
    obtain rfl : _ = v := Option.some.inj hv
    trivial
  · refine ⟨rfl, rfl, fun f hf => ?_⟩
    fin_cases hf <;> rfl
  · exact mt validate_eq_ok_iff_fault?.mp (by decide +kernel)

/-- A number that a layer puts for the ranking takes the place of the whole table, the values of the
preset with it, so a later layer's table starts from the standard values. -/
theorem resolve_forgets_preset :
    let plain : Layer :=
      [("preset".toList, .text "time_focused".toList), ("ranking".toList, .integer 1)]
    let table : Layer := [("ranking".toList, .table [("reaction_log_base".toList, .number 20)])]
    let c : RankingConfig Float := { RankingConfig.standard with logBase := 20 }
    resolve [plain, table] = .ok ⟨defaultDatabase, some .timeFocused, c⟩ ∧
      last? (named "preset".toList) [plain, table] = some (.text "time_focused".toList) ∧
      last? (givenIn "ranking".toList "time_weight_factor".toList) [plain, table] = none ∧
      c.timeWeight ≠ (RankingConfig.ofPreset .timeFocused).timeWeight := by
  intro plain table c
  have hpreset : presetOf? ((stack [plain, table]).lookup "preset".toList) =
      some (some .timeFocused) := rfl
  have hmembers : ofMembers? (stack [base (some .timeFocused), plain, table]) =
      some ⟨defaultDatabase, some .timeFocused, c⟩ := rfl
  have hvalid : c.validate = .ok () := validate_eq_ok_iff_fault?.mpr (by decide +kernel)
  have hweight : c.timeWeight ≠ (RankingConfig.ofPreset .timeFocused).timeWeight := by
    decide +kernel
  exact ⟨resolve_eq_ok_iff.mpr ⟨_, hpreset, hmembers, hvalid⟩, rfl, rfl, hweight⟩

end Settings

end ForumSearch
