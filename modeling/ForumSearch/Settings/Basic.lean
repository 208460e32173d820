import ForumSearch.Ranking.Format
import ForumSearch.Settings.Layer

/-!
The settings of a program: the database, the ranking preset and the ranking configuration.
The preset is found first, in the layers alone; then the layers are laid over its values, so a
single key overrides the preset wherever the two stand.
-/

namespace ForumSearch

structure Settings where
  database : Text
  preset : Option RankingPreset
  ranking : RankingConfig Float

inductive SettingsError where
  /-- A text is malformed, or a value is of the wrong kind. -/
  | unreadable
  | invalid (cause : Invalid)
  deriving DecidableEq, Repr

namespace RankingPreset

/-- A preset by its name, alone or as the only key of a table. -/
def ofSetting? : Setting → Option RankingPreset
  | .text name => ofName? (String.ofList name)
  | .table [(name, _)] => ofName? (String.ofList name)
  | _ => none

end RankingPreset

namespace RankingConfig

def Field.toSetting (c : RankingConfig Float) : Field Float → Setting
  | .number get _ => .number (get c)
  | .count get _ => .integer (get c)

def Field.assign? (c : RankingConfig Float) (value : Setting) :
    Field Float → Option (RankingConfig Float)
  | .number _ set => value.toFloat?.map (set c)
  | .count _ set => value.toInt?.map (set c)

def toSetting (c : RankingConfig Float) : Setting :=
  .table (fields.map fun f => (f.1.toList, f.2.toSetting c))

/-- The field of a name takes the value of its key, if the key is there. -/
def assignFrom (members : List (Text × Setting)) (c : RankingConfig Float)
    (field : String × Field Float) : Option (RankingConfig Float) :=
  match members.lookup field.1.toList with
  | none => some c
  | some value => field.2.assign? c value

def fieldNames : List Text :=
  (fields : List (String × Field Float)).map fun f => f.1.toList

/-- The configuration in a table or a list. A table has the fields under their names, and a list
has them in order; fields that are not there have their standard value, and what belongs to no
field is ignored. -/
def ofSetting? : Setting → Option (RankingConfig Float)
  | .table members => fields.foldlM (assignFrom members) .standard
  | .list items => fields.foldlM (assignFrom (fieldNames.zip items)) .standard
  | _ => none

end RankingConfig

namespace Settings

def defaultDatabase : Text := "sqlite:thread_finder.db".toList

/-- The values of a preset, or the standard ones. -/
def rankingOf : Option RankingPreset → RankingConfig Float
  | some p => .ofPreset p
  | none => .standard

/-- What holds where no layer says otherwise. -/
def base (preset : Option RankingPreset) : Layer :=
  ("database_url".toList, .text defaultDatabase) ::
    (preset.map fun p => ("preset".toList, .text p.name.toList)).toList ++
    [("ranking".toList, (rankingOf preset).toSetting)]

/-- The preset that a value stands for. Where there is no value, or null, none is chosen. -/
def presetOf? : Option Setting → Option (Option RankingPreset)
  | none | some .null => some none
  | some value => (RankingPreset.ofSetting? value).map some

def ofMembers? (members : List (Text × Setting)) : Option Settings := do
  let database ← (← members.lookup "database_url".toList).toText?
  let preset ← presetOf? (members.lookup "preset".toList)
  let ranking ← RankingConfig.ofSetting? (← members.lookup "ranking".toList)
  pure ⟨database, preset, ranking⟩

/-- The settings of some layers. Their ranking configuration is valid. -/
def resolve (layers : List Layer) : Except SettingsError Settings :=
  match presetOf? ((Layer.stack layers).lookup "preset".toList) with
  | none => .error .unreadable
  | some preset =>
    match ofMembers? (Layer.stack (base preset :: layers)) with
    | none => .error .unreadable
    | some s =>
      match s.ranking.validate with
      | .ok () => .ok s
      | .error cause => .error (.invalid cause)

end Settings

end ForumSearch
