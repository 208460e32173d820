import ForumSearch.Settings.Ini
import ForumSearch.Settings.Json
import ForumSearch.Settings.Json5
import ForumSearch.Settings.Ron.Value
import ForumSearch.Settings.Toml.Document
import ForumSearch.Settings.Yaml.Document

/-!
Files of settings. The ending of a file's name says in which format it is written. A byte order mark
in front of a text is passed over.
-/

namespace ForumSearch

inductive Format where
  | toml
  | json
  | yaml
  | ini
  | ron
  | json5
  deriving DecidableEq, Repr

namespace Format

/-- The endings of names, in the order in which files are looked for. -/
def endings : List (String × Format) :=
  [("toml", .toml), ("json", .json), ("yaml", .yaml), ("yml", .yaml), ("ini", .ini),
    ("ron", .ron), ("json5", .json5)]

/-- The settings in a text without a mark in front of it. -/
def readText : Format → Text → Option Layer
  | .toml => Toml.read
  | .json => Json.readSettings
  | .yaml => Yaml.read
  | .ini => Ini.read
  | .ron => Ron.read
  | .json5 => Json5.read

/-- The settings in a text; none if the text is malformed. -/
def read (format : Format) (s : Text) : Option Layer :=
  format.readText s.dropMark

end Format

end ForumSearch
