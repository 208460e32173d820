import ForumSearch.Command.Run
import ForumSearch.Store.Format
import Std.Time.DateTime.Timestamp

/-!
The command line. Databases are files that hold a store as JSON.
-/

open ForumSearch

namespace ForumSearch.Host

def readText (path : String) : IO (Option String) :=
  tryCatch (some <$> IO.FS.readFile path) fun _ => return none

def wallClock : IO Instant := do
  let nanos := (← Std.Time.Timestamp.now).toNanosecondsSinceUnixEpoch.toInt
  return ⟨nanos / 1000000000, (nanos % 1000000000).toNat⟩

def readDatabase (path : String) : IO DatabaseFile := do
  match ← readText path with
  | none => return .absent
  | some text =>
    if text.isEmpty then return .blank
    match (Json.parse text.toList).bind Store.ofJson? with
    | some store => return .store store
    | none => return .unusable

/-- The machine that the program runs on. -/
def system (environment : Variables) : Host IO where
  file? name := (Option.map String.toList) <$> readText (String.ofList name)
  input := do return (← (← IO.getStdin).readToEnd).toList
  environment := return environment
  now := wallClock
  database path := readDatabase (String.ofList path)
  keep path store := IO.FS.writeFile (String.ofList path) (String.ofList store.toJson.compact)

end ForumSearch.Host

/-- The variables that settings can be in. -/
def settingVariables : List String :=
  let names := ["DATABASE_URL", "PRESET"] ++
    (RankingConfig.fields : List (String × RankingConfig.Field Float)).map fun f =>
      "RANKING__" ++ f.1.toUpper
  names.map ("THREAD_FINDER__" ++ ·)

/-- The names in a file of variables. -/
def namesIn (s : Text) : List String :=
  ((Text.splitAtEach (!VariableFile.isNameChar ·) s).filter fun name => !name.isEmpty).map
    String.ofList

/-- The variables that can count: those of settings, and those that the file of variables names. -/
def readVariables : IO Variables := do
  let file := ((← Host.readText ".env").getD "").toList
  let found ← (settingVariables ++ namesIn file).mapM fun name => do
    return (← IO.getEnv name).map fun value => (name.toList, value.toList)
  return found.filterMap id

def main (arguments : List String) : IO UInt32 := do
  let environment ← readVariables
  let outcome ← (Host.system environment).run (arguments.map String.toList)
  (← IO.getStdout).putStr (String.ofList outcome.output)
  return outcome.code.toUInt32
