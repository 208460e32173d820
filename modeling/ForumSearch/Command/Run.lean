import ForumSearch.Command.Address
import ForumSearch.Command.Help
import ForumSearch.Json.Writer
import ForumSearch.Query.Format
import ForumSearch.Search.Format
import ForumSearch.Session
import ForumSearch.Settings.Basic
import ForumSearch.Settings.Source
import ForumSearch.Settings.VariableFile
import ForumSearch.Store.Dump

/-!
One run of the program: its variables are read, the settings are put together, the database is
opened, and the command is carried out on it. Whatever fails on the way ends the run without output.
-/

namespace ForumSearch

structure Host (m : Type → Type) where
  /-- The text in a file; none if there is no such file or it is no text. -/
  file? : Text → m (Option Text)
  input : m Text
  environment : m Variables
  now : m Instant
  database : Text → m DatabaseFile
  keep : Text → Store → m Unit

structure Outcome where
  code : Nat
  output : Text
  deriving DecidableEq, Repr

namespace Outcome

def success (output : Text) : Outcome := ⟨0, output⟩

def failure : Outcome := ⟨1, []⟩

def misuse : Outcome := ⟨2, []⟩

/-- The run is broken off before it has read its arguments. -/
def breakdown : Outcome := ⟨101, []⟩

end Outcome

/-- What a command needs to read before it can be carried out. -/
def Command.operand? : Command → Option Text
  | .search query => some query
  | .load file => some file
  | .vote _ => none
  | .tags => none

/-- What comes of a command: its output, the session after it, and whether it wrote to the
database. -/
structure Effect where
  output : Text
  session : Session
  wrote : Bool

namespace Session

/-- A session on a stored forum, with its tags loaded. -/
def opened (store : Store) (ranking : RankingConfig Float) : Session :=
  ⟨store, ⟨.ofTags store.loadTags⟩, ⟨ranking⟩⟩

def line (s : Text) : Text := s ++ ['\n']

/-- The effect of a command. The text is what the operand holds. -/
def carryOut (s : Session) (now : Instant) (text : Text) : Command → Option Effect
  | .search _ => do
    let r ← Request.ofJson? (← Json.parse text)
    match s.step (.search r now) with
    | (.page page, s) => some ⟨line (Json.pretty 0 (page.toJson Json.ofFloat)), s, false⟩
    | _ => none
  | .vote v =>
    match s.step (.vote v none) with
    | (.stats stats, after) =>
      some ⟨line (Json.pretty 0 (statsJson stats)), after, s.store.links.contains (v.thread, v.tag)⟩
    | _ => none
  | .tags => some ⟨s.tags.current.names.flatMap line, s, false⟩
  | .load _ => do
    let dump ← Dump.ofJson? (← Json.parse text)
    some ⟨[], { s with store := s.store.load dump }, !dump.isEmpty⟩

end Session

namespace Host

variable {m : Type → Type} [Monad m] (h : Host m)

def text? (name : Text) : m (Option Text) :=
  if name = ['-'] then some <$> h.input else h.file? name

/-- The name of the settings file, without its ending. -/
def settingsName : Text := "thread-finder".toList

/-- The first file of settings among some endings, with its format. -/
def settingsFile? : List (String × Format) → m (Option (Format × Text))
  | [] => return none
  | (ending, format) :: rest => do
    match ← h.file? (settingsName ++ '.' :: ending.toList) with
    | some text => return some (format, text)
    | none => settingsFile? rest

/-- The settings in the settings file; none if it is malformed. A file of the bare name has no
format, and no other is looked for beside it. -/
def fileLayer? : m (Option Layer) := do
  match ← h.file? settingsName with
  | some _ => return some []
  | none =>
    match ← h.settingsFile? Format.endings with
    | some (format, text) => return format.read text
    | none => return some []

/-- The settings that hold for the run: its settings file, and over it its variables. -/
def settings? (environment : Variables) : m (Option Settings) := do
  match ← h.fileLayer? with
  | none => return none
  | some layer => return (Settings.resolve [layer, environment.layer]).toOption

/-- The store of a database; none if it cannot be opened. One that may be written to is made ready
at once. -/
def open? : Database → m (Option Store)
  | .memory => return some .empty
  | .file path access => do
    match ← h.database path, access with
    | .store s, _ => return some s
    | .absent, .create | .blank, .create | .blank, .update =>
      h.keep path .empty
      return some .empty
    | _, _ => return none

/-- Keeps what a command wrote; none if nothing may be written. -/
def save? (d : Database) (e : Effect) : m (Option Unit) :=
  match d, e.wrote with
  | .file _ .read, true => return none
  | .file path _, true => some <$> h.keep path e.session.store
  | _, _ => return some ()

def carryOut (settings : Settings) (d : Database) (store : Store) (c : Command) : m Outcome := do
  let text ← match c.operand? with
    | some name => h.text? name
    | none => pure (some [])
  let now ← h.now
  match text.bind fun text => (Session.opened store settings.ranking).carryOut now text c with
  | none => return .failure
  | some effect =>
    match ← h.save? d effect with
    | some () => return .success effect.output
    | none => return .failure

def runCommand (environment : Variables) (c : Command) : m Outcome := do
  match ← h.settings? environment with
  | none => return .failure
  | some settings =>
    match Database.ofAddress? settings.database with
    | none => return .failure
    | some d =>
      match ← h.open? d with
      | none => return .failure
      | some store => h.carryOut settings d store c

/-- The variables of the run, with those of its file of variables. -/
def allVariables? : m (Option Variables) := do
  let added ← h.file? ".env".toList
  return VariableFile.extend? (← h.environment) (added.getD [])

def run (arguments : List Text) : m Outcome := do
  match ← h.allVariables? with
  | none => return .breakdown
  | some environment =>
    match Invocation.ofArguments arguments with
    | .misuse => return .misuse
    | .version => return .success versionText.toList
    | .help topic => return .success topic.text.toList
    | .run c => h.runCommand environment c

end Host

end ForumSearch
