import ForumSearch.Forum.Vote
import ForumSearch.Text.Integer

/-!
What the arguments of the program ask for. A command takes one operand, four options or nothing;
a request for help counts if everything before it is right.
-/

namespace ForumSearch

inductive Command where
  | search (query : Text)
  | vote (vote : Vote)
  | tags
  /-- Loads what a file holds into the database. -/
  | load (file : Text)
  deriving DecidableEq, Repr

/-- What help is given on: the program as a whole, or one of its commands. -/
inductive Topic where
  | program
  | search
  | vote
  | tags
  | load
  | help
  deriving DecidableEq, Repr

def Topic.ofName? (name : Text) : Option Topic :=
  [("search", .search), ("vote", .vote), ("tags", .tags), ("import", .load),
    ("help", .help)].lookup (String.ofList name)

inductive Invocation where
  | run (command : Command)
  | help (topic : Topic)
  | version
  | misuse
  deriving DecidableEq, Repr

/-- The options of a vote as far as they are known. -/
structure VoteOptions where
  user : Option Int
  thread : Option Int
  tag : Option Int
  ballot : Option Ballot
  deriving DecidableEq, Repr

namespace VoteOptions

def empty : VoteOptions := ⟨none, none, none, none⟩

/-- Gives an option its value; none if it has one or the value is none of its kind. -/
def assign? (o : VoteOptions) (name value : Text) : Option VoteOptions :=
  match String.ofList name with
  | "user" =>
    if o.user.isSome then none
    else (Text.readInt64 value).map fun n => { o with user := some n }
  | "thread" =>
    if o.thread.isSome then none
    else (Text.readInt64 value).map fun n => { o with thread := some n }
  | "tag" =>
    if o.tag.isSome then none
    else (Text.readInt64 value).map fun n => { o with tag := some n }
  | "value" =>
    if o.ballot.isSome then none
    else match String.ofList value with
      | "up" => some { o with ballot := some .up }
      | "down" => some { o with ballot := some .down }
      | _ => none
  | _ => none

def toVote? (o : VoteOptions) : Option Vote := do
  pure ⟨← o.user, ← o.thread, ← o.tag, ← o.ballot⟩

end VoteOptions

namespace Invocation

def isEnd (arg : Text) : Bool := arg = ['-', '-']

def asksHelp (arg : Text) : Bool :=
  arg = "--help".toList || ['-', 'h'].isPrefixOf arg

/-- An option or a group of options; a single hyphen is an operand. -/
def isOption : Text → Bool
  | '-' :: _ :: _ => true
  | _ => false

/-- A command with one operand. After two hyphens every argument is an operand. -/
def withOperand (topic : Topic) (make : Text → Command) : Option Text → List Text → Invocation
  | some operand, [] => .run (make operand)
  | none, [] => .misuse
  | found, arg :: rest =>
    if isEnd arg then
      match found, rest with
      | some operand, [] => .run (make operand)
      | none, [operand] => if operand.isEmpty then .misuse else .run (make operand)
      | _, _ => .misuse
    else if asksHelp arg then .help topic
    else if isOption arg || arg.isEmpty || found.isSome then .misuse
    else withOperand topic make (some arg) rest

def ofVote (o : VoteOptions) : Invocation :=
  match o.toVote? with
  | some v => .run (.vote v)
  | none => .misuse

/-- The options of a vote, each with its value after an equals sign or as the next argument. -/
def withOptions (o : VoteOptions) : List Text → Invocation
  | [] => ofVote o
  | arg :: rest =>
    if isEnd arg then if rest.isEmpty then ofVote o else .misuse
    else if asksHelp arg then .help .vote
    else match arg with
      | '-' :: '-' :: body =>
        match Text.splitFirst '=' body with
        | some (name, value) =>
          match o.assign? name value with
          | some o => withOptions o rest
          | none => .misuse
        | none =>
          match rest with
          | [] => .misuse
          | value :: rest =>
            if value.head? = some '-' then .misuse
            else match o.assign? body value with
              | some o => withOptions o rest
              | none => .misuse
      | _ => .misuse

def withNothing : List Text → Invocation
  | [] => .run .tags
  | arg :: rest =>
    if isEnd arg then if rest.isEmpty then .run .tags else .misuse
    else if asksHelp arg then .help .tags
    else .misuse

def ofHelp : List Text → Invocation
  | [] => .help .program
  | [name] =>
    match Topic.ofName? name with
    | some topic => .help topic
    | none => .misuse
  | _ => .misuse

/-- Options in front of a command only ask for help or the version. -/
def ofArguments : List Text → Invocation
  | [] => .misuse
  | arg :: rest =>
    if asksHelp arg then .help .program
    else if arg = "--version".toList || ['-', 'V'].isPrefixOf arg then .version
    else match Topic.ofName? arg with
      | some .search => withOperand .search .search none rest
      | some .load => withOperand .load .load none rest
      | some .vote => withOptions .empty rest
      | some .tags => withNothing rest
      | some .help => ofHelp rest
      | _ => .misuse

end Invocation

end ForumSearch
