import ForumSearch.Table.Basic

/-!
Votes on the tags of a thread. A user has at most one vote on a tag of a thread: the same vote
again takes it back, the other one replaces it, and the counters of the tag move along.
-/

namespace ForumSearch

inductive Ballot where
  | up
  | down
  deriving DecidableEq, Repr

namespace Ballot

def toInt : Ballot → Int
  | .up => 1
  | .down => -1

def ofInt? (n : Int) : Option Ballot :=
  if n = 1 then some .up else if n = -1 then some .down else none

end Ballot

structure Vote where
  user : Int
  thread : Int
  tag : Int
  ballot : Ballot
  deriving DecidableEq, Repr

/-- How often a tag of a thread was voted up and down. -/
structure Counters where
  up : Int
  down : Int
  deriving DecidableEq, Repr

namespace Counters

def zero : Counters := ⟨0, 0⟩

def add (a b : Counters) : Counters := ⟨a.up + b.up, a.down + b.down⟩

def neg (a : Counters) : Counters := ⟨-a.up, -a.down⟩

def of : Ballot → Counters
  | .up => ⟨1, 0⟩
  | .down => ⟨0, 1⟩

end Counters

inductive Transition where
  | created (ballot : Ballot)
  | retracted (ballot : Ballot)
  | switched (old new : Ballot)
  deriving DecidableEq, Repr

namespace Transition

def plan (existing : Option Ballot) (new : Ballot) : Transition :=
  match existing with
  | none => .created new
  | some old => if old = new then .retracted old else .switched old new

def change : Transition → Counters
  | .created b => .of b
  | .retracted b => (Counters.of b).neg
  | .switched old new => (Counters.of new).add (Counters.of old).neg

def outcome : Transition → Option Ballot
  | .created b => some b
  | .retracted _ => none
  | .switched _ new => some new

end Transition

structure Link where
  thread : Int
  tag : Int
  counters : Counters
  deriving DecidableEq, Repr

/-- The votes under one tag name as they are shown. They are counted in 64 bits, and a sum that does
not fit wraps around. -/
structure VoteStats where
  up : Int64
  down : Int64
  score : Int64
  deriving DecidableEq, Repr

namespace VoteStats

def zero : VoteStats := ⟨0, 0, 0⟩

def add (a b : VoteStats) : VoteStats := ⟨a.up + b.up, a.down + b.down, a.score + b.score⟩

def of (c : Counters) : VoteStats :=
  ⟨.ofInt c.up, .ofInt c.down, .ofInt c.up - .ofInt c.down⟩

end VoteStats

/-- Adds a link to the votes under the name of its tag. A link whose tag has no name is left out. -/
def addVotes (names : Int → Option Text) (stats : Table Text VoteStats) (link : Link) :
    Table Text VoteStats :=
  match names link.tag with
  | none => stats
  | some name => stats.insert name (((stats.get? name).getD .zero).add (.of link.counters))

/-- The votes of some links under the names of their tags. -/
def voteStats (names : Int → Option Text) (links : List Link) : Table Text VoteStats :=
  links.foldl (addVotes names) Table.empty

end ForumSearch
