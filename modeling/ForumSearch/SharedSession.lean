import ForumSearch.Session

/-!
Sessions with readers. A reader takes hold of the tag snapshot and of the ranking configuration in
use, and may ask them later on, whatever the session does in between.
-/

namespace ForumSearch

/-- A snapshot and a configuration that were in use when they were taken hold of. -/
structure Held where
  tags : TagSnapshot
  ranking : RankingConfig Float

namespace Held

/-- What a reader can ask of a snapshot or of a configuration. -/
inductive Question where
  | ids (name : Text)
  | allIds (names : List Text)
  | name (id : Int)
  | names
  | nameMap
  | size
  | compile (q : Query)
  | ranking
  | rank (boost : Ranking.Boost) (byTag : Bool) (now : Instant) (direction : Direction)
      (rows : List RankRow)

inductive Answer where
  | ids (ids : List Int)
  | name (name : Option Text)
  | names (names : List Text)
  | nameMap (names : Table Int Text)
  | size (n : Nat)
  | compiled (c : Compiled)
  | ranking (c : RankingConfig Float)
  | ranked (rows : List Ranking.Ranked)

def answer (h : Held) : Question → Answer
  | .ids name => .ids (h.tags.resolve name)
  | .allIds names => .ids (h.tags.resolveAll names)
  | .name id => .name (h.tags.name? id)
  | .names => .names h.tags.names
  | .nameMap => .nameMap h.tags.nameOf
  | .size => .size h.tags.size
  | .compile q => .compiled (q.compile h.tags)
  | .ranking => .ranking h.ranking
  | .rank boost byTag now direction rows =>
    .ranked (Ranking.rank boost h.ranking byTag now direction rows)

end Held

/-- A session and what its readers hold, the oldest first. -/
structure SharedSession where
  session : Session
  held : List Held

/-- What a reader would take hold of. -/
def Session.inUse (s : Session) : Held :=
  ⟨s.tags.current, s.ranking.current⟩

namespace SharedSession

/-- A step of the session, or of a reader. What is held is asked by its place among all that was
taken hold of. -/
inductive Act where
  | step (x : Session.Step)
  | hold
  | ask (place : Nat) (question : Held.Question)

inductive Outcome where
  | reply (r : Session.Reply)
  | held (place : Nat)
  | answer (a : Held.Answer)
  | nothingHeld

def act (s : SharedSession) : Act → Outcome × SharedSession
  | .step x => (.reply (s.session.step x).1, { s with session := (s.session.step x).2 })
  | .hold => (.held s.held.length, { s with held := s.held ++ [s.session.inUse] })
  | .ask place question =>
    (match s.held[place]? with
      | some h => .answer (h.answer question)
      | none => .nothingHeld, s)

/-- The outcomes of a run of acts, and the session after it. -/
def run (s : SharedSession) : List Act → List Outcome × SharedSession
  | [] => ([], s)
  | a :: acts =>
    let (outcome, s) := s.act a
    let (outcomes, s) := s.run acts
    (outcome :: outcomes, s)

end SharedSession

end ForumSearch
