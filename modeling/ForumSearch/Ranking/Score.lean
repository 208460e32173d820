import ForumSearch.Calendar.Instant
import ForumSearch.Forum.Vote
import ForumSearch.Ranking.Config

/-!
The composite score of a thread: a weighted mean of how recent it is, how well its tags are
voted, and how many reactions it has, times a penalty for tags that are voted down.
-/

namespace ForumSearch

/-- What the score of a thread is made of. The counters are sums over the requested tags. -/
structure RankRow where
  thread : Int
  lastActiveAt : Instant
  reactions : Int
  votes : Counters
  deriving DecidableEq, Repr

structure Score (α : Type) where
  time : α
  tag : α
  reaction : α
  base : α
  penalty : α
  value : α

namespace Ranking

open Arithmetic

variable {α : Type} [Arithmetic α]

/-- The lower end of the Wilson confidence interval for the share of upvotes; zero without
votes. -/
def wilson (up down : Int) (z : α) : α :=
  let n : α := ofInt (up + down)
  if le n zero then zero
  else
    let p := ofInt up / n
    let z2 := z * z
    let centre := p + z2 / (ofInt 2 * n)
    let margin := z * sqrt ((p * (one - p) + z2 / (ofInt 4 * n)) / n)
    (centre - margin) / (one + z2 / n)

/-- The days since the last activity, never negative. -/
def ageDays (now lastActiveAt : Instant) : α :=
  positivePart (ofInt (now.secondsSince lastActiveAt) / ofInt 86400)

def timeScore (c : RankingConfig α) (age : α) : α :=
  exp (-c.decayRate * age)

def reactionScore (c : RankingConfig α) (reactions : Int) : α :=
  capped (log (ofInt (max reactions 0) + one) / log (c.logBase + one)) c.reactionCap

/-- Votes count only if tags were asked for. -/
def totalVotes (byTag : Bool) (votes : Counters) : Int :=
  if byTag then votes.up + votes.down else 0

def tagScore (c : RankingConfig α) (byTag : Bool) (votes : Counters) : α :=
  if 0 < totalVotes byTag votes then wilson votes.up votes.down c.confidence
  else c.defaultTagScore

def penalty (c : RankingConfig α) (tag : α) (total : Int) : α :=
  if lt tag c.severeThreshold && c.severeMinVotes ≤ total then c.severeFactor
  else if lt tag c.mildThreshold && c.mildMinVotes ≤ total then c.mildFactor
  else one

def score (c : RankingConfig α) (byTag : Bool) (now : Instant) (row : RankRow) : Score α :=
  let time := timeScore c (ageDays now row.lastActiveAt)
  let tag := tagScore c byTag row.votes
  let reaction := reactionScore c row.reactions
  let f := c.factors
  let base := f.time * time + f.tag * tag + f.reaction * reaction
  let penalty := penalty c tag (totalVotes byTag row.votes)
  ⟨time, tag, reaction, base, penalty, base * penalty⟩

end Ranking

end ForumSearch
