import ForumSearch.Error
import ForumSearch.Ranking.Arithmetic

/-!
Configurations of the composite score. A valid one has finite values, a positive total weight,
positive rates and bases, and its severe penalty is for lower tag scores than its mild one.
-/

namespace ForumSearch

structure RankingConfig (α : Type) where
  timeWeight : α
  tagWeight : α
  reactionWeight : α
  /-- The share of the time score that is lost in a day, for small rates. -/
  decayRate : α
  /-- The width of the confidence interval in standard deviations. -/
  confidence : α
  defaultTagScore : α
  logBase : α
  reactionCap : α
  severeThreshold : α
  severeMinVotes : Int
  severeFactor : α
  mildThreshold : α
  mildMinVotes : Int
  mildFactor : α
  deriving Repr

inductive RankingPreset where
  | balanced
  | timeFocused
  | qualityFocused
  | popularityFocused
  | strictQuality
  deriving DecidableEq, Repr

namespace RankingConfig

open Arithmetic

variable {α : Type} [Arithmetic α]

def standard : RankingConfig α where
  timeWeight := milli 500
  tagWeight := milli 300
  reactionWeight := milli 200
  decayRate := milli 100
  confidence := milli 1960
  defaultTagScore := milli 500
  logBase := ofInt 50
  reactionCap := ofInt 1
  severeThreshold := milli 200
  severeMinVotes := 5
  severeFactor := milli 100
  mildThreshold := milli 350
  mildMinVotes := 10
  mildFactor := milli 500

def ofPreset : RankingPreset → RankingConfig α
  | .balanced => standard
  | .timeFocused =>
    { standard with
      timeWeight := milli 600, tagWeight := milli 200, reactionWeight := milli 200
      decayRate := milli 50 }
  | .qualityFocused =>
    { standard with
      timeWeight := milli 300, tagWeight := milli 500, reactionWeight := milli 200
      decayRate := milli 150 }
  | .popularityFocused =>
    { standard with
      timeWeight := milli 300, tagWeight := milli 200, reactionWeight := milli 500
      logBase := ofInt 30 }
  | .strictQuality =>
    { standard with
      timeWeight := milli 400, tagWeight := milli 400, reactionWeight := milli 200
      severeThreshold := milli 300, mildThreshold := milli 500, severeFactor := milli 50 }

def allFinite (c : RankingConfig α) : Bool :=
  [c.timeWeight, c.tagWeight, c.reactionWeight, c.decayRate, c.confidence, c.defaultTagScore,
    c.logBase, c.reactionCap, c.severeThreshold, c.severeFactor, c.mildThreshold,
    c.mildFactor].all finite

/-- What is wrong with a configuration, the first fault of all. -/
def fault? (c : RankingConfig α) : Option RankingFault :=
  if !c.allFinite then some .notFinite
  else if lt c.timeWeight zero || lt c.tagWeight zero || lt c.reactionWeight zero then
    some .negativeWeight
  else if le (c.timeWeight + c.tagWeight + c.reactionWeight) zero then some .noPositiveWeight
  else if le c.decayRate zero then some .decayNotPositive
  else if le c.confidence zero then some .confidenceNotPositive
  else if le c.logBase zero then some .logBaseNotPositive
  else if lt c.reactionCap zero then some .negativeReactionCap
  else if !inUnit c.defaultTagScore then some .defaultTagScoreOutOfRange
  else if !inUnit c.severeThreshold || !inUnit c.mildThreshold then some .thresholdOutOfRange
  else if le c.mildThreshold c.severeThreshold then some .thresholdsNotIncreasing
  else if !inUnit c.severeFactor || !inUnit c.mildFactor then some .penaltyOutOfRange
  else if c.severeMinVotes < 0 || c.mildMinVotes < 0 then some .negativeVoteMinimum
  else none

def validate (c : RankingConfig α) : Except Invalid Unit :=
  match c.fault? with
  | some fault => .error (.ranking fault)
  | none => .ok ()

theorem validate_eq_ok_iff_fault? {c : RankingConfig α} :
    c.validate = .ok () ↔ c.fault? = none := by
  unfold validate
  cases c.fault? <;> simp

structure Factors (α : Type) where
  time : α
  tag : α
  reaction : α

/-- The weights scaled to a sum of one; equal shares if there is no positive finite sum. -/
def factors (c : RankingConfig α) : Factors α :=
  let t := positivePart c.timeWeight
  let g := positivePart c.tagWeight
  let r := positivePart c.reactionWeight
  let sum := t + g + r
  if !lt zero sum || !finite sum then ⟨one / ofInt 3, one / ofInt 3, one / ofInt 3⟩
  else ⟨t / sum, g / sum, r / sum⟩

end RankingConfig

end ForumSearch
