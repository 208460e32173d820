import ForumSearch.Text.Integer
import ForumSearch.Text.Quoted

/-!
What can go wrong: a request that is not valid, a voting store that fails, a search that cannot
be carried out. Every cause has its own constructor and one text.
-/

namespace ForumSearch

inductive RankingFault where
  | notFinite
  | negativeWeight
  | noPositiveWeight
  | decayNotPositive
  | confidenceNotPositive
  | logBaseNotPositive
  | negativeReactionCap
  | defaultTagScoreOutOfRange
  | thresholdOutOfRange
  | thresholdsNotIncreasing
  | penaltyOutOfRange
  | negativeVoteMinimum
  deriving DecidableEq, Repr

def RankingFault.message : RankingFault → String
  | .notFinite => "every value must be a finite number"
  | .negativeWeight => "weight factors must be non-negative"
  | .noPositiveWeight => "at least one weight factor must be positive"
  | .decayNotPositive => "time_decay_rate must be positive"
  | .confidenceNotPositive => "wilson_confidence_level must be positive"
  | .logBaseNotPositive => "reaction_log_base must be positive"
  | .negativeReactionCap => "max_reaction_score must be non-negative"
  | .defaultTagScoreOutOfRange => "default_tag_score must be within [0, 1]"
  | .thresholdOutOfRange => "penalty thresholds must be within [0, 1]"
  | .thresholdsNotIncreasing => "severe_penalty_threshold must be below mild_penalty_threshold"
  | .penaltyOutOfRange => "penalty factors must be within [0, 1]"
  | .negativeVoteMinimum => "penalty vote minimums must be non-negative"

inductive Invalid where
  | limit (limit : Int)
  | offset (offset : Int)
  | noViewer
  | date (raw : Text)
  | time (raw : Text)
  | interval (raw : Text)
  | emptyInterval (lower upper : Int)
  | ranking (fault : RankingFault)
  deriving DecidableEq, Repr

def Invalid.message : Invalid → String
  | .limit n => "limit must be between 1 and 100, got " ++ String.ofList (Text.ofInt n)
  | .offset n => "offset must not be negative, got " ++ String.ofList (Text.ofInt n)
  | .noViewer => "collection search requires a viewer"
  | .date raw => "invalid date: " ++ String.ofList raw
  | .time raw => "unrecognized time format: " ++ String.ofList raw
  | .interval raw => "bad range " ++ String.ofList (Text.quoted raw) ++
      "; expected e.g. `[10, 100)` or `(50, 200]`"
  | .emptyInterval lower upper => "range start " ++ String.ofList (Text.ofInt lower) ++
      " is greater than its end " ++ String.ofList (Text.ofInt upper)
  | .ranking fault => "ranking config: " ++ fault.message

inductive Error where
  | invalid (cause : Invalid)
  | internal (reason : String)
  | searchFailed
  deriving DecidableEq, Repr

def Error.message : Error → String
  | .invalid cause => "validation error: " ++ cause.message
  | .internal reason => "internal service error: " ++ reason
  | .searchFailed => "search failed"

end ForumSearch
