import ForumSearch.Ranking.Config

/-!
The names of the fields of a ranking configuration and of the presets, with access by name.
-/

namespace ForumSearch

namespace RankingPreset

def names : List (String × RankingPreset) :=
  [("balanced", .balanced), ("time_focused", .timeFocused), ("quality_focused", .qualityFocused),
    ("popularity_focused", .popularityFocused), ("strict_quality", .strictQuality)]

def ofName? (name : String) : Option RankingPreset :=
  names.lookup name

def name : RankingPreset → String
  | .balanced => "balanced"
  | .timeFocused => "time_focused"
  | .qualityFocused => "quality_focused"
  | .popularityFocused => "popularity_focused"
  | .strictQuality => "strict_quality"

end RankingPreset

namespace RankingConfig

/-- A numeric field or a vote minimum, by its name. -/
inductive Field (α : Type) where
  | number (get : RankingConfig α → α) (set : RankingConfig α → α → RankingConfig α)
  | count (get : RankingConfig α → Int) (set : RankingConfig α → Int → RankingConfig α)

def fields {α : Type} : List (String × Field α) :=
  [("time_weight_factor", .number (·.timeWeight) fun c x => { c with timeWeight := x }),
    ("tag_weight_factor", .number (·.tagWeight) fun c x => { c with tagWeight := x }),
    ("reaction_weight_factor",
      .number (·.reactionWeight) fun c x => { c with reactionWeight := x }),
    ("time_decay_rate", .number (·.decayRate) fun c x => { c with decayRate := x }),
    ("wilson_confidence_level", .number (·.confidence) fun c x => { c with confidence := x }),
    ("default_tag_score", .number (·.defaultTagScore) fun c x => { c with defaultTagScore := x }),
    ("reaction_log_base", .number (·.logBase) fun c x => { c with logBase := x }),
    ("max_reaction_score", .number (·.reactionCap) fun c x => { c with reactionCap := x }),
    ("severe_penalty_threshold",
      .number (·.severeThreshold) fun c x => { c with severeThreshold := x }),
    ("severe_penalty_min_votes",
      .count (·.severeMinVotes) fun c n => { c with severeMinVotes := n }),
    ("severe_penalty_factor", .number (·.severeFactor) fun c x => { c with severeFactor := x }),
    ("mild_penalty_threshold", .number (·.mildThreshold) fun c x => { c with mildThreshold := x }),
    ("mild_penalty_min_votes", .count (·.mildMinVotes) fun c n => { c with mildMinVotes := n }),
    ("mild_penalty_factor", .number (·.mildFactor) fun c x => { c with mildFactor := x })]

end RankingConfig

end ForumSearch
