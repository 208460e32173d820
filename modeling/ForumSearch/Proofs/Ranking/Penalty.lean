import ForumSearch.Proofs.Ranking.Wilson

/-!
# Penalties for low tag scores

A configuration is only valid if the severe penalty is for lower tag scores than the mild one. That it
is also the harsher one is not asked for: where it is not, a lower tag score can be penalized less.
-/

namespace ForumSearch.Ranking

variable {c : RankingConfig ℝ} {tag : ℝ} {total : Int}

lemma penalty_eq (c : RankingConfig ℝ) (tag : ℝ) (total : Int) :
    penalty c tag total =
      if tag < c.severeThreshold ∧ c.severeMinVotes ≤ total then c.severeFactor
      else if tag < c.mildThreshold ∧ c.mildMinVotes ≤ total then c.mildFactor
      else 1 := by
  simp [penalty]

lemma penalty_of_severe (h : tag < c.severeThreshold ∧ c.severeMinVotes ≤ total) :
    penalty c tag total = c.severeFactor := by
  rw [penalty_eq, if_pos h]

lemma penalty_of_mild (hsevere : ¬(tag < c.severeThreshold ∧ c.severeMinVotes ≤ total))
    (h : tag < c.mildThreshold ∧ c.mildMinVotes ≤ total) : penalty c tag total = c.mildFactor := by
  rw [penalty_eq, if_neg hsevere, if_pos h]

lemma penalty_of_none (hsevere : ¬(tag < c.severeThreshold ∧ c.severeMinVotes ≤ total))
    (hmild : ¬(tag < c.mildThreshold ∧ c.mildMinVotes ≤ total)) : penalty c tag total = 1 := by
  rw [penalty_eq, if_neg hsevere, if_neg hmild]

lemma penalty_mem (h : c.Valid) (tag : ℝ) (total : Int) :
    0 ≤ penalty c tag total ∧ penalty c tag total ≤ 1 := by
  rw [penalty_eq]
  split_ifs
  · exact h.severeFactor_mem
  · exact h.mildFactor_mem
  · exact ⟨zero_le_one, le_rfl⟩

lemma penalty_score (c : RankingConfig ℝ) (byTag : Bool) (now : Instant) (row : RankRow) :
    (score c byTag now row).penalty =
      penalty c (score c byTag now row).tag (totalVotes byTag row.votes) := rfl

lemma tag_score_nonneg (h : c.Valid) (byTag : Bool) (now : Instant) {row : RankRow}
    (hup : 0 ≤ row.votes.up) (hdown : 0 ≤ row.votes.down) : 0 ≤ (score c byTag now row).tag :=
  tagScore_nonneg h hup hdown

/-- With so many votes the severe penalty is no milder than the mild one, if both can apply. -/
def PenaltiesInOrder (c : RankingConfig ℝ) (total : Int) : Prop :=
  c.severeMinVotes ≤ total → c.mildMinVotes ≤ total → 0 < c.severeThreshold →
    c.severeFactor ≤ c.mildFactor

lemma penalty_le_penalty (h : c.Valid) (horder : PenaltiesInOrder c total) {tag' : ℝ}
    (hnonneg : 0 ≤ tag) (hle : tag ≤ tag') : penalty c tag total ≤ penalty c tag' total := by
  by_cases hsevere' : tag' < c.severeThreshold ∧ c.severeMinVotes ≤ total
  · rw [penalty_of_severe hsevere', penalty_of_severe ⟨hle.trans_lt hsevere'.1, hsevere'.2⟩]
  by_cases hmild' : tag' < c.mildThreshold ∧ c.mildMinVotes ≤ total
  · rw [penalty_of_mild hsevere' hmild']
    by_cases hsevere : tag < c.severeThreshold ∧ c.severeMinVotes ≤ total
    · rw [penalty_of_severe hsevere]
      exact horder hsevere.2 hmild'.2 (hnonneg.trans_lt hsevere.1)
    · rw [penalty_of_mild hsevere ⟨hle.trans_lt hmild'.1, hmild'.2⟩]
  · rw [penalty_of_none hsevere' hmild']
    exact (penalty_mem h tag total).2

/-- At zero the severe penalty applies and at its threshold the mild one. -/
lemma penaltiesInOrder_of_monotoneOn (h : c.Valid)
    (hmono : MonotoneOn (fun tag => penalty c tag total) (Set.Icc 0 1)) :
    PenaltiesInOrder c total := by
  intro hsevere hmild hpos
  have hle : penalty c 0 total ≤ penalty c c.severeThreshold total :=
    hmono ⟨le_rfl, zero_le_one⟩ h.severeThreshold_mem hpos.le
  rwa [penalty_of_severe ⟨hpos, hsevere⟩,
    penalty_of_mild (fun hlow => lt_irrefl _ hlow.1) ⟨h.severeThreshold_lt, hmild⟩] at hle

/-- By a valid configuration the multiplier grows with the tag score, at a number of votes, exactly if
the penalties are in order there. Then of two threads with as many votes the one with the worse tag
score never has the greater multiplier. -/
theorem penalty_monotoneOn_iff {c : RankingConfig ℝ} (hc : c.validate = .ok ()) (total : Int) :
    (MonotoneOn (fun tag => penalty c tag total) (Set.Icc 0 1) ↔ PenaltiesInOrder c total) ∧
      (PenaltiesInOrder c total → ∀ (byTag : Bool) (now now' : Instant) (row row' : RankRow),
        0 ≤ row.votes.up → 0 ≤ row.votes.down →
        totalVotes byTag row.votes = total → totalVotes byTag row'.votes = total →
        (score c byTag now row).tag ≤ (score c byTag now' row').tag →
        (score c byTag now row).penalty ≤ (score c byTag now' row').penalty) := by
  have h := RankingConfig.validate_eq_ok_iff.mp hc
  refine ⟨⟨penaltiesInOrder_of_monotoneOn h, ?_⟩, ?_⟩
  · rintro horder tag ⟨hnonneg, -⟩ tag' - hle
    exact penalty_le_penalty h horder hnonneg hle
  · intro horder byTag now now' row row' hup hdown htotal htotal' hle
    have hnonneg := tag_score_nonneg h byTag now hup hdown
    rw [penalty_score, penalty_score, htotal, htotal']
    exact penalty_le_penalty h horder hnonneg hle

lemma tag_score_of_voted (c : RankingConfig ℝ) (now : Instant) {row : RankRow}
    (hn : 0 < row.votes.up + row.votes.down) :
    (score c true now row).tag = wilson row.votes.up row.votes.down c.confidence :=
  if_pos hn

lemma tag_score_of_no_upvotes (h : c.Valid) (now : Instant) {row : RankRow}
    (hup : row.votes.up = 0) (hdown : 0 < row.votes.down) : (score c true now row).tag = 0 := by
  have hn : 0 < row.votes.up + row.votes.down := by omega
  rw [tag_score_of_voted c now hn, wilson_eq_zero_iff hup.ge hdown.le h.confidence_pos hn]
  exact hup

/-- At the standard configuration, with twelve votes of which none or seven are upvotes. -/
theorem penalty_monotoneOn_iff_twelve_votes :
    let row (up down : Int) : RankRow := ⟨1, ⟨0, 0⟩, 0, ⟨up, down⟩⟩
    let score (up down : Int) : Score ℝ := score .standard true ⟨0, 0⟩ (row up down)
    (.standard : RankingConfig ℝ).validate = .ok () ∧ PenaltiesInOrder .standard 12 ∧
      MonotoneOn (fun tag => penalty (.standard : RankingConfig ℝ) tag 12) (Set.Icc 0 1) ∧
      (score 0 12).tag ≤ (score 7 5).tag ∧ (score 0 12).penalty ≤ (score 7 5).penalty := by
  intro row score
  have hc : (.standard : RankingConfig ℝ).validate = .ok () :=
    RankingConfig.validate_eq_ok_iff.mpr RankingConfig.valid_standard
  have horder : PenaltiesInOrder (.standard : RankingConfig ℝ) 12 := fun _ _ _ => by
    norm_num [RankingConfig.standard]
  have hzero : (score 0 12).tag = 0 :=
    tag_score_of_no_upvotes RankingConfig.valid_standard ⟨0, 0⟩ rfl (by decide)
  have hnonneg : 0 ≤ (score 7 5).tag :=
    tag_score_nonneg RankingConfig.valid_standard true ⟨0, 0⟩ (by decide) (by decide)
  have htag : (score 0 12).tag ≤ (score 7 5).tag := hzero.trans_le hnonneg
  obtain ⟨hiff, hscores⟩ := penalty_monotoneOn_iff hc 12
  exact ⟨hc, horder, hiff.mpr horder, htag, hscores horder true ⟨0, 0⟩ ⟨0, 0⟩ (row 0 12)
    (row 7 5) (by decide) (by decide) (by decide) (by decide) htag⟩

/-- Both penalties apply from no votes on, and the severe one is the milder of the two. -/
noncomputable def outOfOrder : RankingConfig ℝ :=
  { RankingConfig.standard with
    severeFactor := 9 / 10, severeMinVotes := 0, mildFactor := 1 / 10, mildMinVotes := 0 }

lemma valid_outOfOrder : outOfOrder.Valid := by
  rw [RankingConfig.valid_iff]
  norm_num [outOfOrder, RankingConfig.standard]

/-- The configuration is valid, and by it one downvote is penalized less than one upvote. -/
theorem worse_tag_penalized_less :
    let score (up down : Int) : Score ℝ := score outOfOrder true ⟨0, 0⟩ ⟨1, ⟨0, 0⟩, 0, ⟨up, down⟩⟩
    outOfOrder.validate = .ok () ∧ (score 0 1).tag < (score 1 0).tag ∧
      (score 1 0).penalty < (score 0 1).penalty := by
  intro score
  have hzero : (score 0 1).tag = 0 := tag_score_of_no_upvotes valid_outOfOrder ⟨0, 0⟩ rfl (by decide)
  have hone : (score 1 0).tag = 1 / (1 + 1.96 ^ 2) := by
    have hz : outOfOrder.confidence = 1.96 := by norm_num [outOfOrder, RankingConfig.standard]
    have htag : (score 1 0).tag = wilson 1 0 outOfOrder.confidence :=
      tag_score_of_voted outOfOrder ⟨0, 0⟩ (by decide)
    rw [htag, hz, wilson_one_zero (by norm_num)]
  refine ⟨RankingConfig.validate_eq_ok_iff.mpr valid_outOfOrder, ?_, ?_⟩
  · rw [hzero, hone]
    norm_num
  · have hsevere : (score 0 1).penalty = 9 / 10 := by
      rw [penalty_score]
      refine penalty_of_severe ⟨?_, by decide⟩
      rw [hzero]
      norm_num [outOfOrder, RankingConfig.standard]
    have hmild : (score 1 0).penalty = 1 / 10 := by
      rw [penalty_score]
      refine penalty_of_mild (fun hlow => absurd hlow.1 ?_) ⟨?_, by decide⟩
      · rw [hone]
        norm_num [outOfOrder, RankingConfig.standard]
      · rw [hone]
        norm_num [outOfOrder, RankingConfig.standard]
    rw [hsevere, hmild]
    norm_num

end ForumSearch.Ranking
