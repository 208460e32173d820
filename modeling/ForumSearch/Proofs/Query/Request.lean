import ForumSearch.Query.Request
import Mathlib
/-!
# Validated requests

What a request must be for validation to accept it, and the query it then becomes.
-/

namespace ForumSearch.Request

/-- What of a request is looked at before its texts are read. -/
structure InBounds (r : Request) : Prop where
  one_le_limit : 1 ≤ r.limit
  limit_le : r.limit ≤ maxLimit
  offset_nonneg : 0 ≤ r.offset
  viewer : r.collectedOnly = true → r.viewer ≠ none

lemma bind_eq_ok_iff {ε α β : Type} {x : Except ε α} {f : α → Except ε β} {b : β} :
    x >>= f = .ok b ↔ ∃ a, x = .ok a ∧ f a = .ok b := by
  cases x <;> simp [bind, Except.bind]

lemma refuse_eq_ok_iff {ε α β : Type} {p : Prop} [Decidable p] {e : ε} {f : α → Except ε β}
    {x : Except ε β} {b : β} :
    (if p then throw e >>= f else x) = .ok b ↔ ¬p ∧ x = .ok b := by
  by_cases h : p
  · simp [h, bind, Except.bind, throw, throwThe, MonadExceptOf.throw]
  · simp [h]

/-- An accepted request becomes the query that has its bounds read and its other fields as they
are. -/
lemma validate_eq_ok_iff {r : Request} {now : Instant} {q : Query} :
    r.validate now = .ok q ↔
      InBounds r ∧
      TimeBound.parse r.createdAfter now = .ok q.createdAfter ∧
      TimeBound.parse r.createdBefore now = .ok q.createdBefore ∧
      TimeBound.parse r.activeAfter now = .ok q.activeAfter ∧
      TimeBound.parse r.activeBefore now = .ok q.activeBefore ∧
      Interval.parseFilter r.reactionRange = .ok q.reactions ∧
      Interval.parseFilter r.replyRange = .ok q.replies ∧
      q = { q with
        channels := r.channels
        includeTags := normalNames r.includeTags
        excludeTags := normalNames r.excludeTags
        tagLogic := r.tagLogic
        keywordGroups := r.groups
        excludeKeywords := r.excluded
        exemptionMarkers := r.exemptionMarkers.getD defaultMarkers
        includeAuthors := r.includeAuthors
        excludeAuthors := r.excludeAuthors
        authorName := r.author
        sortMethod := SortMethod.ofNames r.sortMethod r.customBase
        direction := r.direction
        limit := r.limit
        offset := r.offset
        excludeThreads := r.excludeThreads
        viewer := r.viewer
        collectedOnly := r.collectedOnly } := by
  unfold validate
  simp only [refuse_eq_ok_iff, bind_eq_ok_iff, pure, Except.pure, Except.ok.injEq]
  constructor
  · rintro ⟨hlimit, hoffset, hviewer, ca, hca, cb, hcb, aa, haa, ab, hab, rs, hrs, rp, hrp, rfl⟩
    have hbounds := not_not.mp hlimit
    exact ⟨⟨hbounds.1, hbounds.2, not_lt.mp hoffset, fun hc hv => hviewer ⟨hc, hv⟩⟩,
      hca, hcb, haa, hab, hrs, hrp, rfl⟩
  · rintro ⟨hb, hca, hcb, haa, hab, hrs, hrp, hq⟩
    exact ⟨not_not.mpr ⟨hb.one_le_limit, hb.limit_le⟩, not_lt.mpr hb.offset_nonneg,
      fun h => hb.viewer h.1 h.2, _, hca, _, hcb, _, haa, _, hab, _, hrs, _, hrp, hq.symm⟩

/-- Whether a request is accepted does not depend on the page it asks for, as long as there is
such a page. -/
lemma validate_repage {r : Request} {now : Instant} {q : Query} (h : r.validate now = .ok q)
    {offset limit : Int} (ho : 0 ≤ offset) (hl : 1 ≤ limit) (hm : limit ≤ maxLimit) :
    { r with offset, limit }.validate now = .ok { q with offset, limit } := by
  obtain ⟨hb, hca, hcb, haa, hab, hrs, hrp, hq⟩ := validate_eq_ok_iff.mp h
  refine validate_eq_ok_iff.mpr ⟨⟨hl, hm, ho, hb.viewer⟩, hca, hcb, haa, hab, hrs, hrp, ?_⟩
  rw [hq]
  rfl

end ForumSearch.Request
