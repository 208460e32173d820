import ForumSearch.Index.Matching
import Mathlib

/-!
# Matching of expressions

Where a phrase occurs, its terms are a run of the terms of the text. Rows of phrases with terms hold
when all of them do, and choices when one of them does.
-/

namespace ForumSearch.Index

/-- A phrase of some terms occurs where they are a run of the document. -/
lemma occurs_iff (words doc : List Text) :
    occurs words doc = true ↔ words ≠ [] ∧ words <:+: doc := by
  unfold occurs occurrences fits
  simp only [Bool.and_eq_true, Bool.not_eq_true', List.isEmpty_eq_false_iff]
  refine and_congr_right ?_
  intro hne
  constructor
  · intro h
    obtain ⟨i, hi⟩ := List.exists_mem_of_ne_nil _ h
    obtain ⟨-, hp⟩ := List.mem_filter.mp hi
    exact (List.isPrefixOf_iff_prefix.mp hp).isInfix.trans (List.drop_suffix i doc).isInfix
  · rintro ⟨before, after, hdoc⟩
    refine List.ne_nil_of_mem (a := before.length) (List.mem_filter.mpr ⟨?_, ?_⟩)
    · have hpos := List.length_pos_iff.mpr hne
      rw [List.mem_range, ← hdoc]
      simp only [List.length_append]
      omega
    · rw [← hdoc, List.append_assoc, List.drop_left, List.isPrefixOf_iff_prefix]
      exact List.prefix_append _ _

lemma fitsStarting_iff (init : List Text) (last : Text) (doc : List Text) :
    fitsStarting (init ++ [last]) doc = true ↔
      ∃ token after, doc = init ++ token :: after ∧ last <+: token := by
  induction init generalizing doc with
  | nil =>
    cases doc with
    | nil => simp [fitsStarting]
    | cons t doc => simp [fitsStarting]
  | cons w init ih =>
    cases doc with
    | nil => simp [fitsStarting]
    | cons t doc =>
      have hstep : fitsStarting (w :: (init ++ [last])) (t :: doc) =
          (decide (w = t) && fitsStarting (init ++ [last]) doc) := by
        rw [fitsStarting]
        simp
      rw [List.cons_append, hstep, Bool.and_eq_true, decide_eq_true_eq, ih]
      simp only [List.cons_append, List.cons.injEq]
      constructor
      · rintro ⟨rfl, token, after, hdoc, hlast⟩
        exact ⟨token, after, ⟨rfl, hdoc⟩, hlast⟩
      · rintro ⟨token, after, ⟨rfl, hdoc⟩, hlast⟩
        exact ⟨rfl, token, after, hdoc, hlast⟩

lemma occursStarting_iff (init : List Text) (last : Text) (doc : List Text) :
    occursStarting (init ++ [last]) doc = true ↔
      ∃ before token after, doc = before ++ (init ++ token :: after) ∧ last <+: token := by
  unfold occursStarting
  simp only [Bool.and_eq_true, List.any_eq_true, List.mem_range, fitsStarting_iff]
  constructor
  · rintro ⟨-, i, -, token, after, hdrop, hlast⟩
    exact ⟨doc.take i, token, after, by rw [← hdrop, List.take_append_drop], hlast⟩
  · rintro ⟨before, token, after, rfl, hlast⟩
    refine ⟨by simp, before.length, by simp, token, after, ?_, hlast⟩
    rw [List.drop_left]

variable {keep : Analyzer} {doc : List Text}

lemma holds_both {l r : Expression} (hl : l.isVoid keep = false) (hr : r.isVoid keep = false) :
    holds keep doc (.both l r) = (holds keep doc l && holds keep doc r) := by
  simp [holds, hl, hr]

/-- A row of expressions that ask for something holds when all of them do. -/
lemma holds_joinLeft_both {es : List Expression} {e : Expression}
    (h : Expression.joinLeft .both es = some e) (hes : ∀ x ∈ es, x.isVoid keep = false) :
    holds keep doc e = true ↔ ∀ x ∈ es, holds keep doc x = true := by
  suffices e.isVoid keep = false ∧
      (holds keep doc e = true ↔ ∀ x ∈ es, holds keep doc x = true) from this.2
  induction h using Expression.joinLeft_induction with
  | one e => simpa using hes
  | more es l _ r ih =>
    obtain ⟨hl, hlast⟩ := List.forall_mem_append.mp hes
    obtain ⟨hvoid, hiff⟩ := ih hl
    have hr : r.isVoid keep = false := hlast r List.mem_cons_self
    refine ⟨by simp [Expression.isVoid, hvoid], ?_⟩
    rw [holds_both hvoid hr, Bool.and_eq_true, hiff, List.forall_mem_append,
      List.forall_mem_singleton]

lemma holds_joinLeft_either {es : List Expression} {e : Expression}
    (h : Expression.joinLeft .either es = some e) :
    holds keep doc e = true ↔ ∃ x ∈ es, holds keep doc x = true := by
  induction h using Expression.joinLeft_induction with
  | one e => simp
  | more es l _ r ih => simp [holds, ih, or_and_right, exists_or]

end ForumSearch.Index
