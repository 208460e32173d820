import ForumSearch.Proofs.Query.KeywordList
import ForumSearch.Proofs.Query.Request

/-!
# Phrases in quotes

In the search box a phrase in quotes is one keyword, whatever stands between the quotes. In the
field of keywords the separators come first, so a phrase with a separator in it falls apart.
-/

namespace ForumSearch

namespace FreeText

lemma clean_quoted {p : Text} (hkept : ∀ c ∈ p, isKept c = true) (hlength : p.length ≤ 498) :
    clean (quoted p) = quoted p := by
  have hall : ∀ c ∈ quoted p, isKept c = true := by
    rw [quoted, List.forall_mem_cons, List.forall_mem_append, List.forall_mem_singleton]
    exact ⟨by decide, hkept, by decide⟩
  have hshort : (quoted p).length ≤ maxLength := by
    simp only [quoted, List.length_cons, List.length_append, List.length_nil, maxLength]
    omega
  rw [clean, List.filter_eq_self.mpr hall, List.take_of_length_le hshort, (tight_quoted p).trim_eq]

/-- A phrase alone in the search box is all that is read there, with its dashes and colons. -/
lemma parse_quoted {p : Text} (hblank : p.trim ≠ []) (hquote : '"' ∉ p)
    (hauthor : ¬authorMark <:+: p.map Text.lower) : parse (quoted p) = ⟨none, [p.trim], [], []⟩ := by
  have hne : p ≠ [] := by
    rintro rfl
    exact hblank rfl
  have hcells (covered : Bool) : mark covered (quoted p) =
      ('"', covered) :: (mark covered p ++ [('"', covered)]) := by simp [mark, quoted]
  have hauthors : scan authorForm none (mark false (quoted p)) = ([], mark false (quoted p)) :=
    (leads_author_of_no_mark (no_mark_quoted hauthor) (by simp [Stops]) none).scan_eq
  have hphrases : scan phraseForm none (mark false (quoted p)) = ([p.trim], mark true (quoted p)) := by
    have hhit := phraseForm_quoted hne hquote false [] none
    simp only [Bool.false_or, List.isEmpty_eq_false_iff.mpr hblank, Bool.false_eq_true,
      if_false] at hhit
    have hleads := leads_hit hhit
    rw [← hcells, map_mark] at hleads
    exact hleads.scan_eq
  have hcovered : ∀ cell ∈ mark true (quoted p), cell.2 = true := by simp [mark]
  have hexclusions : scan exclusionForm none (mark true (quoted p)) =
      ([], mark true (quoted p)) :=
    (leads_exclusion_of_covered hcovered (by simp [Stops]) none).scan_eq
  have hrest : leftover (mark true (quoted p)) = [] := by
    have hnone := leftover_append (fun cell hcell => .inl (hcovered cell hcell)) []
    rwa [List.append_nil] at hnone
  rw [parse, (tight_quoted p).trim_eq, ← mark]
  simp only [hauthors, hphrases, hexclusions, hrest]
  rfl

end FreeText

open FreeText (quoted)

/-- In a list of keywords, a phrase is one keyword if it has no separator in it. -/
lemma Keyword.parseGroups_quoted_iff {p : Text} (hblank : p.trim ≠ []) :
    parseGroups (quoted p) = [[.exact p.trim]] ↔
      ∀ c ∈ p, isComma c = false ∧ isSlash c = false := by
  obtain ⟨left, right, hp, hleft, hright⟩ := Text.exists_trim p
  constructor
  · intro h
    have hnormal := normalGroups_parseGroups (quoted p)
    rw [h] at hnormal
    have hk : NormalText p.trim := by simpa [NormalGroups, Normal] using hnormal
    rw [hp]
    simp only [List.forall_mem_append]
    exact ⟨fun c hc => not_isSeparator_of_isBlank (hleft c hc), hk.whole,
      fun c hc => not_isSeparator_of_isBlank (hright c hc)⟩
  · intro h
    have hk : Normal (.exact p.trim) :=
      ⟨hblank, Text.trim_trim p, fun c hc => h c ((Text.isInfix_trim p).subset hc)⟩
    have hnone : Blank [] := by simp [Blank]
    have hwritten : Written (.exact p.trim) (quoted p) := by
      have hwritten := Written.exact (s := p.trim) hnone hnone hleft hright
      rwa [← hp, List.nil_append, List.append_nil] at hwritten
    have hgroups : NormalGroups [[.exact p.trim]] := by simpa [NormalGroups] using hk
    refine parseGroups_of_written (.last (.group ?_ (.last (.keyword hwritten)))) hgroups
    exact List.cons_ne_nil _ _

namespace Request

/-- A phrase in quotes is the one keyword of a search box, and it is the one of a field of keywords
exactly if there is no separator in the phrase. -/
theorem quoted_phrase_groups (p : Text) (now : Instant) (hblank : p.trim ≠ [])
    (hlength : p.length ≤ 498) (hquote : '"' ∉ p) (hkept : ∀ c ∈ p, FreeText.isKept c = true)
    (hauthor : ¬FreeText.authorMark <:+: p.map Text.lower) :
    ∃ q q', ({ query := some (quoted p) } : Request).validate now = .ok q ∧
      ({ keywords := some (quoted p) } : Request).validate now = .ok q' ∧
      q.keywordGroups = [[.exact p.trim]] ∧
      (q'.keywordGroups = q.keywordGroups ↔
        ∀ c ∈ p, Keyword.isComma c = false ∧ Keyword.isSlash c = false) := by
  have hbox : ({ query := some (quoted p) } : Request).groups = [[.exact p.trim]] := by
    have hfree : ({ query := some (quoted p) } : Request).freeText = ⟨none, [p.trim], [], []⟩ := by
      simp only [freeText, FreeText.clean_quoted hkept hlength,
        FreeText.parse_quoted hblank hquote hauthor]
    rw [groups, hfree]
    rfl
  have hfield : ({ keywords := some (quoted p) } : Request).groups =
      Keyword.parseGroups (quoted p) := by
    have hnone : Keyword.parseGroups [] = [] := by decide
    simp [groups, freeText, hnone]
  refine ⟨_, _, rfl, rfl, hbox, ?_⟩
  rw [← Keyword.parseGroups_quoted_iff hblank, ← hbox, ← hfield]

/-- The phrase has blanks around it, a dash, a colon and an author mark that is not whole, and the
separators of the field are not in it. -/
theorem quoted_phrase_groups_marks :
    let p : Text := " author -a: b ".toList
    p.trim ≠ [] ∧ p.length ≤ 498 ∧ '"' ∉ p ∧ (∀ c ∈ p, FreeText.isKept c = true) ∧
      ¬FreeText.authorMark <:+: p.map Text.lower ∧
      ∃ q q', ({ query := some (quoted p) } : Request).validate ⟨0, 0⟩ = .ok q ∧
        ({ keywords := some (quoted p) } : Request).validate ⟨0, 0⟩ = .ok q' ∧
        q.keywordGroups = [[.exact "author -a: b".toList]] ∧
        q'.keywordGroups = q.keywordGroups := by
  intro p
  have hkept : ∀ c ∈ p, FreeText.isKept c = true := List.all_eq_true.mp (by decide)
  have hauthor : ¬FreeText.authorMark <:+: p.map Text.lower := by decide
  have hwhole : p.all (fun c => !Keyword.isComma c && !Keyword.isSlash c) = true := by decide
  obtain ⟨q, q', hq, hq', hbox, hfield⟩ :=
    quoted_phrase_groups p ⟨0, 0⟩ (by decide) (by decide) (by decide) hkept hauthor
  exact ⟨by decide, by decide, by decide, hkept, hauthor, q, q', hq, hq', hbox,
    hfield.mpr (by simpa using hwhole)⟩

/-- A phrase with a comma in it is one keyword in the box, and in the field it falls apart into the
beginnings of two words, each with one of the quotes. -/
theorem quoted_phrase_falls_apart :
    let p : Text := "red, fox".toList
    p.trim ≠ [] ∧ p.length ≤ 498 ∧ '"' ∉ p ∧ (∀ c ∈ p, FreeText.isKept c = true) ∧
      ¬FreeText.authorMark <:+: p.map Text.lower ∧
      ∃ q q', ({ query := some (quoted p) } : Request).validate ⟨0, 0⟩ = .ok q ∧
        ({ keywords := some (quoted p) } : Request).validate ⟨0, 0⟩ = .ok q' ∧
        q.keywordGroups = [[.exact p]] ∧
        q'.keywordGroups = [[.starting "\"red".toList], [.starting "fox\"".toList]] ∧
        q'.keywordGroups ≠ q.keywordGroups := by
  intro p
  have hkept : ∀ c ∈ p, FreeText.isKept c = true := List.all_eq_true.mp (by decide)
  refine ⟨by decide, by decide, by decide, hkept, by decide, _, _, rfl, rfl, ?_, ?_, ?_⟩ <;>
    decide +kernel

end Request

end ForumSearch
