import ForumSearch.Proofs.Query.Printing
import ForumSearch.Proofs.Query.Spans

/-!
# Dashes

A search box without quotes and without the mark of an author is read word by word. The first dash
of a word begins an exclusion wherever it stands in the word, unless a colon stands before it or
nothing stands behind it.
-/

namespace ForumSearch.FreeText

/-- What stands before and behind the first dash of a word, if it begins an exclusion. -/
def exclusion? (word : Text) : Option (Text × Text) :=
  (Text.splitFirst '-' word).filter fun parts => parts.2 ≠ [] ∧ parts.1.getLast? ≠ some ':'

/-- What an exclusion leaves of a word. -/
def remainder (word : Text) : Text :=
  ((exclusion? word).map (·.1)).getD word

/-- The first dash of a word has a colon before it or nothing behind it. -/
def Harmless (word : Text) : Prop :=
  ∀ front back, word = front ++ '-' :: back → '-' ∉ front → back = [] ∨ front.getLast? = some ':'

lemma exclusion?_append {front : Text} (hfront : '-' ∉ front) (back : Text) :
    exclusion? (front ++ '-' :: back) =
      if back = [] ∨ front.getLast? = some ':' then none else some (front, back) := by
  rw [exclusion?, Text.splitFirst_eq_some_iff.mpr ⟨rfl, hfront⟩, Option.filter_some]
  split_ifs <;> simp_all

lemma exclusion?_eq_some_iff {word front back : Text} : exclusion? word = some (front, back) ↔
    word = front ++ '-' :: back ∧ '-' ∉ front ∧ back ≠ [] ∧ front.getLast? ≠ some ':' := by
  rw [exclusion?, Option.filter_eq_some_iff, Text.splitFirst_eq_some_iff, and_assoc]
  simp

lemma exclusion?_eq_none_iff {word : Text} : exclusion? word = none ↔ Harmless word := by
  rw [Option.eq_none_iff_forall_ne_some]
  constructor
  · intro h front back hword hfront
    by_contra hnot
    push Not at hnot
    exact h (front, back) (exclusion?_eq_some_iff.mpr ⟨hword, hfront, hnot⟩)
  · rintro h ⟨front, back⟩ hsome
    obtain ⟨hword, hfront, hback, hcolon⟩ := exclusion?_eq_some_iff.mp hsome
    rcases h front back hword hfront with hnil | hlast
    · exact hback hnil
    · exact hcolon hlast

instance (word : Text) : Decidable (Harmless word) :=
  decidable_of_iff _ exclusion?_eq_none_iff

section Scan

variable {before : Option Char}

/-- A scan that finds nothing leaves the cells as they are. -/
lemma scan_eq_of_found_nil {form : Option Char → Cell → List Cell → Option Hit} (cells : List Cell)
    (h : (scan form before cells).1 = []) : (scan form before cells).2 = cells := by
  induction hn : cells.length using Nat.strong_induction_on generalizing before cells with
  | _ n ih =>
    cases cells with
    | nil => rw [scan]
    | cons cell cells =>
      subst hn
      rw [scan] at h ⊢
      cases hform : form before cell cells with
      | none =>
        rw [hform] at h
        exact congrArg (cell :: ·) (ih _ (by simp) cells h rfl)
      | some hit =>
        rw [hform] at h
        cases hfound : hit.found with
        | some text => simp [hfound] at h
        | none =>
          simp only [hfound] at h ⊢
          have hlength : (cells.drop hit.size).length < (cell :: cells).length := by
            simp only [List.length_drop, List.length_cons]
            omega
          rw [ih _ hlength _ h rfl, List.cons_append, List.take_append_drop]

lemma scan_exclusion_append {s : Text} (hs : '-' ∉ s) (rest : List Cell) :
    scan exclusionForm before (mark false s ++ rest) =
      ((scan exclusionForm (s.getLast?.or before) rest).1,
        mark false s ++ (scan exclusionForm (s.getLast?.or before) rest).2) := by
  induction s generalizing before with
  | nil => rfl
  | cons c s ih =>
    rw [List.mem_cons, not_or] at hs
    have hnone : exclusionForm before (c, false) (mark false s ++ rest) = none :=
      if_neg (Ne.symm hs.1)
    have hlast : (List.cons c s).getLast?.or before = s.getLast?.or (some c) := by
      rw [List.getLast?_cons]
      cases s.getLast? <;> rfl
    rw [mark_cons, List.cons_append, scan, hnone, hlast]
    simp only [ih hs.2, List.cons_append]

/-- The cells of a word, covered from the dash of an exclusion on. -/
def markExclusion (word : Text) : List Cell :=
  match exclusion? word with
  | some (front, back) => mark false front ++ mark true ('-' :: back)
  | none => mark false word

/-- The dash begins an exclusion, which goes on to the end of the word, or the end of the word is
passed over. -/
lemma leads_exclusion_of_dash {back : Text} (hback : ∀ c ∈ back, Text.isBlank c = false)
    {rest : List Cell} (hrest : Stops rest) (before : Option Char) :
    Leads exclusionForm before (mark false ('-' :: back) ++ rest) rest
      (if back = [] ∨ before = some ':' then [] else [back])
      (mark (if back = [] ∨ before = some ':' then false else true) ('-' :: back)) := by
  have hform : exclusionForm before ('-', false) (mark false back ++ rest) =
      if back = [] then none
      else some ⟨(mark false back).length, if before = some ':' then none else some back⟩ := by
    rw [exclusionForm, if_pos rfl, openWord_append hrest, openWord_mark hback]
    simp [mark]
  by_cases hempty : back = []
  · subst hempty
    rw [if_pos rfl] at hform
    simpa [mark] using leads_pass hform
  · rw [if_neg (by simpa using hempty)] at hform
    have hleads := leads_hit hform
    rw [← mark_cons, map_mark] at hleads
    by_cases hcolon : before = some ':'
    · simpa [hcolon] using hleads
    · simpa [hcolon, hempty] using hleads

/-- A word is read up to its first dash. What the dash begins goes on to the end of the word, so
no later dash of the word counts. -/
lemma leads_exclusion_of_word {word : Text} (hword : ∀ c ∈ word, Text.isBlank c = false)
    {rest : List Cell} (hrest : Stops rest) (hbefore : before ≠ some ':') :
    Leads exclusionForm before (mark false word ++ rest) rest
      ((exclusion? word).map (·.2)).toList (markExclusion word) := by
  cases hsplit : Text.splitFirst '-' word with
  | none =>
    have hnone : exclusion? word = none := by simp [exclusion?, hsplit]
    rw [markExclusion, hnone]
    exact leads_exclusion_of_no_dash (Text.splitFirst_eq_none_iff.mp hsplit) false rest before
  | some parts =>
    obtain ⟨front, back⟩ := parts
    obtain ⟨rfl, hfront⟩ := Text.splitFirst_eq_some_iff.mp hsplit
    have hback : ∀ c ∈ back, Text.isBlank c = false :=
      fun c hc => hword c (List.mem_append_right _ (List.mem_cons_of_mem _ hc))
    have hcolon : front.getLast?.or before = some ':' ↔ front.getLast? = some ':' := by
      cases front.getLast? with
      | none => simp [hbefore]
      | some c => simp
    obtain ⟨b, hb⟩ := leads_exclusion_of_dash hback hrest (front.getLast?.or before)
    refine ⟨b, ?_⟩
    rw [mark_append, List.append_assoc, scan_exclusion_append hfront, hb, markExclusion,
      exclusion?_append hfront]
    simp only [hcolon]
    split_ifs <;> simp [mark_append]

end Scan

section Rest

/-- The text of cells, with a space in the place of each character that is covered. -/
def blanked (cells : List Cell) : Text :=
  cells.map fun cell => if cell.2 then ' ' else cell.1

lemma blanked_append (cells cells' : List Cell) :
    blanked (cells ++ cells') = blanked cells ++ blanked cells' :=
  List.map_append

lemma blanked_mark (covered : Bool) (s : Text) :
    blanked (mark covered s) = if covered then List.replicate s.length ' ' else s := by
  rw [blanked, mark, List.map_map]
  cases covered with
  | true => exact List.map_const'
  | false => exact List.map_id s

lemma joinWith_stretches (cells : List Cell) :
    Text.joinWith [' '] (stretches cells) = blanked cells := by
  induction cells with
  | nil => rfl
  | cons cell cells ih =>
    obtain ⟨c, covered⟩ := cell
    obtain ⟨s, texts, hs⟩ := List.exists_cons_of_ne_nil (stretches_ne_nil cells)
    rw [hs] at ih
    cases covered with
    | true =>
      rw [stretches_covered, hs, Text.joinWith_cons_cons, ih]
      rfl
    | false =>
      rw [stretches_free hs]
      have hcons : Text.joinWith [' '] ((c :: s) :: texts) =
          c :: Text.joinWith [' '] (s :: texts) := by
        cases texts with
        | nil => simp
        | cons t texts => simp [Text.joinWith_cons_cons]
      rw [hcons, ih]
      rfl

/-- The rest has the words that stand in what is not covered. -/
lemma words_leftover (cells : List Cell) : (leftover cells).words = (blanked cells).words := by
  rw [leftover, ← joinWith_stretches, Text.words_joinWith, Text.words_joinWith]
  induction stretches cells with
  | nil => rfl
  | cons s texts ih =>
    rw [List.map_cons, List.filter_cons, List.flatMap_cons, ← ih, ← Text.words_trim s]
    split_ifs with hs
    · rw [List.flatMap_cons]
    · have hnil : s.trim = [] := by simpa using hs
      rw [hnil]
      rfl

lemma words_blanked_markExclusion {word : Text} (hword : ∀ c ∈ word, Text.isBlank c = false) :
    (blanked (markExclusion word)).words = [remainder word].filter (· ≠ []) := by
  have hword' {s : Text} (hs : ∀ c ∈ s, c ∈ word) : s.words = [s].filter (· ≠ []) := by
    rw [Text.words_of_forall fun c hc => hword c (hs c hc)]
    split_ifs with hnil <;> simp [hnil]
  rw [markExclusion, remainder]
  cases h : exclusion? word with
  | none =>
    rw [blanked_mark]
    exact hword' fun c hc => hc
  | some parts =>
    obtain ⟨front, back⟩ := parts
    obtain ⟨rfl, -⟩ := exclusion?_eq_some_iff.mp h
    have hblank : ∀ c ∈ blanked (mark true ('-' :: back)), Text.isBlank c = true := by
      rw [blanked_mark, if_pos rfl]
      intro c hc
      rw [List.eq_of_mem_replicate hc]
      decide
    rw [blanked_append, Text.words_append_blanks hblank, blanked_mark]
    exact hword' fun c hc => List.mem_append_left _ hc

end Rest

/-- The scan for exclusions takes the words one by one. -/
lemma scan_exclusion_words (s : Text) {before : Option Char} (hbefore : before ≠ some ':') :
    (scan exclusionForm before (mark false s)).1 =
        (s.words.filterMap exclusion?).map (·.2) ∧
      (blanked (scan exclusionForm before (mark false s)).2).words =
        (s.words.map remainder).filter (· ≠ []) := by
  have hlast {word : Text} (hword : ∀ c ∈ word, Text.isBlank c = false) :
      (word.words.filterMap exclusion?).map (·.2) = ((exclusion? word).map (·.2)).toList ∧
        (word.words.map remainder).filter (· ≠ []) = [remainder word].filter (· ≠ []) := by
    rw [Text.words_of_forall hword]
    split_ifs with hnil
    · subst hnil
      decide
    · cases h : exclusion? word <;> simp [h]
  induction hn : s.length using Nat.strong_induction_on generalizing s before with
  | _ n ih =>
    rcases Text.forall_or_exists_append_cons Text.isBlank s with hword |
      ⟨word, c, rest, rfl, hword, hc⟩
    · have hend : Stops [] := by simp [Stops]
      have hscan := leads_exclusion_of_word hword hend hbefore
      rw [hscan.scan_eq, (hlast hword).1, (hlast hword).2]
      exact ⟨rfl, words_blanked_markExclusion hword⟩
    · have hstops : Stops ((c, false) :: mark false rest) := by simpa [Stops] using hc
      obtain ⟨b, hb⟩ := leads_exclusion_of_word hword hstops hbefore
      have hdash : c ≠ '-' := by
        rintro rfl
        exact absurd hc (by decide)
      have hcolon : some c ≠ some ':' := by
        rintro ⟨⟩
        exact absurd hc (by decide)
      have hnone : exclusionForm b (c, false) (mark false rest) = none := if_neg hdash
      obtain ⟨hfound, hrest⟩ := ih rest.length (by simp [← hn]; omega) rest hcolon rfl
      rw [mark_append, mark_cons, hb, scan, hnone, Text.words_append_cons hc, List.filterMap_append,
        List.map_append, List.map_append, List.filter_append, (hlast hword).1, (hlast hword).2,
        ← hfound, ← hrest, ← words_blanked_markExclusion hword, blanked_append]
      exact ⟨rfl, Text.words_append_cons hc _ _⟩

/-- A search box without quotes and without the mark of an author names no author and no phrase.
What it excludes stands behind the first dashes of its words, and what is left of the words is the
rest. It excludes nothing, and is all rest, exactly if each of these dashes has a colon before it
or nothing behind it. -/
theorem parse_dashes {s : Text} (hquote : '"' ∉ s) (hauthor : ¬authorMark <:+: s.map Text.lower) :
    (parse s).authorName = none ∧ (parse s).phrases = [] ∧
      (parse s).excluded = (s.words.filterMap exclusion?).map (·.2) ∧
      (parse s).rest.words = (s.words.map remainder).filter (· ≠ []) ∧
      ((parse s).excluded = [] ∧ (parse s).rest = s.trim ↔ ∀ word ∈ s.words, Harmless word) := by
  have hquote' : '"' ∉ s.trim := fun h => hquote ((Text.isInfix_trim s).subset h)
  have hauthor' : ¬authorMark <:+: s.trim.map Text.lower :=
    fun h => hauthor (h.trans ((Text.isInfix_trim s).map Text.lower))
  have hauthors : scan authorForm none (mark false s.trim) = ([], mark false s.trim) :=
    (leads_author_of_no_mark hauthor' (by simp [Stops]) none).scan_eq
  have hphrases : scan phraseForm none (mark false s.trim) = ([], mark false s.trim) :=
    (leads_phrase_of_no_quote hquote' false [] none).scan_eq
  have hparse : parse s = ⟨none, [], (scan exclusionForm none (mark false s.trim)).1,
      leftover (scan exclusionForm none (mark false s.trim)).2⟩ := by
    rw [parse, ← mark]
    simp only [hauthors, hphrases]
    rfl
  have hbefore : none ≠ some ':' := by simp
  obtain ⟨hfound, hwords⟩ := scan_exclusion_words s.trim hbefore
  rw [Text.words_trim] at hfound hwords
  have hnone : (scan exclusionForm none (mark false s.trim)).1 = [] ↔
      ∀ word ∈ s.words, Harmless word := by
    rw [hfound, List.map_eq_nil_iff, List.filterMap_eq_nil_iff]
    exact forall₂_congr fun word _ => exclusion?_eq_none_iff
  rw [hparse]
  refine ⟨rfl, rfl, hfound, (words_leftover _).trans hwords, ?_⟩
  refine ⟨fun h => hnone.mp h.1, fun h => ⟨hnone.mpr h, ?_⟩⟩
  dsimp only
  rw [scan_eq_of_found_nil _ (hnone.mpr h), leftover_uncovered, Text.trim_trim]

/-- A dash with a colon before it and one with nothing behind it, and in the word of the colon one
more dash. -/
theorem parse_dashes_harmless :
    let s : Text := " re:-x-y\tpre- ".toList
    '"' ∉ s ∧ ¬authorMark <:+: s.map Text.lower ∧ (∀ word ∈ s.words, Harmless word) ∧
      (parse s).excluded = [] ∧ (parse s).rest = "re:-x-y\tpre-".toList := by
  intro s
  have hquote : '"' ∉ s := by decide
  have hauthor : ¬authorMark <:+: s.map Text.lower := by decide
  have hwords : ∀ word ∈ s.words, Harmless word := by decide
  obtain ⟨-, -, -, -, hiff⟩ := parse_dashes hquote hauthor
  obtain ⟨hnone, hrest⟩ := hiff.mpr hwords
  exact ⟨hquote, hauthor, hwords, hnone, hrest.trans (by decide)⟩

/-- The dash of a compound word has a letter before it, and what stands behind it is excluded. -/
theorem compound_word_excludes :
    let s : Text := "well-known".toList
    '"' ∉ s ∧ ¬authorMark <:+: s.map Text.lower ∧
      (∀ i < s.length, s[i]? = some '-' →
        (s.take i).getLast?.any (!Text.isBlank ·) = true) ∧
      (parse s).excluded = ["known".toList] ∧ (parse s).rest = "well".toList ∧
      (parse s).excluded ≠ [] ∧ (parse s).rest ≠ s.trim := by
  refine ⟨by decide, by decide, by decide, ?_⟩
  decide +kernel

end ForumSearch.FreeText
