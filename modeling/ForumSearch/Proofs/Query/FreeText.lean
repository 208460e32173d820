import ForumSearch.Proofs.Index.Segmentation
import ForumSearch.Proofs.Text.Trim
import ForumSearch.Query.FreeText

/-!
# The search box

A scan goes on behind what it has read. A form that is nowhere in a text finds nothing there and
covers nothing, so a text without any of the three forms is searched for as a whole.
-/

namespace ForumSearch.FreeText

/-- A scan finds texts in the cells before the rest, leaves these cells as marked, and goes on. -/
def Leads (form : Option Char → Cell → List Cell → Option Hit) (before : Option Char)
    (cells rest : List Cell) (found : List Text) (marked : List Cell) : Prop :=
  ∃ before', scan form before cells =
    (found ++ (scan form before' rest).1, marked ++ (scan form before' rest).2)

section Scan

variable {form : Option Char → Cell → List Cell → Option Hit}

lemma Leads.trans {before : Option Char} {cells middle rest : List Cell} {found found' : List Text}
    {marked marked' : List Cell} (h : Leads form before cells middle found marked)
    (h' : ∀ before, Leads form before middle rest found' marked') :
    Leads form before cells rest (found ++ found') (marked ++ marked') := by
  obtain ⟨b, hb⟩ := h
  obtain ⟨b', hb'⟩ := h' b
  exact ⟨b', by rw [hb, hb', List.append_assoc, List.append_assoc]⟩

lemma leads_pass {before : Option Char} {cell : Cell} {rest : List Cell}
    (h : form before cell rest = none) : Leads form before (cell :: rest) rest [] [cell] :=
  ⟨some cell.1, by rw [scan, h]; rfl⟩

lemma Leads.scan_eq {before : Option Char} {cells : List Cell} {found : List Text}
    {marked : List Cell} (h : Leads form before (cells ++ []) [] found marked) :
    scan form before cells = (found, marked) := by
  obtain ⟨b, hb⟩ := h
  simpa [scan] using hb

/-- Cells at which the form does not begin are passed over. -/
lemma leads_of_no_hit {cells rest : List Cell}
    (h : ∀ before cell more, cell :: more <:+ cells → form before cell (more ++ rest) = none)
    (before : Option Char) : Leads form before (cells ++ rest) rest [] cells := by
  induction cells generalizing before with
  | nil => exact ⟨before, rfl⟩
  | cons cell cells ih =>
    refine (leads_pass (h before cell cells List.suffix_rfl)).trans fun b => ?_
    exact ih (fun b c more hc => h b c more (hc.trans (List.suffix_cons _ _))) b

/-- A match covers its cells if it finds a text, and is passed over as a whole if not. -/
lemma leads_hit {before : Option Char} {cell : Cell} {cells rest : List Cell} {found : Option Text}
    (h : form before cell (cells ++ rest) = some ⟨cells.length, found⟩) :
    Leads form before (cell :: cells ++ rest) rest found.toList
      (if found.isSome then (cell :: cells).map fun c => (c.1, true) else cell :: cells) := by
  refine ⟨(cell :: cells).getLast?.map (·.1), ?_⟩
  rw [List.cons_append, scan, h]
  simp only [List.take_left, List.drop_left]
  cases found <;> rfl

end Scan

/-- The cells of a text, all covered or all free. -/
def mark (covered : Bool) (s : Text) : List Cell :=
  s.map fun c => (c, covered)

@[simp]
lemma map_fst_mark (covered : Bool) (s : Text) : (mark covered s).map (·.1) = s := by
  rw [mark, List.map_map]
  exact List.map_id s

lemma map_mark (covered : Bool) (s : Text) :
    ((mark covered s).map fun c => (c.1, true)) = mark true s := by
  rw [mark, List.map_map]
  rfl

lemma mark_cons (covered : Bool) (c : Char) (s : Text) :
    mark covered (c :: s) = (c, covered) :: mark covered s := rfl

lemma mark_append (covered : Bool) (s t : Text) :
    mark covered (s ++ t) = mark covered s ++ mark covered t :=
  List.map_append

/-- Nothing follows, or a blank does. -/
def Stops (rest : List Cell) : Prop :=
  ∀ cell ∈ rest.head?, Text.isBlank cell.1 = true

section Absent

variable {s : Text}

/-- A form that begins with a character is not found where the character is not. -/
lemma leads_of_not_mem {form : Option Char → Cell → List Cell → Option Hit} {c : Char}
    (hform : ∀ before cell more, cell.1 ≠ c → form before cell more = none) (hc : c ∉ s)
    (covered : Bool) (rest : List Cell) (before : Option Char) :
    Leads form before (mark covered s ++ rest) rest [] (mark covered s) := by
  refine leads_of_no_hit ?_ before
  intro b cell more hcells
  obtain ⟨d, hd, rfl⟩ := List.mem_map.mp (hcells.subset List.mem_cons_self)
  have hne : d ≠ c := by
    rintro rfl
    exact hc hd
  exact hform b (d, covered) (more ++ rest) hne

lemma leads_phrase_of_no_quote (hs : '"' ∉ s) (covered : Bool) (rest : List Cell)
    (before : Option Char) :
    Leads phraseForm before (mark covered s ++ rest) rest [] (mark covered s) :=
  leads_of_not_mem (fun _ _ _ hne => if_neg hne) hs covered rest before

lemma leads_exclusion_of_no_dash (hs : '-' ∉ s) (covered : Bool) (rest : List Cell)
    (before : Option Char) :
    Leads exclusionForm before (mark covered s ++ rest) rest [] (mark covered s) :=
  leads_of_not_mem (fun _ _ _ hne => if_neg hne) hs covered rest before

lemma lower_not_mem_authorMark {c : Char} (hc : Text.isBlank c = true) :
    Text.lower c ∉ authorMark := by
  have hcodes : ∀ n ∈ Index.blankCodes, Text.lower (Char.ofNat n) ∉ authorMark := by decide +kernel
  have hlower := hcodes _ (Index.toNat_mem_blankCodes hc)
  rwa [Char.ofNat_toNat] at hlower

/-- No author is found where the mark of one is nowhere. -/
lemma leads_author_of_no_mark {covered : Bool} {rest : List Cell}
    (hs : ¬authorMark <:+: s.map Text.lower) (hrest : Stops rest) (before : Option Char) :
    Leads authorForm before (mark covered s ++ rest) rest [] (mark covered s) := by
  refine leads_of_no_hit (fun b cell more hcells => if_neg fun htaken => ?_) before
  have hprefix : authorMark <+:
      (cell :: more).map (Text.lower ·.1) ++ rest.map (Text.lower ·.1) := by
    rw [← htaken, ← List.map_append]
    exact (List.take_prefix 7 (cell :: more ++ rest)).map _
  have hsuffix : (cell :: more).map (Text.lower ·.1) <:+ s.map Text.lower := by
    have hlower : (mark covered s).map (Text.lower ·.1) = s.map Text.lower := by simp [mark]
    exact hlower ▸ hcells.map _
  -- The mark has no blank in it, so it does not go on into the rest.
  rcases List.prefix_or_prefix_of_prefix hprefix (List.prefix_append _ _) with h | h
  · exact hs (h.isInfix.trans hsuffix.isInfix)
  · obtain ⟨m, hm⟩ := h
    rw [← hm, List.prefix_append_right_inj] at hprefix
    cases m with
    | nil => exact hs (by rw [← hm, List.append_nil]; exact hsuffix.isInfix)
    | cons x m =>
      cases rest with
      | nil => simp at hprefix
      | cons r rest =>
        obtain rfl := (List.cons_prefix_cons.mp hprefix).1
        exact lower_not_mem_authorMark (hrest r rfl) (hm ▸ by simp)

end Absent

lemma stretches_uncovered (s : Text) : stretches (mark false s) = [s] := by
  induction s with
  | nil => rfl
  | cons c s ih =>
    rw [mark_cons, stretches, ih]
    rfl

lemma leftover_uncovered (s : Text) : leftover (mark false s) = s.trim := by
  rw [leftover, stretches_uncovered]
  cases h : s.trim with
  | nil => simp [h]
  | cons c t => simp [h]

/-- None of the three forms begins in a text: it has no quote, no dash and, in any letter case, no
author mark. -/
structure Formless (s : Text) : Prop where
  noQuote : '"' ∉ s
  noDash : '-' ∉ s
  noAuthor : ¬authorMark <:+: s.map Text.lower

lemma Formless.mono {s t : Text} (ht : Formless t) (h : s <:+: t) : Formless s where
  noQuote := fun hs => ht.noQuote (h.subset hs)
  noDash := fun hs => ht.noDash (h.subset hs)
  noAuthor := fun hs => ht.noAuthor (hs.trans (h.map Text.lower))

/-- A text without any of the forms is all leftover. -/
theorem parse_of_formless {s : Text} (hs : Formless s) : parse s = ⟨none, [], [], s.trim.trim⟩ := by
  have ht : Formless s.trim := hs.mono (Text.isInfix_trim s)
  rw [parse]
  generalize s.trim = t at ht
  have hauthor : scan authorForm none (mark false t) = ([], mark false t) :=
    (leads_author_of_no_mark ht.noAuthor (by simp [Stops]) none).scan_eq
  have hphrase : scan phraseForm none (mark false t) = ([], mark false t) :=
    (leads_phrase_of_no_quote ht.noQuote false [] none).scan_eq
  have hexclusion : scan exclusionForm none (mark false t) = ([], mark false t) :=
    (leads_exclusion_of_no_dash ht.noDash false [] none).scan_eq
  rw [← mark]
  simp only [hauthor, hphrase, hexclusion, leftover_uncovered]
  rfl

end ForumSearch.FreeText
