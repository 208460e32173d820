import ForumSearch.Proofs.Query.FreeText

/-!
# Writing for the search box

A search can be written down: an author in quotes, phrases in quotes, words to exclude after a dash,
and then plain text, with spaces between them. Reading it gives back what was written. The three
scans of the reader look at the same text, so each is followed along the same parts.
-/

namespace ForumSearch.FreeText

/-- A part of a written search. -/
inductive Part where
  | author (name : Text)
  | phrase (text : Text)
  | exclusion (word : Text)
  | plain (text : Text)

def quoted (s : Text) : Text :=
  '"' :: (s ++ ['"'])

namespace Part

def written : Part → Text
  | .author name => authorMark ++ quoted name
  | .phrase text => quoted text
  | .exclusion word => '-' :: word
  | .plain text => text

/-- What the reader finds of a part. -/
def text : Part → Text
  | .author text | .phrase text | .exclusion text | .plain text => text

/-- Which of the three scans finds a part; plain text is left by all of them. -/
def turn : Part → Nat
  | .author _ => 0
  | .phrase _ => 1
  | .exclusion _ => 2
  | .plain _ => 3

/-- Whether a text can be written as such a part. -/
def Proper : Part → Prop
  | .author name => name ≠ [] ∧ '"' ∉ name
  | .phrase text => text ≠ [] ∧ text.trim = text ∧ '"' ∉ text ∧ ¬authorMark <:+: text.map Text.lower
  | .exclusion word => word ≠ [] ∧ (∀ c ∈ word, Text.isBlank c = false) ∧ '"' ∉ word ∧
      ¬authorMark <:+: word.map Text.lower
  | .plain text => text ≠ [] ∧ text.trim = text ∧ Formless text

end Part

/-- The parts of a search in the order in which they are written. -/
def parts (f : FreeText) : List Part :=
  (f.authorName.map Part.author).toList ++ f.phrases.map .phrase ++ f.excluded.map .exclusion ++
    if f.rest.isEmpty then [] else [.plain f.rest]

/-- A search as it is written, with a space between any two parts. -/
def print (f : FreeText) : Text :=
  Text.joinWith [' '] (f.parts.map Part.written)

/-- The cells of a part after some of the scans. -/
def Part.cells (scans : Nat) (p : Part) : List Cell :=
  mark (p.turn < scans) p.written

/-- The cells of parts with a space between any two. -/
def cells (scans : Nat) (parts : List Part) : List Cell :=
  [(' ', false)].intercalate (parts.map (Part.cells scans))

lemma cells_cons_cons (scans : Nat) (p p' : Part) (parts : List Part) :
    cells scans (p :: p' :: parts) =
      p.cells scans ++ (' ', false) :: cells scans (p' :: parts) := by
  simp [cells, List.intercalate]

/-- Before a blank or the end of the text, a scan finds a part if it is its turn, and leaves it as
it is if not. -/
def Reads (form : Option Char → Cell → List Cell → Option Hit) (turn : Nat) (p : Part) : Prop :=
  ∀ before rest, before ≠ some ':' → Stops rest →
    Leads form before (p.cells turn ++ rest) rest (if p.turn = turn then [p.text] else [])
      (p.cells (turn + 1))

lemma scan_cells {form : Option Char → Cell → List Cell → Option Hit} {turn : Nat}
    (hspace : ∀ before more, form before (' ', false) more = none) {parts : List Part}
    (hreads : ∀ p ∈ parts, Reads form turn p) {before : Option Char} (hbefore : before ≠ some ':') :
    scan form before (cells turn parts) =
      ((parts.filter (·.turn = turn)).map Part.text, cells (turn + 1) parts) := by
  induction parts generalizing before with
  | nil => simp [cells, scan]
  | cons p parts ih =>
    obtain ⟨hp, hparts⟩ := List.forall_mem_cons.mp hreads
    have hfound : (if p.turn = turn then [p.text] else []) ++
        (parts.filter (·.turn = turn)).map Part.text =
          ((p :: parts).filter (·.turn = turn)).map Part.text := by
      by_cases h : p.turn = turn <;> simp [h]
    cases parts with
    | nil =>
      have hscan := (hp before [] hbefore (by simp [Stops])).scan_eq
      rw [← hfound]
      simpa [cells] using hscan
    | cons p' parts =>
      obtain ⟨b, hb⟩ := hp before ((' ', false) :: cells turn (p' :: parts)) hbefore
        (by simp [Stops, Text.isBlank, Text.inRanges])
      -- No form begins at a space, and a space is no colon before what comes next.
      rw [cells_cons_cons, hb, scan, hspace]
      dsimp only
      rw [ih hparts (by decide), cells_cons_cons, ← hfound]

lemma takeWhile_append_stop {p : Cell → Bool} {cells rest : List Cell}
    (hrest : ∀ c ∈ rest.head?, p c = false) :
    (cells ++ rest).takeWhile p = cells.takeWhile p := by
  have hnil : rest.takeWhile p = [] := by
    cases rest with
    | nil => rfl
    | cons c rest => exact List.takeWhile_cons_of_neg (by simp [hrest c rfl])
  rw [List.takeWhile_append, hnil, List.append_nil]
  split_ifs with h
  · exact ((List.takeWhile_prefix p).eq_of_length h).symm
  · rfl

lemma closeQuote_quoted {s : Text} (hne : s ≠ []) (hquote : '"' ∉ s) (covered : Bool)
    (rest : List Cell) : closeQuote (mark covered s ++ ('"', covered) :: rest) = some s := by
  have hinner : (mark covered s ++ ('"', covered) :: rest).takeWhile (·.1 ≠ '"') =
      mark covered s := by
    rw [takeWhile_append_stop (by simp)]
    refine List.takeWhile_eq_self_iff.mpr fun c hc => ?_
    obtain ⟨a, ha, rfl⟩ := List.mem_map.mp hc
    exact decide_eq_true fun h => hquote (h ▸ ha)
  rw [closeQuote, hinner, map_fst_mark]
  simp [mark, hne]

lemma openWord_append {rest : List Cell} (hrest : Stops rest) (cells : List Cell) :
    openWord (cells ++ rest) = openWord cells := by
  rw [openWord, takeWhile_append_stop fun c hc => by simp [hrest c hc]]
  rfl

lemma openWord_mark {s : Text} (hs : ∀ c ∈ s, Text.isBlank c = false) (covered : Bool) :
    openWord (mark covered s) = s := by
  have hall : (mark covered s).takeWhile (fun c => !Text.isBlank c.1) = mark covered s := by
    refine List.takeWhile_eq_self_iff.mpr fun c hc => ?_
    obtain ⟨a, ha, rfl⟩ := List.mem_map.mp hc
    simp [hs a ha]
  rw [openWord, hall, map_fst_mark]

lemma no_mark_cons {c : Char} {s : Text} (hc : Text.lower c ≠ 'a')
    (hs : ¬authorMark <:+: s.map Text.lower) : ¬authorMark <:+: (List.cons c s).map Text.lower := by
  intro h
  rw [List.map_cons, List.infix_cons_iff] at h
  rcases h with h | h
  · exact hc (List.cons_prefix_cons.mp h).1.symm
  · exact hs h

lemma no_mark_quoted {s : Text} (hs : ¬authorMark <:+: s.map Text.lower) :
    ¬authorMark <:+: (quoted s).map Text.lower := by
  refine no_mark_cons (by decide) ?_
  intro h
  rw [List.map_append, List.map_singleton, List.infix_concat_iff] at h
  rcases h with h | h
  · obtain ⟨t, ht⟩ := h
    have hlast := congrArg List.getLast? ht
    rw [List.getLast?_append_of_ne_nil _ (by decide), List.getLast?_concat] at hlast
    exact absurd hlast (by decide)
  · exact hs h

lemma readAuthor_quoted {name : Text} (hne : name ≠ []) (hquote : '"' ∉ name) (rest : List Cell) :
    readAuthor (mark false (quoted name) ++ rest) = some (name, name.length + 2) := by
  have hcells : mark false (quoted name) ++ rest =
      ('"', false) :: (mark false name ++ ('"', false) :: rest) := by
    simp [mark, quoted]
  have hblank : Text.isBlank '"' = false := by decide
  rw [hcells, readAuthor]
  simp [hblank, closeQuote_quoted hne hquote]

lemma reads_author {p : Part} (hp : p.Proper) : Reads authorForm 0 p := by
  intro before rest _ hrest
  cases p with
  | author name =>
    obtain ⟨hne, hquote⟩ := hp
    have hwritten (covered : Bool) : mark covered (Part.author name).written =
        ('a', covered) :: (mark covered authorMark.tail ++ mark covered (quoted name)) := by
      simp [mark, Part.written, authorMark]
    have hmark :
        (('a', false) :: mark false authorMark.tail).map (Text.lower ·.1) = authorMark := by
      decide
    have hsize : authorMark.length - 1 = (mark false authorMark.tail).length := rfl
    have hhit : authorForm before ('a', false)
        (mark false authorMark.tail ++ mark false (quoted name) ++ rest) =
          some ⟨(mark false authorMark.tail ++ mark false (quoted name)).length, some name⟩ := by
      rw [authorForm, List.append_assoc, hsize, List.take_left, List.drop_left, if_pos hmark,
        readAuthor_quoted hne hquote]
      simp [mark, quoted]
    have hleads := leads_hit hhit
    rw [← hwritten, map_mark] at hleads
    exact hleads
  | phrase text => exact leads_author_of_no_mark (no_mark_quoted hp.2.2.2) hrest before
  | exclusion word =>
    exact leads_author_of_no_mark (no_mark_cons (by decide) hp.2.2.2) hrest before
  | plain text => exact leads_author_of_no_mark hp.2.2.noAuthor hrest before

lemma phraseForm_quoted {s : Text} (hne : s ≠ []) (hquote : '"' ∉ s) (covered : Bool)
    (rest : List Cell) (before : Option Char) :
    phraseForm before ('"', covered) (mark covered s ++ [('"', covered)] ++ rest) =
      some ⟨(mark covered s ++ [('"', covered)]).length,
        if covered || s.trim.isEmpty then none else some s.trim⟩ := by
  rw [phraseForm, if_pos rfl, List.append_assoc, List.singleton_append,
    closeQuote_quoted hne hquote]
  simp [mark]

lemma reads_phrase {p : Part} (hp : p.Proper) : Reads phraseForm 1 p := by
  intro before rest _ _
  have hquoted (covered : Bool) (s : Text) : mark covered (quoted s) =
      ('"', covered) :: (mark covered s ++ [('"', covered)]) := by
    simp [mark, quoted]
  cases p with
  | author name =>
    -- The scan comes to the quotes of the name, which are covered.
    obtain ⟨hne, hquote⟩ := hp
    have hname (b : Option Char) :
        Leads phraseForm b (mark true (quoted name) ++ rest) rest [] (mark true (quoted name)) := by
      rw [hquoted]
      exact leads_hit (phraseForm_quoted hne hquote true rest b)
    have hmark (rest : List Cell) :
        Leads phraseForm before (mark true authorMark ++ rest) rest [] (mark true authorMark) :=
      leads_phrase_of_no_quote (by decide) true rest before
    have hleads := (hmark _).trans hname
    rw [← List.append_assoc, ← mark_append] at hleads
    exact hleads
  | phrase text =>
    obtain ⟨hne, htrim, hquote, -⟩ := hp
    have hhit := phraseForm_quoted hne hquote false rest before
    simp only [htrim, Bool.false_or, List.isEmpty_eq_false_iff.mpr hne, Bool.false_eq_true,
      if_false] at hhit
    have hleads := leads_hit hhit
    rw [← hquoted, map_mark] at hleads
    exact hleads
  | exclusion word =>
    obtain ⟨-, -, hquote, -⟩ := hp
    exact leads_phrase_of_no_quote (by simpa [Part.written] using hquote) false rest before
  | plain text => exact leads_phrase_of_no_quote hp.2.2.noQuote false rest before

/-- A dash in what is covered finds nothing, and no word that begins there goes on behind it. -/
lemma leads_exclusion_of_covered {cells rest : List Cell} (hcells : ∀ c ∈ cells, c.2 = true)
    (hrest : Stops rest) (before : Option Char) :
    Leads exclusionForm before (cells ++ rest) rest [] cells := by
  -- The scan goes on behind a word that it skips, so the induction is on the number of cells.
  induction h : cells.length using Nat.strongRecOn generalizing cells before with
  | ind n ih =>
    cases cells with
    | nil => exact ⟨before, rfl⟩
    | cons cell cells =>
      obtain ⟨hcell, hcells⟩ := List.forall_mem_cons.mp hcells
      have hpass (hnone : exclusionForm before cell (cells ++ rest) = none) :
          Leads exclusionForm before (cell :: cells ++ rest) rest [] (cell :: cells) :=
        (leads_pass hnone).trans fun b => ih cells.length (by simp [← h]) hcells b rfl
      by_cases hdash : cell.1 = '-'
      · set word := openWord cells with hword
        by_cases hempty : word.isEmpty = true
        · refine hpass ?_
          rw [exclusionForm, if_pos hdash, openWord_append hrest, ← hword]
          simp [hempty]
        · have hlength : word.length ≤ cells.length := by
            rw [hword, openWord, List.length_map]
            exact (List.takeWhile_prefix _).length_le
          have hhit : exclusionForm before cell
              (cells.take word.length ++ (cells.drop word.length ++ rest)) =
                some ⟨(cells.take word.length).length, none⟩ := by
            rw [← List.append_assoc, List.take_append_drop, exclusionForm, if_pos hdash,
              openWord_append hrest, ← hword]
            simp [hempty, hcell, hlength]
          have hfound := leads_hit hhit
          simp only [Option.isSome_none, Bool.false_eq_true, if_false, Option.toList_none] at hfound
          have hskipped := hfound.trans fun b => ih (cells.drop word.length).length (by simp [← h])
            (fun c hc => hcells c (List.mem_of_mem_drop hc)) b rfl
          rw [← List.append_assoc, List.cons_append, List.take_append_drop] at hskipped
          exact hskipped
      · exact hpass (if_neg hdash)

lemma reads_exclusion {p : Part} (hp : p.Proper) : Reads exclusionForm 2 p := by
  intro before rest hbefore hrest
  have hcovered (s : Text) : ∀ c ∈ mark true s, c.2 = true := by simp [mark]
  cases p with
  | author name => exact leads_exclusion_of_covered (hcovered _) hrest before
  | phrase text => exact leads_exclusion_of_covered (hcovered _) hrest before
  | exclusion word =>
    obtain ⟨hne, hblank, -, -⟩ := hp
    have hhit : exclusionForm before ('-', false) (mark false word ++ rest) =
        some ⟨(mark false word).length, some word⟩ := by
      rw [exclusionForm, if_pos rfl, openWord_append hrest, openWord_mark hblank]
      simp [hne, hbefore, mark]
    have hleads := leads_hit hhit
    rw [← mark_cons, map_mark] at hleads
    exact hleads
  | plain text => exact leads_exclusion_of_no_dash hp.2.2.noDash false rest before

/-- What is covered or blank leaves nothing over. -/
lemma leftover_append {marked : List Cell}
    (h : ∀ cell ∈ marked, cell.2 = true ∨ Text.isBlank cell.1 = true) (rest : List Cell) :
    leftover (marked ++ rest) = leftover rest := by
  induction marked with
  | nil => rfl
  | cons cell marked ih =>
    obtain ⟨hcell, hmarked⟩ := List.forall_mem_cons.mp h
    rw [← ih hmarked]
    obtain ⟨c, covered⟩ := cell
    cases covered with
    | true => simp [leftover, stretches, Text.trim, Text.trimStart, Text.trimEnd]
    | false =>
      have hblank : Text.isBlank c = true := by simpa using hcell
      have htrim (s : Text) : Text.trim (c :: s) = s.trim := by
        simp [Text.trim, Text.trimStart, hblank]
      rw [List.cons_append, leftover, stretches]
      cases hs : stretches (marked ++ rest) with
      | nil => simp [leftover, hs, htrim, show Text.trim [] = [] from rfl]
      | cons s more => simp [leftover, hs, htrim]

lemma leftover_cells {forms last : List Part} (hforms : ∀ p ∈ forms, p.turn < 3) :
    leftover (cells 3 (forms ++ last)) = leftover (cells 3 last) := by
  induction forms with
  | nil => rfl
  | cons p forms ih =>
    obtain ⟨hp, hforms⟩ := List.forall_mem_cons.mp hforms
    have hcovered : ∀ cell ∈ p.cells 3, cell.2 = true ∨ Text.isBlank cell.1 = true := by
      simp [Part.cells, mark, hp]
    rw [← ih hforms, List.cons_append]
    cases hrest : forms ++ last with
    | nil =>
      have hnone := leftover_append hcovered []
      rw [List.append_nil] at hnone
      simpa [cells] using hnone
    | cons p' parts =>
      have hspace : ∀ cell ∈ [((' ', false) : Cell)],
          cell.2 = true ∨ Text.isBlank cell.1 = true := by decide
      rw [cells_cons_cons, leftover_append hcovered]
      exact leftover_append hspace _

lemma tight_quoted (s : Text) : Text.Tight (quoted s) := by
  have hquote : Text.Tight ['"'] :=
    .of_forall (List.cons_ne_nil _ _) (List.forall_mem_singleton.mpr (by decide))
  exact hquote.append hquote s

lemma Part.Proper.tight {p : Part} (hp : p.Proper) : Text.Tight p.written := by
  cases p with
  | author name =>
    have hmark : Text.Tight authorMark :=
      .of_forall (List.cons_ne_nil _ _) (by simp [authorMark, Text.isBlank, Text.inRanges])
    exact hmark.append (tight_quoted name) []
  | phrase text => exact tight_quoted text
  | exclusion word =>
    obtain ⟨-, hblank, -, -⟩ := hp
    exact .of_forall (List.cons_ne_nil _ _) (List.forall_mem_cons.mpr ⟨by decide, hblank⟩)
  | plain text => exact .of_trim hp.1 hp.2.1

/-- A written search is read without the blanks behind it. -/
lemma trim_print {f : FreeText} (hf : ∀ p ∈ f.parts, p.Proper) {blanks : Text}
    (hblanks : ∀ c ∈ blanks, Text.isBlank c = true) : (f.print ++ blanks).trim = f.print := by
  rw [print]
  cases hparts : f.parts with
  | nil =>
    have hnone : Text.trimStart ([] ++ blanks) = [] := List.dropWhile_eq_nil_iff.mpr hblanks
    exact congrArg Text.trimEnd hnone
  | cons p parts =>
    rw [hparts] at hf
    have htight := Text.tight_joinWith (List.forall_mem_map.mpr fun p hp => (hf p hp).tight)
    exact htight.trim_append hblanks

lemma mark_print (f : FreeText) : mark false f.print = cells 0 f.parts := by
  rw [print]
  generalize f.parts = parts
  induction parts with
  | nil => rfl
  | cons p parts ih =>
    cases parts with
    | nil => simp [cells, Part.cells]
    | cons p' parts =>
      rw [cells_cons_cons, ← ih, List.map_cons, List.map_cons, Text.joinWith_cons_cons, mark_append]
      rfl

lemma leftover_parts {f : FreeText} (hf : ∀ p ∈ f.parts, p.Proper) :
    leftover (cells 3 f.parts) = f.rest := by
  have hforms : ∀ p ∈ (f.authorName.map Part.author).toList ++ f.phrases.map .phrase ++
      f.excluded.map .exclusion, p.turn < 3 := by
    simp [Part.turn, or_imp, forall_and]
  rw [parts, leftover_cells hforms]
  by_cases hrest : f.rest = []
  · simp [hrest, cells, leftover, stretches, show Text.trim [] = [] from rfl]
  · have hplain : Part.Proper (.plain f.rest) := hf _ (by simp [parts, hrest])
    have hcells : cells 3 [.plain f.rest] = mark false f.rest := by
      simp [cells, Part.cells, Part.turn, Part.written]
    rw [if_neg (by simpa using hrest), hcells, leftover_uncovered]
    exact hplain.2.1

lemma text_parts (f : FreeText) :
    ((f.parts.filter (·.turn = 0)).map Part.text).getLast? = f.authorName ∧
      (f.parts.filter (·.turn = 1)).map Part.text = f.phrases ∧
      (f.parts.filter (·.turn = 2)).map Part.text = f.excluded := by
  obtain ⟨author, phrases, excluded, rest⟩ := f
  cases author <;> cases rest <;>
    simp [parts, List.filter_map, Function.comp_def, Part.turn, Part.text]

/-- Reading a written search gives it back, also with blanks behind it. -/
theorem parse_print {f : FreeText} (hf : ∀ p ∈ f.parts, p.Proper) {blanks : Text}
    (hblanks : ∀ c ∈ blanks, Text.isBlank c = true) : parse (f.print ++ blanks) = f := by
  have hauthor : scan authorForm none (cells 0 f.parts) = _ :=
    scan_cells (fun _ _ => rfl) (fun p hp => reads_author (hf p hp)) (by decide)
  have hphrase : scan phraseForm none (cells 1 f.parts) = _ :=
    scan_cells (fun _ _ => rfl) (fun p hp => reads_phrase (hf p hp)) (by decide)
  have hexclusion : scan exclusionForm none (cells 2 f.parts) = _ :=
    scan_cells (fun _ _ => rfl) (fun p hp => reads_exclusion (hf p hp)) (by decide)
  have hfree : mark false (f.print ++ blanks).trim = cells 0 f.parts := by
    rw [trim_print hf hblanks, mark_print]
  obtain ⟨hname, hphrases, hexcluded⟩ := text_parts f
  rw [parse, ← mark, hfree]
  simp only [hauthor, hphrase, hexclusion, hname, hphrases, hexcluded, leftover_parts hf]

/-- The name has an author mark and a dash in it, the phrase a dash and a colon, the words a dash
at the beginning and a colon at the end, and a blank follows the text. -/
theorem parse_print_marks :
    let f : FreeText := ⟨some "author:-x".toList, ["a -b: c".toList], ["-d".toList, "e:".toList],
      "Über, f/g".toList⟩
    (∀ p ∈ f.parts, p.Proper) ∧ (∀ c ∈ [' '], Text.isBlank c = true) ∧
      f.print = "author:\"author:-x\" \"a -b: c\" --d -e: Über, f/g".toList ∧
      parse (f.print ++ [' ']) = f := by
  intro f
  have hauthor : Part.Proper (.author "author:-x".toList) := ⟨by decide, by decide⟩
  have hphrase : Part.Proper (.phrase "a -b: c".toList) :=
    ⟨by decide, by decide, by decide, by decide⟩
  have hdash : Part.Proper (.exclusion "-d".toList) :=
    ⟨by decide, by simp [Text.isBlank, Text.inRanges], by decide, by decide⟩
  have hcolon : Part.Proper (.exclusion "e:".toList) :=
    ⟨by decide, by simp [Text.isBlank, Text.inRanges], by decide, by decide⟩
  have hplain : Part.Proper (.plain "Über, f/g".toList) :=
    ⟨by decide, by decide, by decide, by decide, by decide⟩
  have hproper : ∀ p ∈ f.parts, p.Proper := by
    refine List.forall_mem_cons.mpr ⟨hauthor, ?_⟩
    refine List.forall_mem_cons.mpr ⟨hphrase, ?_⟩
    refine List.forall_mem_cons.mpr ⟨hdash, ?_⟩
    refine List.forall_mem_cons.mpr ⟨hcolon, ?_⟩
    exact List.forall_mem_singleton.mpr hplain
  have hblank : ∀ c ∈ [' '], Text.isBlank c = true := List.forall_mem_singleton.mpr (by decide)
  exact ⟨hproper, hblank, by decide, parse_print hproper hblank⟩

end ForumSearch.FreeText
