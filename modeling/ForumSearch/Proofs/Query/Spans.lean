import ForumSearch.Proofs.Query.FreeText
import ForumSearch.Proofs.Text.Trim

/-!
# The spans of the search box

What is typed into the search box is read in spans of authors, phrases and exclusions, and the
stretches between the spans are the rest. So nothing that is typed is lost, and nothing is read
twice at its start.
-/

namespace ForumSearch.FreeText

/-- A span of a text, from a position up to another one. -/
structure Span where
  start : ℕ
  stop : ℕ

namespace Span

def Covers (s : Span) (i : ℕ) : Prop :=
  s.start ≤ i ∧ i < s.stop

instance (s : Span) (i : ℕ) : Decidable (s.Covers i) :=
  inferInstanceAs (Decidable (_ ∧ _))

def text (s : Span) (c : Text) : Text :=
  (c.drop s.start).take (s.stop - s.start)

end Span

/-- No span covers a position. -/
def Free (spans : List Span) (i : ℕ) : Prop :=
  ∀ s ∈ spans, ¬s.Covers i

instance (spans : List Span) (i : ℕ) : Decidable (Free spans i) :=
  inferInstanceAs (Decidable (∀ s ∈ spans, _))

section Specification

/-- A text that can stand between quotes. -/
def Quotable (inner : Text) : Prop :=
  inner ≠ [] ∧ '"' ∉ inner

/-- A word, up to a blank or the end. -/
def Word (word following : Text) : Prop :=
  word ≠ [] ∧ (∀ x ∈ word, Text.isBlank x = false) ∧
    ∀ x ∈ following.head?, Text.isBlank x = true

/-- The mark of an author in any letter case, and blanks after it. -/
def Opens (opening : Text) : Prop :=
  ∃ mark blanks, opening = mark ++ blanks ∧ mark.map Text.lower = authorMark ∧
    ∀ x ∈ blanks, Text.isBlank x = true

/-- A text names an author: in quotes, or in a word if no quotes open and close there. -/
inductive NamesAuthor : Text → Text → Text → Prop where
  | quoted {opening name following : Text} (hopen : Opens opening) (hname : Quotable name) :
      NamesAuthor (opening ++ '"' :: name ++ ['"']) following name
  | bare {opening name following : Text} (hopen : Opens opening) (hname : Word name following)
      (hquote : ¬∃ inner more, Quotable inner ∧ name ++ following = '"' :: inner ++ '"' :: more) :
      NamesAuthor (opening ++ name) following name

/-- A text is a phrase in quotes, which is more than blanks. -/
def IsPhrase (taken phrase : Text) : Prop :=
  ∃ inner : Text, taken = '"' :: inner ++ ['"'] ∧ '"' ∉ inner ∧ phrase = inner.trim ∧ phrase ≠ []

/-- A text is a dash and a word to exclude. -/
def IsExclusion (taken following word : Text) : Prop :=
  taken = '-' :: word ∧ Word word following

/-- Spans of a text, one after the other. -/
structure Lined (c : Text) (spans : List Span) : Prop where
  bounds : ∀ s ∈ spans, s.start < s.stop ∧ s.stop ≤ c.length
  apart : spans.Pairwise fun s t => s.stop ≤ t.start

/-- The maximal stretches of a text that are outside of spans. -/
structure Gaps (c : Text) (spans gaps : List Span) : Prop where
  bounds : ∀ g ∈ gaps, g.start < g.stop ∧ g.stop ≤ c.length
  apart : gaps.Pairwise fun g h => g.stop < h.start
  covers : ∀ i, (∃ g ∈ gaps, g.Covers i) ↔ i < c.length ∧ Free spans i

/-- A text is read in spans of authors, phrases and exclusions, and in the stretches outside of
them. -/
structure Reading (c : Text) (f : FreeText) (authors phrases exclusions gaps : List Span) :
    Prop where
  linedAuthors : Lined c authors
  linedPhrases : Lined c phrases
  linedExclusions : Lined c exclusions
  /-- The last of several authors counts. -/
  author : ∃ names, f.authorName = names.getLast? ∧
    List.Forall₂ (fun s name => NamesAuthor (s.text c) (c.drop s.stop) name) authors names
  phrase : List.Forall₂ (fun s phrase => Free authors s.start ∧ IsPhrase (s.text c) phrase)
    phrases f.phrases
  excluded : List.Forall₂ (fun s word => Free (authors ++ phrases) s.start ∧
      (c.take s.start).getLast? ≠ some ':' ∧ IsExclusion (s.text c) (c.drop s.stop) word)
    exclusions f.excluded
  between : Gaps c (authors ++ phrases ++ exclusions) gaps
  rest : f.rest = Text.joinWith [' '] (((gaps.map (·.text c)).map Text.trim).filter (· ≠ []))
  /-- What is outside of the spans is kept, but for blanks. -/
  kept : f.rest.filter (!Text.isBlank ·) =
    (c.zipIdx.filter fun x => !Text.isBlank x.1 ∧ Free (authors ++ phrases ++ exclusions) x.2).map
      (·.1)

end Specification

section Cover

/-- The cells from a position on, with those covered that spans cover. -/
def cover (spans : List Span) (k : ℕ) (cells : List Cell) : List Cell :=
  (cells.zipIdx k).map fun x => (x.1.1, x.1.2 || !decide (Free spans x.2))

variable {spans spans' : List Span} {k : ℕ} {cells cells' : List Cell}

lemma cover_append : cover spans k (cells ++ cells') =
    cover spans k cells ++ cover spans (k + cells.length) cells' := by
  rw [cover, List.zipIdx_append, List.map_append]
  rfl

lemma cover_of_free (h : ∀ i, k ≤ i → i < k + cells.length → Free spans i) :
    cover spans k cells = cells := by
  induction cells generalizing k with
  | nil => rfl
  | cons cell cells ih =>
    have hfirst : Free spans k := h k le_rfl (by simp)
    rw [cover, List.zipIdx_cons, List.map_cons, ← cover,
      ih fun i hi hlt => h i (by omega) (by simp only [List.length_cons]; omega)]
    simp [hfirst]

lemma cover_of_covered (h : ∀ i, k ≤ i → i < k + cells.length → ¬Free spans i) :
    cover spans k cells = cells.map fun cell => (cell.1, true) := by
  induction cells generalizing k with
  | nil => rfl
  | cons cell cells ih =>
    have hfirst : ¬Free spans k := h k le_rfl (by simp)
    rw [cover, List.zipIdx_cons, List.map_cons, ← cover,
      ih fun i hi hlt => h i (by omega) (by simp only [List.length_cons]; omega)]
    simp [hfirst]

lemma cover_congr (h : ∀ i, k ≤ i → (Free spans i ↔ Free spans' i)) :
    cover spans k cells = cover spans' k cells := by
  refine List.map_congr_left fun x hx => ?_
  rw [decide_eq_decide.mpr (h x.2 (List.le_snd_of_mem_zipIdx hx))]

lemma getElem?_cover (i : ℕ) : (cover spans k cells)[i]? =
    cells[i]?.map fun cell => (cell.1, cell.2 || !decide (Free spans (k + i))) := by
  rw [cover, List.getElem?_map, List.getElem?_zipIdx, Option.map_map]
  rfl

lemma cover_cover :
    cover spans' k (cover spans k cells) = cover (spans ++ spans') k cells := by
  refine List.ext_getElem? fun i => ?_
  have hfree : Free (spans ++ spans') (k + i) ↔ Free spans (k + i) ∧ Free spans' (k + i) :=
    List.forall_mem_append
  simp only [getElem?_cover, Option.map_map]
  congr 1
  funext cell
  simp [hfree, Bool.or_assoc, Bool.decide_and]

lemma map_fst_cover : (cover spans k cells).map (·.1) = cells.map (·.1) := by
  refine List.ext_getElem? fun i => ?_
  rw [List.getElem?_map, getElem?_cover, List.getElem?_map, Option.map_map]
  rfl

end Cover

section Scan

/-- What a form takes where it begins, and what it says of a text that it finds: of the character
before, the mark of the first cell, what it takes, and what follows. -/
def Takes (form : Option Char → Cell → List Cell → Option Hit)
    (P : Option Char → Bool → Text → Text → Text → Prop) : Prop :=
  ∀ before cell cells hit, form before cell cells = some hit →
    ∃ taken following, (cell :: cells).map (·.1) = taken ++ following ∧
      taken.length = hit.size + 1 ∧
        ∀ text, hit.found = some text → P before cell.2 taken following text

/-- A form finds a text at a span of cells. -/
def Finds (P : Option Char → Bool → Text → Text → Text → Prop) (cells : List Cell) (s : Span)
    (text : Text) : Prop :=
  ∃ covered, (cells[s.start]?).map (·.2) = some covered ∧
    P ((cells.map (·.1)).take s.start).getLast? covered (s.text (cells.map (·.1)))
      ((cells.map (·.1)).drop s.stop) text

variable {form : Option Char → Cell → List Cell → Option Hit}
  {P : Option Char → Bool → Text → Text → Text → Prop}

/-- The spans in which a scan finds its texts, and which it covers. -/
structure Scanned (P : Option Char → Bool → Text → Text → Text → Prop) (front cells : List Cell)
    (r : List Text × List Cell) (spans : List Span) : Prop where
  finds : List.Forall₂ (Finds P (front ++ cells)) spans r.1
  bounds : ∀ s ∈ spans, front.length ≤ s.start ∧ s.start < s.stop ∧
    s.stop ≤ (front ++ cells).length
  apart : spans.Pairwise fun s t => s.stop ≤ t.start
  covers : r.2 = cover spans front.length cells

lemma Scanned.free {front cells : List Cell} {r : List Text × List Cell} {spans : List Span}
    (h : Scanned P front cells r spans) {i : ℕ} (hi : i < front.length) : Free spans i := by
  intro s hs hcovers
  have hstart := (h.bounds s hs).1
  have hle := hcovers.1
  omega

/-- Cells that a scan passes over are left as they are. -/
lemma Scanned.pass {front passed cells : List Cell} {r : List Text × List Cell}
    {spans : List Span} (h : Scanned P (front ++ passed) cells r spans) :
    Scanned P front (passed ++ cells) (r.1, passed ++ r.2) spans where
  finds := by
    rw [← List.append_assoc]
    exact h.finds
  bounds s hs := by
    have hs := h.bounds s hs
    rw [List.length_append, List.append_assoc] at hs
    exact ⟨by omega, hs.2⟩
  apart := h.apart
  covers := by
    rw [cover_append, cover_of_free fun i _ hi => h.free (by rwa [List.length_append]),
      ← List.length_append, h.covers]

/-- Cells in which a scan finds a text are covered. -/
lemma Scanned.hit {front covered cells : List Cell} {r : List Text × List Cell} {text : Text}
    {spans : List Span} (h : Scanned P (front ++ covered) cells r spans) (hne : covered ≠ [])
    (hfinds : Finds P (front ++ (covered ++ cells))
      ⟨front.length, front.length + covered.length⟩ text) :
    Scanned P front (covered ++ cells)
      (text :: r.1, (covered.map fun c => (c.1, true)) ++ r.2)
      (⟨front.length, front.length + covered.length⟩ :: spans) where
  finds := by
    refine .cons hfinds ?_
    rw [← List.append_assoc]
    exact h.finds
  bounds := by
    have hlength := List.length_pos_iff.mpr hne
    refine List.forall_mem_cons.mpr ⟨⟨le_rfl, by simpa using hlength, by simp⟩, fun s hs => ?_⟩
    have hs := h.bounds s hs
    rw [List.length_append, List.append_assoc] at hs
    exact ⟨by omega, hs.2⟩
  apart := by
    refine List.pairwise_cons.mpr ⟨fun s hs => ?_, h.apart⟩
    rw [← List.length_append]
    exact (h.bounds s hs).1
  covers := by
    rw [cover_append]
    refine congrArg₂ (· ++ ·) ?_ ?_
    · refine (cover_of_covered fun i hi hlt hfree => ?_).symm
      exact hfree _ List.mem_cons_self ⟨hi, hlt⟩
    · rw [h.covers, List.length_append]
      refine cover_congr fun i hi => ?_
      refine ⟨fun hfree => List.forall_mem_cons.mpr ⟨fun hcovers => ?_, hfree⟩,
        fun hfree => (List.forall_mem_cons.mp hfree).2⟩
      have hlt := hcovers.2
      simp only at hlt
      omega

/-- A form that finds a text at the front of cells finds it at a span of them. -/
lemma finds_of_takes (htakes : Takes form P) {front cells : List Cell} {cell : Cell} {size : ℕ}
    {text : Text} (h : form (front.getLast?.map (·.1)) cell cells = some ⟨size, some text⟩) :
    Finds P (front ++ cell :: cells) ⟨front.length, front.length + (size + 1)⟩ text := by
  obtain ⟨taken, following, htext, hlength, hfound⟩ := htakes _ _ _ _ h
  refine ⟨cell.2, by simp, ?_⟩
  have hfound := hfound text rfl
  have hcells : (front ++ cell :: cells).map (·.1) =
      front.map (·.1) ++ (taken ++ following) := by
    rw [List.map_append, htext]
  have hfront : front.length = (front.map (·.1)).length := by simp
  have hsize : size + 1 = taken.length := hlength.symm
  rw [Span.text, hcells]
  simp only [Nat.add_sub_cancel_left]
  rw [hfront, hsize, List.take_left, List.drop_left, List.take_left, List.getLast?_map,
    ← List.drop_drop, List.drop_left, List.drop_left]
  exact hfound

/-- A scan finds its texts in spans, and covers these. -/
lemma exists_scanned (htakes : Takes form P) (front cells : List Cell) :
    ∃ spans, Scanned P front cells (scan form (front.getLast?.map (·.1)) cells) spans := by
  induction hn : cells.length using Nat.strong_induction_on generalizing front cells with
  | _ n ih =>
    cases cells with
    | nil =>
      rw [scan]
      exact ⟨[], .nil, by simp, .nil, rfl⟩
    | cons cell cells =>
      subst hn
      rw [scan]
      cases hform : form (front.getLast?.map (·.1)) cell cells with
      | none =>
        obtain ⟨spans, h⟩ := ih cells.length (by simp) (front ++ [cell]) cells rfl
        rw [List.getLast?_append_of_ne_nil _ (by simp)] at h
        exact ⟨spans, h.pass⟩
      | some hit =>
        obtain ⟨size, found⟩ := hit
        have hsize : size ≤ cells.length := by
          obtain ⟨taken, following, htext, hlength, -⟩ := htakes _ _ _ _ hform
          have hcells := congrArg List.length htext
          simp only [List.length_map, List.length_cons, List.length_append] at hcells
          simp only at hlength
          omega
        set covered := cell :: cells.take size with hcovered
        have hlength : covered.length = size + 1 := by
          rw [hcovered, List.length_cons, List.length_take_of_le hsize]
        have hsplit : covered ++ cells.drop size = cell :: cells := by
          rw [hcovered, List.cons_append, List.take_append_drop]
        obtain ⟨spans, h⟩ := ih (cells.drop size).length
          (by simp only [List.length_drop, List.length_cons]; omega)
          (front ++ covered) (cells.drop size) rfl
        rw [List.getLast?_append_of_ne_nil _ (by simp [hcovered])] at h
        cases found with
        | none =>
          refine ⟨spans, ?_⟩
          rw [← hsplit]
          exact h.pass
        | some text =>
          have hfinds := finds_of_takes htakes hform
          rw [← hsplit, ← hlength] at hfinds
          refine ⟨⟨front.length, front.length + covered.length⟩ :: spans, ?_⟩
          rw [← hsplit]
          exact h.hit (by simp [hcovered]) hfinds

end Scan

section Forms

variable {cells : List Cell}

lemma drop_length_takeWhile (p : Cell → Bool) (cells : List Cell) :
    cells.drop (cells.takeWhile p).length = cells.dropWhile p := by
  have h : (cells.takeWhile p ++ cells.dropWhile p).drop (cells.takeWhile p).length =
      cells.dropWhile p := List.drop_left
  rwa [List.takeWhile_append_dropWhile] at h

lemma closeQuote_eq_some_iff {inner : Text} : closeQuote cells = some inner ↔
    Quotable inner ∧ ∃ more, cells.map (·.1) = inner ++ '"' :: more := by
  constructor
  · intro h
    rw [closeQuote, drop_length_takeWhile] at h
    split_ifs at h with hnone
    obtain rfl := Option.some.inj h
    simp only [Bool.or_eq_true, List.isEmpty_iff, not_or] at hnone
    refine ⟨⟨by simpa using hnone.1, fun hquote => ?_⟩, ?_⟩
    · obtain ⟨cell, hcell, hfst⟩ := List.mem_map.mp hquote
      have hkept := List.mem_takeWhile_imp hcell
      simp [hfst] at hkept
    · obtain ⟨cell, more, hrest⟩ := List.exists_cons_of_ne_nil hnone.2
      have hquote := List.head?_dropWhile_not (fun cell : Cell => decide (cell.1 ≠ '"')) cells
      rw [hrest] at hquote
      have hcell : cell.1 = '"' := by simpa using hquote
      refine ⟨more.map (·.1), ?_⟩
      conv_lhs => rw [← List.takeWhile_append_dropWhile
        (p := fun cell : Cell => decide (cell.1 ≠ '"')) (l := cells), hrest]
      rw [List.map_append, List.map_cons, hcell]
  · rintro ⟨⟨hne, hquote⟩, more, h⟩
    obtain ⟨front, rest, rfl, rfl, hrest⟩ := List.map_eq_append_iff.mp h
    obtain ⟨cell, rest, rfl, hcell, -⟩ := List.map_eq_cons_iff.mp hrest
    have hfront :
        (front ++ cell :: rest).takeWhile (fun cell => decide (cell.1 ≠ '"')) = front := by
      rw [List.takeWhile_append_of_pos, List.takeWhile_cons_of_neg (by simp [hcell]),
        List.append_nil]
      intro x hx
      have hne : x.1 ≠ '"' := fun hx' => hquote (List.mem_map.mpr ⟨x, hx, hx'⟩)
      simpa using hne
    have hne : front ≠ [] := by simpa using hne
    rw [closeQuote, hfront]
    simp [hne]

lemma exists_following_openWord (cells : List Cell) :
    ∃ following, cells.map (·.1) = openWord cells ++ following ∧
      (openWord cells ≠ [] → Word (openWord cells) following) := by
  refine ⟨(cells.dropWhile fun c => !Text.isBlank c.1).map (·.1), ?_, fun hne => ⟨hne, ?_, ?_⟩⟩
  · rw [openWord, ← List.map_append, List.takeWhile_append_dropWhile]
  · intro x hx
    obtain ⟨cell, hcell, rfl⟩ := List.mem_map.mp hx
    simpa using List.mem_takeWhile_imp hcell
  · intro x hx
    rw [List.head?_map, Option.mem_def, Option.map_eq_some_iff] at hx
    obtain ⟨cell, hcell, rfl⟩ := hx
    have hstop := List.head?_dropWhile_not (fun c : Cell => !Text.isBlank c.1) cells
    rw [hcell] at hstop
    simpa using hstop

/-- Cells begin with blanks, and go on with a cell that is none. -/
lemma exists_blanks (cells : List Cell) :
    ∃ blanks : Text, cells.map (·.1) =
        blanks ++ (cells.drop (cells.takeWhile (Text.isBlank ·.1)).length).map (·.1) ∧
      blanks.length = (cells.takeWhile (Text.isBlank ·.1)).length ∧
      (∀ x ∈ blanks, Text.isBlank x = true) ∧
      ∀ c ∈ (cells.drop (cells.takeWhile (Text.isBlank ·.1)).length).head?,
        Text.isBlank c.1 = false := by
  rw [drop_length_takeWhile]
  refine ⟨(cells.takeWhile (Text.isBlank ·.1)).map (·.1), ?_, by rw [List.length_map], ?_, ?_⟩
  · rw [← List.map_append, List.takeWhile_append_dropWhile]
  · intro x hx
    obtain ⟨cell, hcell, rfl⟩ := List.mem_map.mp hx
    have hkept := List.mem_takeWhile_imp hcell
    exact hkept
  · intro c hc
    have hstop := List.head?_dropWhile_not (fun c : Cell => Text.isBlank c.1) cells
    rwa [Option.mem_def.mp hc] at hstop

/-- A name that is read after the mark of an author. -/
lemma exists_following_readAuthor {name : Text} {size : ℕ}
    (h : readAuthor cells = some (name, size)) :
    ∃ taken following, cells.map (·.1) = taken ++ following ∧ taken.length = size ∧
      ∀ mark : Text, mark.map Text.lower = authorMark →
        NamesAuthor (mark ++ taken) following name := by
  obtain ⟨blanks, hsplit, hlength, hblank, hstop⟩ := exists_blanks cells
  have hopens (mark : Text) (hmark : mark.map Text.lower = authorMark) : Opens (mark ++ blanks) :=
    ⟨mark, blanks, rfl, hmark, hblank⟩
  rw [readAuthor] at h
  simp only at h
  rw [← hlength] at h hsplit hstop
  cases hrest : cells.drop blanks.length with
  | nil => simp [hrest] at h
  | cons c rest =>
    rw [hrest] at h hsplit hstop
    have hc : Text.isBlank c.1 = false := hstop c rfl
    cases hquoted : if c.1 = '"' then closeQuote rest else none with
    | some inner =>
      simp only [hquoted, Option.some.injEq, Prod.mk.injEq] at h
      obtain ⟨rfl, rfl⟩ := h
      split_ifs at hquoted with hquote
      obtain ⟨hinner, more, hmore⟩ := closeQuote_eq_some_iff.mp hquoted
      refine ⟨blanks ++ '"' :: inner ++ ['"'], more, ?_, ?_, fun mark hmark => ?_⟩
      · rw [hsplit, List.map_cons, hmore, hquote]
        simp
      · simp
        omega
      · have hnames : NamesAuthor (mark ++ blanks ++ '"' :: inner ++ ['"']) more inner :=
          .quoted (hopens mark hmark) hinner
        simpa using hnames
    | none =>
      simp only [hquoted, Option.some.injEq, Prod.mk.injEq] at h
      obtain ⟨rfl, rfl⟩ := h
      obtain ⟨following, hfollowing, hword⟩ := exists_following_openWord (c :: rest)
      have hne : openWord (c :: rest) ≠ [] := by
        rw [openWord, List.takeWhile_cons_of_pos (by simp [hc])]
        simp
      refine ⟨blanks ++ openWord (c :: rest), following, ?_, by simp, fun mark hmark => ?_⟩
      · rw [hsplit, hfollowing, List.append_assoc]
      · have hnames := NamesAuthor.bare (hopens mark hmark) (hword hne) ?_
        · simpa using hnames
        · rintro ⟨inner, more, hinner, htext⟩
          rw [← hfollowing, List.map_cons, List.cons_append, List.cons.injEq] at htext
          rw [if_pos htext.1, closeQuote_eq_some_iff.mpr ⟨hinner, more, htext.2⟩] at hquoted
          exact absurd hquoted (by simp)

lemma takes_authorForm :
    Takes authorForm fun _ _ taken following name => NamesAuthor taken following name := by
  intro before cell cells hit h
  rw [authorForm] at h
  split_ifs at h with hmark
  obtain ⟨⟨name, size⟩, hread, rfl⟩ := Option.map_eq_some_iff.mp h
  obtain ⟨taken, following, htext, hlength, hnames⟩ := exists_following_readAuthor hread
  have hmarkLength := congrArg List.length hmark
  rw [List.length_map, List.length_cons] at hmarkLength
  refine ⟨(cell :: cells.take (authorMark.length - 1)).map (·.1) ++ taken, following, ?_, ?_, ?_⟩
  · rw [List.append_assoc, ← htext, ← List.map_append, List.cons_append, List.take_append_drop]
  · rw [List.length_append, List.length_map, List.length_cons, hlength, hmarkLength]
    simp only
    have hpos : 0 < authorMark.length := by decide
    omega
  · rintro text ⟨⟩
    refine hnames _ ?_
    rw [List.map_map]
    exact hmark

lemma takes_phraseForm :
    Takes phraseForm fun _ covered taken _ phrase => covered = false ∧ IsPhrase taken phrase := by
  intro before cell cells hit h
  rw [phraseForm] at h
  split_ifs at h with hquote
  obtain ⟨inner, hclose, rfl⟩ := Option.map_eq_some_iff.mp h
  obtain ⟨hinner, more, hmore⟩ := closeQuote_eq_some_iff.mp hclose
  refine ⟨'"' :: inner ++ ['"'], more, ?_, by simp, fun text htext => ?_⟩
  · rw [List.map_cons, hmore, hquote]
    simp
  · simp only at htext
    split_ifs at htext with hskip
    simp only [Bool.or_eq_true, List.isEmpty_iff, not_or, Bool.not_eq_true] at hskip
    obtain rfl := Option.some.inj htext
    exact ⟨hskip.1, inner, rfl, hinner.2, rfl, hskip.2⟩

lemma takes_exclusionForm :
    Takes exclusionForm fun before covered taken following word =>
      covered = false ∧ before ≠ some ':' ∧ IsExclusion taken following word := by
  intro before cell cells hit h
  rw [exclusionForm] at h
  by_cases hdash : cell.1 = '-'
  case neg => simp [hdash] at h
  by_cases hempty : (openWord cells).isEmpty = true
  case pos => simp [hdash, hempty] at h
  rw [if_pos hdash, if_neg hempty] at h
  obtain rfl := Option.some.inj h
  obtain ⟨following, htext, hword⟩ := exists_following_openWord cells
  refine ⟨'-' :: openWord cells, following, ?_, rfl, fun text hfound => ?_⟩
  · rw [List.map_cons, htext, hdash, List.cons_append]
  · simp only at hfound
    split_ifs at hfound with hskip
    simp only [Bool.or_eq_true, decide_eq_true_eq, not_or, Bool.not_eq_true] at hskip
    obtain rfl := Option.some.inj hfound
    exact ⟨hskip.1, hskip.2, rfl, hword (by simpa using hempty)⟩

end Forms

section Stretches

/-- The spans of texts that follow each other with one character between any two. -/
def spansFrom : ℕ → List Text → List Span
  | _, [] => []
  | k, s :: texts => ⟨k, k + s.length⟩ :: spansFrom (k + s.length + 1) texts

lemma le_start_of_mem_spansFrom {k : ℕ} {texts : List Text} {g : Span}
    (h : g ∈ spansFrom k texts) : k ≤ g.start := by
  induction texts generalizing k with
  | nil => simp [spansFrom] at h
  | cons s texts ih =>
    rcases List.mem_cons.mp h with rfl | h
    · exact le_rfl
    · have hstart := ih h
      omega

lemma pairwise_spansFrom (k : ℕ) (texts : List Text) :
    (spansFrom k texts).Pairwise fun g h => g.stop < h.start := by
  induction texts generalizing k with
  | nil => exact .nil
  | cons s texts ih =>
    refine List.pairwise_cons.mpr ⟨fun g hg => ?_, ih _⟩
    have hstart := le_start_of_mem_spansFrom hg
    simp only
    omega

lemma stretches_covered (x : Char) (cells : List Cell) :
    stretches ((x, true) :: cells) = [] :: stretches cells := by
  rw [stretches, if_pos rfl]

lemma stretches_ne_nil (cells : List Cell) : stretches cells ≠ [] := by
  cases cells with
  | nil => simp [stretches]
  | cons cell cells =>
    rw [stretches]
    split_ifs
    · simp
    · split <;> simp

lemma stretches_free {x : Char} {cells : List Cell} {s : Text} {texts : List Text}
    (h : stretches cells = s :: texts) :
    stretches ((x, false) :: cells) = (x :: s) :: texts := by
  simp [stretches, h]

/-- The stretches cover the cells that are free. -/
lemma covers_spansFrom_stretches (k : ℕ) (cells : List Cell) (i : ℕ) :
    (∃ g ∈ spansFrom k (stretches cells), g.Covers i) ↔
      k ≤ i ∧ ∃ x, cells[i - k]? = some (x, false) := by
  induction cells generalizing k with
  | nil =>
    simp only [stretches, spansFrom, List.mem_singleton, exists_eq_left, Span.Covers]
    simp
  | cons cell cells ih =>
    obtain ⟨x, covered⟩ := cell
    have htail : (k ≤ i ∧ ∃ y, ((x, covered) :: cells)[i - k]? = some (y, false)) ↔
        i = k ∧ covered = false ∨ k + 1 ≤ i ∧ ∃ y, cells[i - (k + 1)]? = some (y, false) := by
      rcases lt_trichotomy i k with hi | rfl | hi
      · omega
      · simp
      · obtain ⟨j, rfl⟩ := Nat.exists_eq_add_of_lt hi
        rw [show k + j + 1 - k = j + 1 by omega, show k + j + 1 - (k + 1) = j by omega]
        have hne : k + j + 1 ≠ k := by omega
        have hle : k ≤ k + j + 1 ∧ k + 1 ≤ k + j + 1 := by omega
        simp [hne, hle]
    rw [htail, ← ih]
    cases covered with
    | true =>
      rw [stretches_covered, spansFrom]
      simp [Span.Covers]
    | false =>
      obtain ⟨s, texts, hs⟩ := List.exists_cons_of_ne_nil (stretches_ne_nil cells)
      have hlength : k + (x :: s).length = k + 1 + s.length := by
        rw [List.length_cons]
        omega
      rw [stretches_free hs, hs, spansFrom, spansFrom, hlength]
      simp only [List.exists_mem_cons_iff, Span.Covers, and_true]
      rw [← or_assoc]
      refine or_congr_left ?_
      omega

lemma map_text_spansFrom (front : Text) (cells : List Cell) :
    (spansFrom front.length (stretches cells)).map (·.text (front ++ cells.map (·.1))) =
      stretches cells := by
  induction cells generalizing front with
  | nil => simp [stretches, spansFrom, Span.text]
  | cons cell cells ih =>
    obtain ⟨x, covered⟩ := cell
    have hfront : front ++ ((x, covered) :: cells).map (·.1) =
        (front ++ [x]) ++ cells.map (·.1) := by simp
    have ih := ih (front ++ [x])
    rw [List.length_append, List.length_singleton] at ih
    rw [hfront]
    cases covered with
    | true =>
      rw [stretches_covered, spansFrom, List.map_cons]
      exact congrArg₂ List.cons (by simp [Span.text]) ih
    | false =>
      obtain ⟨s, texts, hcells⟩ := List.exists_cons_of_ne_nil (stretches_ne_nil cells)
      rw [hcells, spansFrom, List.map_cons, List.cons.injEq] at ih
      have hlength : front.length + (x :: s).length = front.length + 1 + s.length := by
        rw [List.length_cons]
        omega
      have hs : (cells.map (·.1)).take s.length = s := by
        have hfirst := ih.1
        rw [Span.text] at hfirst
        simpa using hfirst
      rw [stretches_free hcells, spansFrom, List.map_cons, hlength]
      refine congrArg₂ List.cons ?_ ih.2
      rw [Span.text, List.append_assoc]
      simp [add_assoc, Nat.add_comm 1, hs]

lemma flatten_stretches (cells : List Cell) :
    (stretches cells).flatten = (cells.filter (!·.2)).map (·.1) := by
  induction cells with
  | nil => rfl
  | cons cell cells ih =>
    obtain ⟨x, covered⟩ := cell
    cases covered with
    | true =>
      rw [stretches_covered, List.flatten_cons, List.nil_append, ih]
      rfl
    | false =>
      obtain ⟨s, texts, hcells⟩ := List.exists_cons_of_ne_nil (stretches_ne_nil cells)
      rw [hcells, List.flatten_cons] at ih
      rw [stretches_free hcells, List.flatten_cons, List.cons_append, ih]
      rfl

/-- The stretches of covered cells that are not empty are the gaps between the spans. -/
lemma exists_gaps {c : Text} {spans : List Span} {cells : List Cell}
    (hcells : cells = cover spans 0 (mark false c)) :
    ∃ gaps, Gaps c spans gaps ∧
      leftover cells =
        Text.joinWith [' '] (((gaps.map (·.text c)).map Text.trim).filter (· ≠ [])) := by
  have hchars : cells.map (·.1) = c := by rw [hcells, map_fst_cover, map_fst_mark]
  have hfree (i : ℕ) : (∃ x, cells[i]? = some (x, false)) ↔ i < c.length ∧ Free spans i := by
    rw [hcells]
    simp only [getElem?_cover, mark, List.getElem?_map, Option.map_map, Nat.zero_add]
    by_cases hi : i < c.length
    · simp [hi]
    · simp [hi]
  have hcovers (i : ℕ) := covers_spansFrom_stretches 0 cells i
  simp only [Nat.zero_le, true_and, Nat.sub_zero, hfree] at hcovers
  refine ⟨(spansFrom 0 (stretches cells)).filter fun g => g.start < g.stop, ⟨?_, ?_, ?_⟩, ?_⟩
  · intro g hg
    obtain ⟨hg, hne⟩ := List.mem_filter.mp hg
    have hne : g.start < g.stop := of_decide_eq_true hne
    have hlast := (hcovers (g.stop - 1)).mp ⟨g, hg, by omega, by omega⟩
    omega
  · exact (pairwise_spansFrom 0 _).sublist List.filter_sublist
  · intro i
    rw [← hcovers]
    constructor
    · rintro ⟨g, hg, hi⟩
      exact ⟨g, (List.mem_filter.mp hg).1, hi⟩
    · rintro ⟨g, hg, hi⟩
      exact ⟨g, List.mem_filter.mpr ⟨hg, decide_eq_true (hi.1.trans_lt hi.2)⟩, hi⟩
  · have htexts := map_text_spansFrom [] cells
    rw [List.nil_append, hchars, List.length_nil] at htexts
    have hleftover : leftover cells = Text.joinWith [' '] ((((spansFrom 0 (stretches cells)).map
        (·.text c)).map Text.trim).filter fun s => !s.isEmpty) := by
      rw [htexts, leftover]
    rw [hleftover]
    refine congrArg (Text.joinWith [' ']) ?_
    rw [List.map_map, List.map_map, List.filter_map, List.filter_map, List.filter_filter]
    refine congrArg (List.map _) (List.filter_congr fun g _ => ?_)
    rw [Bool.eq_iff_iff]
    by_cases hne : g.start < g.stop
    · simp [hne]
    · have hempty : g.text c = [] := by
        rw [Span.text, Nat.sub_eq_zero_of_le (not_lt.mp hne), List.take_zero]
      simp [hempty, Text.trim, Text.trimStart, Text.trimEnd]

end Stretches

section Kept

/-- Blanks are all that the rest loses of the cells that are not covered. -/
lemma filter_leftover (cells : List Cell) :
    (leftover cells).filter (!Text.isBlank ·) =
      ((cells.filter (!·.2)).map (·.1)).filter (!Text.isBlank ·) := by
  rw [leftover, Text.filter_joinWith, List.flatten_filter_not_isEmpty, ← flatten_stretches]
  induction stretches cells with
  | nil => rfl
  | cons s texts ih =>
    rw [List.map_cons, List.flatten_cons, List.flatten_cons, List.filter_append,
      List.filter_append, ih, Text.filter_trim]

lemma filter_leftover_cover (c : Text) (spans : List Span) :
    (leftover (cover spans 0 (mark false c))).filter (!Text.isBlank ·) =
      (c.zipIdx.filter fun x => !Text.isBlank x.1 ∧ Free spans x.2).map (·.1) := by
  have hcells : cover spans 0 (mark false c) =
      c.zipIdx.map fun x => (x.1, !decide (Free spans x.2)) := by
    refine List.ext_getElem? fun i => ?_
    simp only [getElem?_cover, mark, List.getElem?_map, List.getElem?_zipIdx, Option.map_map]
    congr 1
  rw [filter_leftover, hcells]
  simp only [List.filter_map, List.map_map, List.filter_filter]
  simp [Function.comp_def]

end Kept

section Parse

variable {c : Text} {cells : List Cell} {r : List Text × List Cell} {earlier spans : List Span}
  {P : Option Char → Bool → Text → Text → Text → Prop}

lemma Scanned.lined (h : Scanned P [] cells r spans)
    (hcells : cells = cover earlier 0 (mark false c)) : Lined c spans where
  bounds s hs := by
    have hchars : cells.map (·.1) = c := by rw [hcells, map_fst_cover, map_fst_mark]
    have hlength : cells.length = c.length := by rw [← hchars, List.length_map]
    have hs := h.bounds s hs
    rw [List.nil_append, hlength] at hs
    exact hs.2
  apart := h.apart

lemma Scanned.eq_cover (h : Scanned P [] cells r spans)
    (hcells : cells = cover earlier 0 (mark false c)) :
    r.2 = cover (earlier ++ spans) 0 (mark false c) := by
  rw [← cover_cover, ← hcells]
  exact h.covers

/-- What a form finds in cells that earlier spans cover is said of the text. A form that begins in a
cell that is not covered begins outside of the earlier spans. -/
lemma Finds.of_cover {s : Span} {text : Text} (h : Finds P ([] ++ cells) s text)
    (hcells : cells = cover earlier 0 (mark false c)) :
    ∃ covered, (covered = false → Free earlier s.start) ∧
      P (c.take s.start).getLast? covered (s.text c) (c.drop s.stop) text := by
  obtain ⟨covered, hcovered, h⟩ := h
  have hchars : cells.map (·.1) = c := by rw [hcells, map_fst_cover, map_fst_mark]
  rw [List.nil_append, hchars] at h
  rw [List.nil_append, hcells, getElem?_cover] at hcovered
  simp only [mark, List.getElem?_map, Option.map_map, Option.map_eq_some_iff] at hcovered
  obtain ⟨x, -, rfl⟩ := hcovered
  exact ⟨_, fun hfree => by simpa using hfree, h⟩

end Parse

/-- What is typed into the search box is read in spans of authors, phrases and exclusions, which
do not begin inside earlier ones, and what is outside of them is the rest. -/
theorem parse_reading (query : Text) :
    ∃ authors phrases exclusions gaps,
      Reading query.trim (parse query) authors phrases exclusions gaps := by
  set c := query.trim
  set cells := mark false c
  have hcells : cells = cover [] 0 (mark false c) := (cover_of_free (by simp [Free])).symm
  obtain ⟨authors, ha⟩ := exists_scanned takes_authorForm [] cells
  have hcells' := ha.eq_cover hcells
  obtain ⟨phrases, hp⟩ := exists_scanned takes_phraseForm [] (scan authorForm none cells).2
  have hcells'' := hp.eq_cover hcells'
  obtain ⟨exclusions, he⟩ := exists_scanned takes_exclusionForm []
    (scan phraseForm none (scan authorForm none cells).2).2
  have hcovered := he.eq_cover hcells''
  obtain ⟨gaps, hgaps, hrest⟩ := exists_gaps hcovered
  refine ⟨authors, phrases, exclusions, gaps, ?_⟩
  constructor
  case linedAuthors => exact ha.lined hcells
  case linedPhrases => exact hp.lined hcells'
  case linedExclusions => exact he.lined hcells''
  case author =>
    refine ⟨_, rfl, ha.finds.imp fun s name h => ?_⟩
    obtain ⟨covered, -, h⟩ := h.of_cover hcells
    exact h
  case phrase =>
    refine hp.finds.imp fun s phrase h => ?_
    obtain ⟨covered, hfree, hcovered, h⟩ := h.of_cover hcells'
    exact ⟨hfree hcovered, h⟩
  case excluded =>
    refine he.finds.imp fun s word h => ?_
    obtain ⟨covered, hfree, hcovered, hbefore, h⟩ := h.of_cover hcells''
    exact ⟨hfree hcovered, hbefore, h⟩
  case between => exact hgaps
  case rest => exact hrest
  case kept =>
    have hkept := filter_leftover_cover c (authors ++ phrases ++ exclusions)
    exact (congrArg (fun cells => (leftover cells).filter (!Text.isBlank ·)) hcovered).trans hkept

end ForumSearch.FreeText
