import ForumSearch.Proofs.Query.Printing
import ForumSearch.Proofs.Query.Request
import ForumSearch.Proofs.Query.Spans

/-!
# The author's name

The name of an author comes from a field of its own or from the last form for an author in the
search box. The field is trimmed, and a word has no blanks, but a name in quotes is taken as it is
written.
-/

namespace ForumSearch

namespace FreeText

/-- The forms for an author in a text, with their names, read from left to right. -/
inductive Authors : Text → List (Text × Text) → Prop where
  | nil : Authors [] []
  | skip {c : Char} {s : Text} {forms : List (Text × Text)}
    (hnone : ¬∃ taken following name, c :: s = taken ++ following ∧
      NamesAuthor taken following name)
    (hmore : Authors s forms) : Authors (c :: s) forms
  | form {taken following name : Text} {forms : List (Text × Text)}
    (hname : NamesAuthor taken following name) (hmore : Authors following forms) :
    Authors (taken ++ following) ((taken, name) :: forms)

lemma NamesAuthor.ne_nil {taken following name : Text} (h : NamesAuthor taken following name) :
    name ≠ [] := by
  cases h with
  | quoted hopen hname => exact hname.1
  | bare hopen hname hquote => exact hname.1

lemma NamesAuthor.trim_eq_or_quoted {taken following name : Text}
    (h : NamesAuthor taken following name) :
    name.trim = name ∨ ∃ opening, Opens opening ∧ taken = opening ++ FreeText.quoted name := by
  cases h with
  | @quoted opening name following hopen hname =>
    exact .inr ⟨opening, hopen, by simp [FreeText.quoted]⟩
  | bare hopen hname hquote => exact .inl (Text.Tight.of_forall hname.1 hname.2.1).trim_eq

lemma NamesAuthor.taken_ne_nil {taken following name : Text}
    (h : NamesAuthor taken following name) : taken ≠ [] := by
  have hne := h.ne_nil
  cases h with
  | quoted hopen hname => simp
  | bare hopen hname hquote => simp [hne]

lemma exists_authors (s : Text) : ∃ forms, Authors s forms := by
  -- A form takes at least its mark, so what follows it is shorter.
  induction hn : s.length using Nat.strong_induction_on generalizing s with
  | _ n ih =>
    cases s with
    | nil => exact ⟨[], .nil⟩
    | cons c s =>
      by_cases hform : ∃ taken following name, c :: s = taken ++ following ∧
          NamesAuthor taken following name
      · obtain ⟨taken, following, name, hs, hname⟩ := hform
        have hlength := List.length_pos_iff.mpr hname.taken_ne_nil
        obtain ⟨forms, hforms⟩ := ih following.length
          (by rw [← hn, hs, List.length_append]; omega) following rfl
        rw [hs]
        exact ⟨_, .form hname hforms⟩
      · obtain ⟨forms, hforms⟩ := ih s.length (by rw [← hn, List.length_cons]; omega) s rfl
        exact ⟨forms, .skip hform hforms⟩

lemma Authors.eq_nil {forms : List (Text × Text)} (h : Authors [] forms) : forms = [] := by
  generalize hs : ([] : Text) = s at h
  cases h with
  | nil => rfl
  | skip hnone hmore => simp at hs
  | form hname hmore => exact absurd (List.append_eq_nil_iff.mp hs.symm).1 hname.taken_ne_nil

lemma Authors.named {s : Text} {forms : List (Text × Text)} (h : Authors s forms) :
    ∀ x ∈ forms, ∃ following, NamesAuthor x.1 following x.2 := by
  induction h with
  | nil => simp
  | skip hnone hmore ih => exact ih
  | form hname hmore ih => exact List.forall_mem_cons.mpr ⟨⟨_, hname⟩, ih⟩

lemma Authors.of_getLast {s taken name : Text} {forms : List (Text × Text)} (h : Authors s forms)
    (hlast : forms.getLast? = some (taken, name)) : name ≠ [] ∧
      (name.trim = name ∨ ∃ opening, Opens opening ∧ taken = opening ++ FreeText.quoted name) := by
  obtain ⟨following, hname⟩ := h.named _ (List.mem_of_getLast? hlast)
  exact ⟨hname.ne_nil, hname.trim_eq_or_quoted⟩

section Forms

variable {blanks name following : Text} {cells : List Cell}

/-- Behind blanks, a name is read in quotes if these open and close there, and else as a word. -/
lemma readAuthor_append {c : Char} {s : Text} (hblanks : ∀ x ∈ blanks, Text.isBlank x = true)
    (hc : Text.isBlank c = false) (hcells : cells.map (·.1) = blanks ++ c :: s) :
    ∃ cell rest, cell.1 = c ∧ rest.map (·.1) = s ∧
      (∀ inner, c = '"' → closeQuote rest = some inner →
        readAuthor cells = some (inner, blanks.length + (inner.length + 2))) ∧
      ((c = '"' → closeQuote rest = none) → readAuthor cells =
        some (openWord (cell :: rest), blanks.length + (openWord (cell :: rest)).length)) := by
  obtain ⟨front, back, rfl, rfl, hback⟩ := List.map_eq_append_iff.mp hcells
  obtain ⟨cell, rest, rfl, rfl, rfl⟩ := List.map_eq_cons_iff.mp hback
  have htake : (front ++ cell :: rest).takeWhile (Text.isBlank ·.1) = front := by
    rw [takeWhile_append_stop (by simpa using hc)]
    exact List.takeWhile_eq_self_iff.mpr (List.forall_mem_map.mp hblanks)
  refine ⟨cell, rest, rfl, rfl, fun inner hquote hclose => ?_, fun hnone => ?_⟩
  · simp [readAuthor, htake, hquote, hclose, Nat.add_assoc]
  · have hword : (if cell.1 = '"' then closeQuote rest else none) = none := by
      by_cases hquote : cell.1 = '"'
      · rw [if_pos hquote, hnone hquote]
      · rw [if_neg hquote]
    simp [readAuthor, htake, hword]

lemma readAuthor_of_quotable (hblanks : ∀ x ∈ blanks, Text.isBlank x = true) (hname : Quotable name)
    (hcells : cells.map (·.1) = blanks ++ '"' :: (name ++ '"' :: following)) :
    readAuthor cells = some (name, blanks.length + (name.length + 2)) := by
  obtain ⟨cell, rest, -, hrest, hread, -⟩ := readAuthor_append hblanks (by decide) hcells
  exact hread name rfl (closeQuote_eq_some_iff.mpr ⟨hname, following, hrest⟩)

lemma readAuthor_of_word (hblanks : ∀ x ∈ blanks, Text.isBlank x = true)
    (hname : Word name following)
    (hquote : ¬∃ inner more, Quotable inner ∧ name ++ following = '"' :: inner ++ '"' :: more)
    (hcells : cells.map (·.1) = blanks ++ (name ++ following)) :
    readAuthor cells = some (name, blanks.length + name.length) := by
  obtain ⟨hne, hword, hstop⟩ := hname
  obtain ⟨c, s, rfl⟩ := List.exists_cons_of_ne_nil hne
  obtain ⟨hc, -⟩ := List.forall_mem_cons.mp hword
  obtain ⟨cell, rest, rfl, hrest, -, hread⟩ := readAuthor_append hblanks hc hcells
  have hrest : rest.map (·.1) = s ++ following := hrest
  have hnone : cell.1 = '"' → closeQuote rest = none := by
    intro hfirst
    refine Option.eq_none_iff_forall_ne_some.mpr fun inner hclose => hquote ?_
    obtain ⟨hinner, more, hmore⟩ := closeQuote_eq_some_iff.mp hclose
    exact ⟨inner, more, hinner, by rw [List.cons_append, ← hrest, hmore, hfirst]; rfl⟩
  have hopen : openWord (cell :: rest) = cell.1 :: s := by
    obtain ⟨front, back, rfl, rfl, rfl⟩ := List.map_eq_append_iff.mp hrest
    have hback : Stops back := by
      intro x hx
      exact hstop x.1 (by rw [List.head?_map, Option.mem_def.mp hx]; rfl)
    rw [← List.cons_append, openWord_append hback, openWord, List.takeWhile_eq_self_iff.mpr]
    · rfl
    · intro x hx
      simpa using hword x.1 (List.mem_map_of_mem hx)
  rw [hread hnone, hopen]

lemma map_drop_eq {taken rest : Text} {cell : Cell} {n : ℕ}
    (hcells : (cell :: cells).map (·.1) = taken ++ rest) (hn : taken.length = n + 1) :
    (cells.drop n).map (·.1) = rest := by
  have hdrop : ((cell :: cells).drop (n + 1)).map (·.1) = rest := by
    rw [List.map_drop, hcells, ← hn, List.drop_left]
  exact hdrop

/-- After the mark of an author and blanks, the form ends where the name that is read there does. -/
lemma authorForm_of_opens {opening rest : Text} {size : ℕ} (hopen : Opens opening)
    (hread : ∀ (blanks : Text) (cells : List Cell), (∀ x ∈ blanks, Text.isBlank x = true) →
      cells.map (·.1) = blanks ++ rest → readAuthor cells = some (name, blanks.length + size))
    {cell : Cell} (hcells : (cell :: cells).map (·.1) = opening ++ rest) (before : Option Char) :
    ∃ n, opening.length + size = n + 1 ∧ authorForm before cell cells = some ⟨n, some name⟩ := by
  obtain ⟨mark, blanks, rfl, hmark, hblanks⟩ := hopen
  rw [List.append_assoc] at hcells
  have hlength : mark.length = authorMark.length - 1 + 1 := by
    rw [← List.length_map, hmark]
    rfl
  have hmarked : (cell :: cells.take (authorMark.length - 1)).map (Text.lower ·.1) = authorMark := by
    have htake : (cell :: cells.take (authorMark.length - 1)).map (Text.lower ·.1) =
        (((cell :: cells).map (·.1)).take mark.length).map Text.lower := by
      rw [hlength, ← List.map_take, List.map_map]
      rfl
    rw [htake, hcells, List.take_left, hmark]
  have hname := hread blanks _ hblanks (map_drop_eq hcells hlength)
  refine ⟨authorMark.length - 1 + (blanks.length + size), ?_, ?_⟩
  · rw [List.length_append]
    omega
  · simp only [authorForm, if_pos hmarked, hname, Option.map_some]

lemma authorForm_of_namesAuthor {taken : Text} (h : NamesAuthor taken following name)
    {cell : Cell} (hcells : (cell :: cells).map (·.1) = taken ++ following)
    (before : Option Char) :
    ∃ n, taken.length = n + 1 ∧ authorForm before cell cells = some ⟨n, some name⟩ := by
  cases h with
  | @quoted opening _ _ hopen hname =>
    have hcells : (cell :: cells).map (·.1) = opening ++ '"' :: (name ++ '"' :: following) := by
      simpa using hcells
    obtain ⟨n, hn, hform⟩ := authorForm_of_opens hopen
      (fun _ _ hblanks => readAuthor_of_quotable hblanks hname) hcells before
    refine ⟨n, ?_, hform⟩
    simp only [List.length_append, List.length_cons, List.length_nil]
    omega
  | @bare opening _ _ hopen hname hquote =>
    have hcells : (cell :: cells).map (·.1) = opening ++ (name ++ following) := by
      rw [hcells, List.append_assoc]
    obtain ⟨n, hn, hform⟩ := authorForm_of_opens hopen
      (fun _ _ hblanks => readAuthor_of_word hblanks hname hquote) hcells before
    exact ⟨n, by rw [List.length_append, hn], hform⟩

lemma authorForm_eq_none {cell : Cell} (h : ¬∃ taken following name,
      (cell :: cells).map (·.1) = taken ++ following ∧ NamesAuthor taken following name)
    (before : Option Char) : authorForm before cell cells = none := by
  refine Option.eq_none_iff_forall_ne_some.mpr fun hit hhit => h ?_
  obtain ⟨taken, following, hcells, -, hnames⟩ := takes_authorForm before cell cells hit hhit
  rw [authorForm] at hhit
  split_ifs at hhit
  obtain ⟨r, -, rfl⟩ := Option.map_eq_some_iff.mp hhit
  exact ⟨taken, following, r.1, hcells, hnames r.1 rfl⟩

/-- The scan for authors finds the names of all forms. -/
lemma Authors.scan_eq {s : Text} {forms : List (Text × Text)} (h : Authors s forms)
    (hcells : cells.map (·.1) = s) (before : Option Char) :
    (scan authorForm before cells).1 = forms.map (·.2) := by
  induction h generalizing cells before with
  | nil =>
    obtain rfl := List.map_eq_nil_iff.mp hcells
    rw [scan]
    rfl
  | skip hnone hmore ih =>
    obtain ⟨cell, rest, rfl, -, hrest⟩ := List.map_eq_cons_iff.mp hcells
    rw [← hcells] at hnone
    rw [scan, authorForm_eq_none hnone]
    exact ih hrest _
  | @form taken following name forms hname hmore ih =>
    have hne : cells ≠ [] := by
      rintro rfl
      exact hname.taken_ne_nil (List.append_eq_nil_iff.mp hcells.symm).1
    obtain ⟨cell, rest, rfl⟩ := List.exists_cons_of_ne_nil hne
    obtain ⟨n, hn, hform⟩ := authorForm_of_namesAuthor hname hcells before
    rw [scan, hform]
    simp only [List.map_cons, ih (map_drop_eq hcells hn)]

end Forms

/-- The name of an author in the search box is the one of the last form. -/
lemma Authors.authorName_eq {raw : Text} {forms : List (Text × Text)}
    (h : Authors (clean raw) forms) :
    (parse (clean raw)).authorName = forms.getLast?.map (·.2) := by
  have htrim : (clean raw).trim = clean raw := Text.trim_trim _
  have hcells : ((clean raw).trim.map fun c => ((c, false) : Cell)).map (·.1) = clean raw := by
    rw [htrim, List.map_map]
    exact List.map_id _
  rw [parse, ← List.getLast?_map]
  exact congrArg List.getLast? (h.scan_eq hcells none)

end FreeText

namespace Request

open FreeText (Authors Opens quoted)

/-- What is read in the search box. -/
def box (r : Request) : Text :=
  (r.query.map FreeText.clean).getD []

/-- The author comes from the last form in the search box, which has the name in quotes with a blank
at one of its ends. -/
def PaddedAuthor (r : Request) : Prop :=
  (∀ field, r.authorName = some field → field.trim = []) ∧
    ∃ forms opening name, Authors r.box forms ∧
      forms.getLast? = some (opening ++ quoted name, name) ∧ Opens opening ∧ name.trim ≠ name

lemma author_of_field {r : Request} {field : Text} (h : r.authorName = some field)
    (hne : field.trim ≠ []) : r.author = some field.trim := by
  have hsome : (r.authorName.map Text.trim).filter (fun s => !s.isEmpty) = some field.trim := by
    simp [h, Option.filter, hne]
  rw [author, hsome]

lemma author_of_box {r : Request} (h : ∀ field, r.authorName = some field → field.trim = [])
    {forms : List (Text × Text)} (hforms : Authors r.box forms) :
    r.author = forms.getLast?.map (·.2) := by
  have hnone : (r.authorName.map Text.trim).filter (fun s => !s.isEmpty) = none := by
    cases hfield : r.authorName with
    | none => rfl
    | some field => simp [h field hfield]
  have hname : r.author = r.freeText.authorName := by rw [author, hnone]
  rw [hname, freeText]
  rw [box] at hforms
  cases hquery : r.query with
  | none =>
    rw [hquery] at hforms
    rw [hforms.eq_nil]
    rfl
  | some raw =>
    rw [hquery] at hforms
    exact hforms.authorName_eq

/-- The name of an author is the one of the field, trimmed, if it is not blank, and else the one of
the last form in the search box. It is trimmed and not blank, unless that form has it in quotes with
a blank at one of its ends. -/
theorem author_trimmed_iff {r : Request} {now : Instant} {q : Query}
    (h : r.validate now = .ok q) :
    (∀ field, r.authorName = some field → field.trim ≠ [] → q.authorName = some field.trim) ∧
    ((∀ field, r.authorName = some field → field.trim = []) → ∃ forms, Authors r.box forms ∧
      q.authorName = forms.getLast?.map (·.2)) ∧
    ((∀ name, q.authorName = some name → name ≠ [] ∧ name.trim = name) ↔ ¬r.PaddedAuthor) := by
  obtain ⟨-, -, -, -, -, -, -, hq⟩ := validate_eq_ok_iff.mp h
  have hname : q.authorName = r.author := by rw [hq]
  obtain ⟨forms, hforms⟩ := FreeText.exists_authors r.box
  rw [hname]
  refine ⟨fun field => author_of_field, fun hblank => ⟨forms, hforms, author_of_box hblank hforms⟩,
    fun htrim hpadded => ?_, fun hpadded name hauthor => ?_⟩
  · obtain ⟨hblank, forms, opening, name, hforms, hlast, -, hne⟩ := hpadded
    have hauthor := author_of_box hblank hforms
    rw [hlast] at hauthor
    exact hne (htrim name hauthor).2
  · by_cases hblank : ∀ field, r.authorName = some field → field.trim = []
    · rw [author_of_box hblank hforms] at hauthor
      obtain ⟨⟨taken, name⟩, hlast, rfl⟩ := Option.map_eq_some_iff.mp hauthor
      obtain ⟨hne, htrim | ⟨opening, hopens, rfl⟩⟩ := hforms.of_getLast hlast
      · exact ⟨hne, htrim⟩
      · refine ⟨hne, ?_⟩
        by_contra htrim
        exact hpadded ⟨hblank, forms, opening, name, hforms, hlast, hopens, htrim⟩
    · push Not at hblank
      obtain ⟨field, hfield, hne⟩ := hblank
      rw [author_of_field hfield hne] at hauthor
      obtain rfl := Option.some.inj hauthor
      exact ⟨hne, Text.trim_trim field⟩

/-- The field is blank, and of the two forms in the box the last one has blanks in its quotes. -/
theorem author_trimmed_iff_last_form :
    let r : Request :=
      { authorName := some [' '], query := some "author:bob AUTHOR: \" Al \"".toList }
    ∃ q, r.validate ⟨0, 0⟩ = .ok q ∧ q.authorName = some [' ', 'A', 'l', ' '] ∧ r.PaddedAuthor := by
  intro r
  have hq : r.validate ⟨0, 0⟩ = .ok _ := rfl
  have hname : r.author = some [' ', 'A', 'l', ' '] := by decide +kernel
  refine ⟨_, hq, hname, ?_⟩
  by_contra hpadded
  have htrim := (author_trimmed_iff hq).2.2.mpr hpadded _ hname
  exact absurd htrim.2 (by decide)

/-- A name in quotes keeps its blanks, and may be nothing but blanks; in the field it is trimmed, and
no name if it is blank. -/
theorem quoted_author_not_trimmed :
    let box (name : Text) : Request := { query := some ("author:".toList ++ quoted name) }
    let field (name : Text) : Request := { authorName := some name }
    ∃ q₁ q₂ q₃ q₄, (box " bob ".toList).validate ⟨0, 0⟩ = .ok q₁ ∧
      q₁.authorName = some " bob ".toList ∧ Text.trim " bob ".toList = "bob".toList ∧
      (box " ".toList).validate ⟨0, 0⟩ = .ok q₂ ∧ q₂.authorName = some " ".toList ∧
      (field " bob ".toList).validate ⟨0, 0⟩ = .ok q₃ ∧ q₃.authorName = some "bob".toList ∧
      (field " ".toList).validate ⟨0, 0⟩ = .ok q₄ ∧ q₄.authorName = none := by
  refine ⟨_, _, _, _, rfl, ?_, ?_, rfl, ?_, rfl, ?_, rfl, ?_⟩ <;> decide +kernel

end Request

end ForumSearch
