import ForumSearch.Proofs.Query.Printing
import ForumSearch.Proofs.Text.Split
import ForumSearch.Query.Keyword

/-!
# Lists of keywords

Groups of keywords can be written in many ways: with separators of either width, with blanks around
the keywords, and with places left blank. Reading gives back what was written, and every text is a
way of writing what is read in it.
-/

namespace ForumSearch.Keyword

open FreeText (quoted)

section Specification

/-- A text that a keyword can have: it is not empty, tight, and has no separator in it. -/
structure NormalText (s : Text) : Prop where
  ne_nil : s ≠ []
  trim : s.trim = s
  whole : ∀ c ∈ s, isComma c = false ∧ isSlash c = false

/-- A keyword that can be written. The beginning of a word is not in quotes, but for a quote alone
and for two of them. -/
def Normal : Keyword → Prop
  | .starting s => NormalText s ∧
      (2 < (String.ofList s).utf8ByteSize → ¬(s.head? = some '"' ∧ s.getLast? = some '"'))
  | .exact s => NormalText s

def NormalGroups (groups : List Group) : Prop :=
  ∀ group ∈ groups, group ≠ [] ∧ ∀ k ∈ group, k.Normal

instance (s : Text) : Decidable (NormalText s) :=
  decidable_of_iff
    (s ≠ [] ∧ s.trim = s ∧ s.all (fun c => isComma c == false && isSlash c == false) = true) (by
    simp only [List.all_eq_true, Bool.and_eq_true, beq_iff_eq]
    exact ⟨fun ⟨hne, htrim, hwhole⟩ => ⟨hne, htrim, hwhole⟩, fun h => ⟨h.ne_nil, h.trim, h.whole⟩⟩)

instance : DecidablePred Normal
  | .starting s => inferInstanceAs (Decidable (NormalText s ∧ (_ → ¬(_ ∧ _))))
  | .exact s => inferInstanceAs (Decidable (NormalText s))

instance (groups : List Group) : Decidable (NormalGroups groups) :=
  inferInstanceAs (Decidable (∀ group ∈ groups, _ ∧ _))

def Blank (s : Text) : Prop :=
  ∀ c ∈ s, Text.isBlank c = true

/-- A keyword in writing, with blanks around it and around its text in quotes. -/
inductive Written : Keyword → Text → Prop where
  | starting {left right s : Text} (hleft : Blank left) (hright : Blank right) :
    Written (.starting s) (left ++ (s ++ right))
  | exact {left right before after s : Text} (hleft : Blank left) (hright : Blank right)
    (hbefore : Blank before) (hafter : Blank after) :
    Written (.exact s) (left ++ (quoted (before ++ (s ++ after)) ++ right))

/-- An alternative in writing: a keyword, or none where there are only blanks, which may also stand
in quotes. -/
inductive Alternative : List Keyword → Text → Prop where
  | keyword {k : Keyword} {s : Text} (h : Written k s) : Alternative [k] s
  | blank {s : Text} (h : Blank s) : Alternative [] s
  | blankPhrase {left right inner : Text} (hleft : Blank left) (hright : Blank right)
    (hne : inner ≠ []) (hinner : Blank inner) : Alternative [] (left ++ (quoted inner ++ right))

/-- Pieces with a separator between any two, each of which stands for some values. -/
inductive Joined {α : Type} (sep : Char → Bool) (Piece : List α → Text → Prop) :
    List α → Text → Prop where
  | last {xs : List α} {s : Text} (h : Piece xs s) : Joined sep Piece xs s
  | cons {xs ys : List α} {s t : Text} {c : Char} (h : Piece xs s) (hc : sep c = true)
    (hmore : Joined sep Piece ys t) : Joined sep Piece (xs ++ ys) (s ++ c :: t)

/-- Alternatives between slashes. -/
def WrittenGroup : Group → Text → Prop :=
  Joined isSlash Alternative

/-- A group in writing, or none where there is no keyword. -/
inductive Member : List Group → Text → Prop where
  | group {g : Group} {s : Text} (hne : g ≠ []) (h : WrittenGroup g s) : Member [g] s
  | blank {s : Text} (h : WrittenGroup [] s) : Member [] s

/-- Groups between commas. -/
def WrittenGroups : List Group → Text → Prop :=
  Joined isComma Member

def write : Keyword → Text
  | .starting s => s
  | .exact s => quoted s

/-- The shortest way of writing groups. -/
def writeGroups (groups : List Group) : Text :=
  Text.joinWith [','] (groups.map fun group => Text.joinWith ['/'] (group.map write))

end Specification

section Joined

variable {α : Type} {sep : Char → Bool} {Piece : List α → Text → Prop} {read : Text → List α}

lemma Joined.flatMap_splitAtEach {P : α → Prop} (hread : ∀ xs s, Piece xs s → (∀ x ∈ xs, P x) →
    (∀ c ∈ s, sep c = false) ∧ read s = xs) {xs : List α} {s : Text} (h : Joined sep Piece xs s)
    (hxs : ∀ x ∈ xs, P x) : (Text.splitAtEach sep s).flatMap read = xs := by
  induction h with
  | last h =>
    obtain ⟨hs, hread⟩ := hread _ _ h hxs
    rw [Text.splitAtEach_of_forall hs, List.flatMap_singleton, hread]
  | cons h hc hmore ih =>
    rw [List.forall_mem_append] at hxs
    obtain ⟨hs, hread⟩ := hread _ _ h hxs.1
    rw [Text.splitAtEach_append_cons hc, Text.splitAtEach_of_forall hs, List.flatMap_append,
      List.flatMap_singleton, hread, ih hxs.2]

/-- Every text is what is read piece by piece, joined. -/
lemma joined_flatMap_splitAtEach (hread : ∀ s, Piece (read s) s) (s : Text) :
    Joined sep Piece ((Text.splitAtEach sep s).flatMap read) s := by
  -- The first separator leaves a shorter text behind it, whatever stands before it.
  induction hn : s.length using Nat.strong_induction_on generalizing s with
  | _ n ih =>
    rcases Text.forall_or_exists_append_cons sep s with h | ⟨piece, c, rest, rfl, hpiece, hc⟩
    · rw [Text.splitAtEach_of_forall h, List.flatMap_singleton]
      exact .last (hread s)
    · rw [Text.splitAtEach_append_cons hc, Text.splitAtEach_of_forall hpiece, List.flatMap_append,
        List.flatMap_singleton]
      refine .cons (hread piece) hc (ih rest.length ?_ rest rfl)
      rw [← hn, List.length_append, List.length_cons]
      omega

lemma Joined.forall_mem {p : Char → Prop} {P : α → Prop}
    (hpiece : ∀ xs s, Piece xs s → (∀ x ∈ xs, P x) → ∀ c ∈ s, p c) (hsep : ∀ c, sep c = true → p c)
    {xs : List α} {s : Text} (h : Joined sep Piece xs s) (hxs : ∀ x ∈ xs, P x) : ∀ c ∈ s, p c := by
  induction h with
  | last h => exact hpiece _ _ h hxs
  | cons h hc hmore ih =>
    rw [List.forall_mem_append] at hxs
    exact List.forall_mem_append.mpr
      ⟨hpiece _ _ h hxs.1, List.forall_mem_cons.mpr ⟨hsep _ hc, ih hxs.2⟩⟩

lemma joined_joinWith {c : Char} (hc : sep c = true) (hnil : Piece [] []) {xs : List α}
    {f : α → Text} (h : ∀ x ∈ xs, Piece [x] (f x)) :
    Joined sep Piece xs (Text.joinWith [c] (xs.map f)) := by
  induction xs with
  | nil => exact .last hnil
  | cons x xs ih =>
    obtain ⟨hx, hxs⟩ := List.forall_mem_cons.mp h
    cases xs with
    | nil =>
      rw [List.map_singleton, Text.joinWith_singleton]
      exact .last hx
    | cons y ys =>
      rw [List.map_cons, List.map_cons, Text.joinWith_cons_cons]
      exact .cons hx hc (ih hxs)

end Joined

section Alternatives

lemma not_isSeparator_of_isBlank {c : Char} (hc : Text.isBlank c = true) :
    isComma c = false ∧ isSlash c = false := by
  have hcodes : ∀ n ∈ Index.blankCodes,
      isComma (Char.ofNat n) = false ∧ isSlash (Char.ofNat n) = false := by decide
  have hall := hcodes _ (Index.toNat_mem_blankCodes hc)
  rwa [Char.ofNat_toNat] at hall

/-- A text stands in quotes if it is longer than two quotes and has one at each end. -/
lemma exists_quoted_iff {s : Text} : (∃ inner, inner ≠ [] ∧ s = quoted inner) ↔
    2 < s.length ∧ s.head? = some '"' ∧ s.getLast? = some '"' := by
  constructor
  · rintro ⟨inner, hne, rfl⟩
    have hlength := List.length_pos_iff.mpr hne
    refine ⟨?_, rfl, ?_⟩
    · simp only [quoted, List.length_cons, List.length_append, List.length_nil]
      omega
    · rw [quoted, ← List.cons_append, List.getLast?_concat]
  · rintro ⟨hlength, hhead, hlast⟩
    obtain ⟨rest, rfl⟩ := List.head?_eq_some_iff.mp hhead
    rcases List.eq_nil_or_concat' rest with rfl | ⟨inner, c, rfl⟩
    · simp at hlength
    · rw [← List.cons_append, List.getLast?_concat] at hlast
      obtain rfl := Option.some.inj hlast
      refine ⟨inner, ?_, rfl⟩
      rintro rfl
      simp at hlength

lemma length_le_utf8Len (s : Text) : s.length ≤ String.utf8Len s := by
  induction s with
  | nil => exact Nat.zero_le _
  | cons c s ih =>
    have hpos := Char.utf8Size_pos c
    rw [List.length_cons, String.utf8Len_cons]
    omega

/-- In bytes it is the same to be longer than two quotes. -/
lemma exists_quoted_iff_bytes {s : Text} : (∃ inner, inner ≠ [] ∧ s = quoted inner) ↔
    2 < (String.ofList s).utf8ByteSize ∧ s.head? = some '"' ∧ s.getLast? = some '"' := by
  rw [exists_quoted_iff, String.utf8ByteSize_ofList]
  refine and_congr_left fun ⟨hhead, hlast⟩ => ⟨fun h => h.trans_le (length_le_utf8Len s), ?_⟩
  -- Of the texts that begin and end with a quote, one and two quotes are too short in bytes too.
  intro hbytes
  by_contra hlength
  obtain ⟨rest, rfl⟩ := List.head?_eq_some_iff.mp hhead
  rw [List.length_cons] at hlength
  rcases List.eq_nil_or_concat' rest with rfl | ⟨inner, c, rfl⟩
  · exact absurd hbytes (by decide)
  · rw [← List.cons_append, List.getLast?_concat] at hlast
    obtain rfl := Option.some.inj hlast
    obtain rfl : inner = [] := by
      rw [List.length_append, List.length_singleton] at hlength
      exact List.length_eq_zero_iff.mp (by omega)
    exact absurd hbytes (by decide)

lemma parse_of_blank {raw : Text} (h : raw.trim = []) : parse raw = none := by
  rw [parse, h]
  rfl

lemma parse_of_quoted {raw inner : Text} (hne : inner ≠ []) (h : raw.trim = quoted inner) :
    parse raw = if inner.trim = [] then none else some (.exact inner.trim) := by
  have hquoted := exists_quoted_iff.mp ⟨inner, hne, h⟩
  have hinner : raw.trim.tail.dropLast = inner := by
    rw [h, quoted, List.tail_cons, List.dropLast_concat]
  have htrim : raw.trim.isEmpty = false := by
    rw [h]
    rfl
  simp only [parse, htrim, Bool.false_eq_true, if_false, if_pos hquoted, hinner, List.isEmpty_iff]

lemma parse_of_unquoted {raw : Text} (hne : raw.trim ≠ [])
    (h : ¬∃ inner, inner ≠ [] ∧ raw.trim = quoted inner) : parse raw = some (.starting raw.trim) := by
  rw [exists_quoted_iff] at h
  simp only [parse, List.isEmpty_iff, hne, if_false, if_neg h]

lemma alternative_parse (raw : Text) : Alternative (parse raw).toList raw := by
  obtain ⟨left, right, hraw, hleft, hright⟩ := Text.exists_trim raw
  by_cases hblank : raw.trim = []
  · rw [parse_of_blank hblank]
    exact .blank (Text.trim_eq_nil_iff.mp hblank)
  by_cases hquoted : ∃ inner, inner ≠ [] ∧ raw.trim = quoted inner
  · obtain ⟨inner, hne, hinner⟩ := hquoted
    rw [parse_of_quoted hne hinner]
    rw [hinner] at hraw
    by_cases hempty : Text.trim inner = []
    · rw [if_pos hempty, hraw]
      exact .blankPhrase hleft hright hne (Text.trim_eq_nil_iff.mp hempty)
    · obtain ⟨before, after, hinner, hbefore, hafter⟩ := Text.exists_trim inner
      rw [if_neg hempty]
      rw [hinner] at hraw
      have hwritten : Written (.exact (Text.trim inner)) raw :=
        hraw ▸ .exact hleft hright hbefore hafter
      exact .keyword hwritten
  · rw [parse_of_unquoted hblank hquoted]
    have hwritten : Written (.starting raw.trim) raw := by
      conv_rhs => rw [hraw]
      exact .starting hleft hright
    exact .keyword hwritten

lemma NormalText.tight {s : Text} (hs : NormalText s) : s.Tight :=
  .of_trim hs.ne_nil hs.trim

/-- What stands for normal keywords is read as these. -/
lemma toList_parse {ks : List Keyword} {s : Text} (h : Alternative ks s)
    (hks : ∀ k ∈ ks, k.Normal) : (parse s).toList = ks := by
  cases h with
  | keyword h =>
    have hk := List.forall_mem_singleton.mp hks
    cases h with
    | @starting left right s hleft hright =>
      have htrim := hk.1.tight.trim_around hleft hright
      have hunquoted : ¬∃ inner, inner ≠ [] ∧ s = quoted inner := by
        rw [exists_quoted_iff_bytes]
        exact fun ⟨hbytes, hquotes⟩ => hk.2 hbytes hquotes
      rw [parse_of_unquoted (by rw [htrim]; exact hk.1.ne_nil) (by rwa [htrim]), htrim]
      rfl
    | @exact left right before after s hleft hright hbefore hafter =>
      have hk : NormalText s := hk
      have htrim := (FreeText.tight_quoted (before ++ (s ++ after))).trim_around hleft hright
      have hne : before ++ (s ++ after) ≠ [] := by simp [hk.ne_nil]
      rw [parse_of_quoted hne htrim, hk.tight.trim_around hbefore hafter, if_neg hk.ne_nil]
      rfl
  | blank h =>
    rw [parse_of_blank (Text.trim_eq_nil_iff.mpr h)]
    rfl
  | @blankPhrase left right inner hleft hright hne hinner =>
    rw [parse_of_quoted hne ((FreeText.tight_quoted inner).trim_around hleft hright),
      if_pos (Text.trim_eq_nil_iff.mpr hinner)]
    rfl

lemma Alternative.whole {ks : List Keyword} {s : Text} (h : Alternative ks s)
    (hks : ∀ k ∈ ks, k.Normal) : ∀ c ∈ s, isComma c = false ∧ isSlash c = false := by
  have hblank {s : Text} (hs : Blank s) : ∀ c ∈ s, isComma c = false ∧ isSlash c = false :=
    fun c hc => not_isSeparator_of_isBlank (hs c hc)
  have hquoted {s : Text} (hs : ∀ c ∈ s, isComma c = false ∧ isSlash c = false) :
      ∀ c ∈ quoted s, isComma c = false ∧ isSlash c = false := by
    rw [quoted, List.forall_mem_cons, List.forall_mem_append, List.forall_mem_singleton]
    exact ⟨by decide, hs, by decide⟩
  cases h with
  | keyword h =>
    have hk := List.forall_mem_singleton.mp hks
    cases h with
    | starting hleft hright =>
      simp only [List.forall_mem_append]
      exact ⟨hblank hleft, hk.1.whole, hblank hright⟩
    | exact hleft hright hbefore hafter =>
      rw [List.forall_mem_append, List.forall_mem_append]
      refine ⟨hblank hleft, hquoted ?_, hblank hright⟩
      simp only [List.forall_mem_append]
      exact ⟨hblank hbefore, NormalText.whole hk, hblank hafter⟩
  | blank h => exact hblank h
  | blankPhrase hleft hright hne hinner =>
    rw [List.forall_mem_append, List.forall_mem_append]
    exact ⟨hblank hleft, hquoted (hblank hinner), hblank hright⟩

lemma normal_of_parse {raw : Text} (hraw : ∀ c ∈ raw, isComma c = false ∧ isSlash c = false)
    {k : Keyword} (h : parse raw = some k) : k.Normal := by
  have hnormal {s : Text} (hs : s <:+: raw) (hne : s.trim ≠ []) : NormalText s.trim :=
    ⟨hne, Text.trim_trim s, fun c hc => hraw c (hs.subset ((Text.isInfix_trim s).subset hc))⟩
  by_cases hblank : raw.trim = []
  · simp [parse_of_blank hblank] at h
  by_cases hquoted : ∃ inner, inner ≠ [] ∧ raw.trim = quoted inner
  · obtain ⟨inner, hne, hinner⟩ := hquoted
    rw [parse_of_quoted hne hinner] at h
    split_ifs at h with hempty
    obtain rfl := Option.some.inj h
    have hpiece : inner <:+: raw.trim := ⟨['"'], ['"'], by rw [hinner]; rfl⟩
    exact hnormal (hpiece.trans (Text.isInfix_trim raw)) hempty
  · rw [parse_of_unquoted hblank hquoted] at h
    obtain rfl := Option.some.inj h
    rw [exists_quoted_iff_bytes] at hquoted
    exact ⟨hnormal List.infix_rfl hblank, fun hbytes hquotes => hquoted ⟨hbytes, hquotes⟩⟩

end Alternatives

section Groups

lemma parseGroup_eq (raw : Text) :
    parseGroup raw = (Text.splitAtEach isSlash raw).flatMap fun s => (parse s).toList :=
  List.filterMap_eq_flatMap_toList parse _

lemma writtenGroup_parseGroup (raw : Text) : WrittenGroup (parseGroup raw) raw := by
  rw [parseGroup_eq]
  exact joined_flatMap_splitAtEach alternative_parse raw

lemma parseGroup_of_written {group : Group} {s : Text} (h : WrittenGroup group s)
    (hgroup : ∀ k ∈ group, k.Normal) : parseGroup s = group := by
  rw [parseGroup_eq]
  refine Joined.flatMap_splitAtEach (fun ks s hs hks => ?_) h hgroup
  exact ⟨fun c hc => (hs.whole hks c hc).2, toList_parse hs hks⟩

lemma WrittenGroup.no_comma {group : Group} {s : Text} (h : WrittenGroup group s)
    (hgroup : ∀ k ∈ group, k.Normal) : ∀ c ∈ s, isComma c = false := by
  refine Joined.forall_mem (fun ks s hs hks c hc => (hs.whole hks c hc).1) ?_ h hgroup
  intro c hc
  rcases (by simpa [isSlash] using hc : c = '/' ∨ c = '／') with rfl | rfl <;> decide

/-- The group that is read in a text, if there is a keyword in it. -/
def member (s : Text) : List Group :=
  [parseGroup s].filter fun group => !group.isEmpty

lemma parseGroups_eq (s : Text) : parseGroups s = (Text.splitAtEach isComma s).flatMap member := by
  rw [parseGroups]
  induction Text.splitAtEach isComma s with
  | nil => rfl
  | cons piece pieces ih =>
    rw [List.map_cons, ← List.singleton_append, List.filter_append, ih, List.flatMap_cons]
    rfl

lemma member_of_ne_nil {s : Text} (h : parseGroup s ≠ []) : member s = [parseGroup s] := by
  simp [member, h]

lemma member_of_nil {s : Text} (h : parseGroup s = []) : member s = [] := by
  simp [member, h]

lemma member_member (s : Text) : Member (member s) s := by
  have hwritten := writtenGroup_parseGroup s
  by_cases h : parseGroup s = []
  · rw [member_of_nil h]
    exact .blank (h ▸ hwritten)
  · rw [member_of_ne_nil h]
    exact .group h hwritten

lemma parseGroups_of_written {groups : List Group} {s : Text} (h : WrittenGroups groups s)
    (hgroups : NormalGroups groups) : parseGroups s = groups := by
  rw [parseGroups_eq]
  refine Joined.flatMap_splitAtEach (fun gs s hs hgs => ?_) h hgroups
  cases hs with
  | group hne h =>
    obtain ⟨-, hg⟩ := List.forall_mem_singleton.mp hgs
    have hread := parseGroup_of_written h hg
    exact ⟨h.no_comma hg, by rw [member_of_ne_nil (hread ▸ hne), hread]⟩
  | blank h =>
    have hread := parseGroup_of_written h (by simp)
    exact ⟨h.no_comma (by simp), member_of_nil hread⟩

lemma normalGroups_parseGroups (s : Text) : NormalGroups (parseGroups s) := by
  intro group hgroup
  obtain ⟨hmem, hne⟩ := List.mem_filter.mp hgroup
  obtain ⟨piece, hpiece, rfl⟩ := List.mem_map.mp hmem
  refine ⟨by simpa using hne, fun k hk => ?_⟩
  obtain ⟨raw, hraw, hk⟩ := List.mem_filterMap.mp hk
  refine normal_of_parse (fun c hc => ?_) hk
  obtain ⟨hc, hslash⟩ := Text.mem_of_mem_splitAtEach hraw c hc
  exact ⟨(Text.mem_of_mem_splitAtEach hpiece c hc).2, hslash⟩

lemma written_write (k : Keyword) : Written k k.write := by
  have hblank : Blank [] := by simp [Blank]
  cases k with
  | starting s =>
    have hwritten := Written.starting (s := s) hblank hblank
    simpa [write] using hwritten
  | exact s =>
    have hwritten := Written.exact (s := s) hblank hblank hblank hblank
    simpa [write] using hwritten

lemma writtenGroups_writeGroups {groups : List Group} (h : NormalGroups groups) :
    WrittenGroups groups (writeGroups groups) := by
  have hblank : Alternative [] [] := .blank (by simp [Blank])
  refine joined_joinWith (by decide) (.blank (.last hblank)) fun group hgroup => ?_
  refine .group (h group hgroup).1 ?_
  exact joined_joinWith (by decide) hblank fun k _ => .keyword (written_write k)

/-- Reading gives normal groups, and normal groups can be written; the texts in which they are read
are the ways of writing them. -/
theorem parseGroups_written (groups : List Group) (s : Text) :
    NormalGroups (parseGroups s) ∧
    (NormalGroups groups → WrittenGroups groups (writeGroups groups) ∧
      (WrittenGroups groups s ↔ parseGroups s = groups)) := by
  refine ⟨normalGroups_parseGroups s, fun hgroups => ⟨writtenGroups_writeGroups hgroups, ?_⟩⟩
  constructor
  · intro h
    exact parseGroups_of_written h hgroups
  · rintro rfl
    have hjoined : WrittenGroups ((Text.splitAtEach isComma s).flatMap member) s :=
      joined_flatMap_splitAtEach member_member s
    rwa [← parseGroups_eq] at hjoined

/-- Separators of both widths, blanks on both sides of the quotes, and blank places of both kinds
stand in the text. The exact keyword ends with a quote, and two quotes are the beginning of a
word. -/
theorem parseGroups_written_mixed :
    let groups : List Group := [[.starting ['a'], .exact ['b', ' ', '"']], [.starting ['"', '"']]]
    let s : Text := "，／ a ／\" b \"\" / , \" \" ,\"\",".toList
    NormalGroups groups ∧ WrittenGroups groups s ∧ WrittenGroups groups "a/\"b \"\",\"\"".toList ∧
      parseGroups s = groups := by
  intro groups s
  have hgroups : NormalGroups groups := by decide
  have hread : parseGroups s = groups := by decide
  obtain ⟨hshortest, hwritten⟩ := (parseGroups_written groups s).2 hgroups
  exact ⟨hgroups, hwritten.mpr hread, hshortest, hread⟩

end Groups

end ForumSearch.Keyword
