import ForumSearch.Proofs.Search.Candidates
import ForumSearch.Proofs.Store.ReadBack

/-!
# Threads of authors with a name

A search for a name looks for it in the global and the display name of the author with a wildcard
pattern, in which the name is escaped. The escapes are undone by the reading of the pattern, so that
the pattern stands for the texts that contain the name. A global name that is not there makes its part
of the condition unknown, which is not enough for a match and does not stand against one.
-/

namespace ForumSearch

namespace Wildcard

lemma fits_nil_iff (s : Text) : fits [] s = true ↔ s = [] := by
  rw [fits, List.isEmpty_iff]

lemma fits_anyRun_iff (p : List Wildcard) (s : Text) :
    fits (.anyRun :: p) s = true ↔ ∃ a b, s = a ++ b ∧ fits p b = true := by
  rw [fits, List.any_eq_true]
  constructor
  · rintro ⟨i, -, hfits⟩
    exact ⟨s.take i, s.drop i, (List.take_append_drop i s).symm, hfits⟩
  · rintro ⟨a, b, rfl, hfits⟩
    refine ⟨a.length, ?_, ?_⟩
    · rw [List.mem_range, List.length_append]
      omega
    · rwa [List.drop_left]

lemma fits_anyOne_iff (p : List Wildcard) (s : Text) :
    fits (.anyOne :: p) s = true ↔ ∃ c b, s = c :: b ∧ fits p b = true := by
  cases s with
  | nil => simp [fits]
  | cons c s => simp [fits]

lemma fits_literal_iff (c : Char) (p : List Wildcard) (s : Text) :
    fits (.literal c :: p) s = true ↔
      ∃ d b, s = d :: b ∧ Text.asciiLower c = Text.asciiLower d ∧ fits p b = true := by
  cases s with
  | nil => simp [fits]
  | cons d s => simp [fits]

/-- Patterns one after the other fit texts one after the other. -/
theorem fits_append_iff (p q : List Wildcard) (s : Text) :
    fits (p ++ q) s = true ↔ ∃ a b, s = a ++ b ∧ fits p a = true ∧ fits q b = true := by
  induction p generalizing s with
  | nil => simp [fits_nil_iff]
  | cons x p ih =>
    rw [List.cons_append]
    cases x with
    | anyRun =>
      simp only [fits_anyRun_iff, ih]
      constructor
      · rintro ⟨r, -, rfl, a, b, rfl, hp, hq⟩
        exact ⟨r ++ a, b, (List.append_assoc _ _ _).symm, ⟨r, a, rfl, hp⟩, hq⟩
      · rintro ⟨-, b, rfl, ⟨r, a, rfl, hp⟩, hq⟩
        exact ⟨r, a ++ b, List.append_assoc _ _ _, a, b, rfl, hp, hq⟩
    | anyOne =>
      simp only [fits_anyOne_iff, ih]
      constructor
      · rintro ⟨c, -, rfl, a, b, rfl, hp, hq⟩
        exact ⟨c :: a, b, rfl, ⟨c, a, rfl, hp⟩, hq⟩
      · rintro ⟨-, b, rfl, ⟨c, a, rfl, hp⟩, hq⟩
        exact ⟨c, a ++ b, rfl, a, b, rfl, hp, hq⟩
    | literal d =>
      simp only [fits_literal_iff, ih]
      constructor
      · rintro ⟨c, -, rfl, hc, a, b, rfl, hp, hq⟩
        exact ⟨c :: a, b, rfl, ⟨c, a, rfl, hc, hp⟩, hq⟩
      · rintro ⟨-, b, rfl, ⟨c, a, rfl, hc, hp⟩, hq⟩
        exact ⟨c, a ++ b, rfl, hc, a, b, rfl, hp, hq⟩

lemma fits_anyRun (s : Text) : fits [.anyRun] s = true :=
  (fits_anyRun_iff [] s).mpr ⟨s, [], (List.append_nil s).symm, rfl⟩

lemma fits_literals_iff (t s : Text) :
    fits (t.map .literal) s = true ↔ s.map Text.asciiLower = t.map Text.asciiLower := by
  induction t generalizing s with
  | nil => rw [List.map_nil, List.map_nil, fits_nil_iff, List.map_eq_nil_iff]
  | cons c t ih =>
    rw [List.map_cons, fits_literal_iff, List.map_cons, List.map_eq_cons_iff]
    simp only [ih]
    exact exists_congr fun d => exists_congr fun b => and_congr_right fun _ =>
      and_congr_left fun _ => eq_comm

/-- A text between two wildcards for any run fits the texts that contain it. -/
lemma fits_between_iff (t s : Text) :
    fits (.anyRun :: t.map .literal ++ [.anyRun]) s = true ↔
      t.map Text.asciiLower <:+: s.map Text.asciiLower := by
  have hparts : (.anyRun :: t.map .literal ++ [.anyRun] : List Wildcard) =
      [.anyRun] ++ (t.map .literal ++ [.anyRun]) := rfl
  rw [hparts, fits_append_iff]
  simp only [fits_append_iff, fits_literals_iff, fits_anyRun, true_and, and_true]
  constructor
  · rintro ⟨a, -, rfl, m, b, rfl, hm⟩
    rw [List.map_append, List.map_append, hm]
    exact (List.prefix_append _ _).isInfix.trans (List.suffix_append _ _).isInfix
  · rintro ⟨x, y, hxy⟩
    obtain ⟨am, b, rfl, ham, -⟩ := List.append_eq_map_iff.mp hxy
    obtain ⟨a, m, rfl, -, hm⟩ := List.append_eq_map_iff.mp ham.symm
    exact ⟨a, m ++ b, List.append_assoc _ _ _, m, b, rfl, hm⟩

lemma read_of_plain {c : Char} (h : ¬(c = '%' ∨ c = '_' ∨ c = '\\')) (p : Text) :
    read (c :: p) = (read p).map (.literal c :: ·) := by
  push Not at h
  obtain ⟨hrun, hone, hescape⟩ := h
  rw [read]
  · rw [if_neg hescape]
  · exact hrun
  · exact hone
  · intro d q hc
    exact absurd hc hescape

lemma read_escape_append (c : Char) (p : Text) :
    read (escape c ++ p) = (read p).map (.literal c :: ·) := by
  unfold escape
  by_cases h : c = '%' ∨ c = '_' ∨ c = '\\'
  · rw [if_pos h]
    rfl
  · rw [if_neg h]
    exact read_of_plain h p

/-- The escapes of a text are undone. -/
lemma read_escaped_append (t p : Text) :
    read (t.flatMap escape ++ p) = (read p).map (t.map .literal ++ ·) := by
  induction t with
  | nil => simp
  | cons c t ih =>
    rw [List.flatMap_cons, List.append_assoc, read_escape_append, ih, Option.map_map]
    rfl

lemma read_containing (t : Text) :
    read (containing t) = some (.anyRun :: t.map .literal ++ [.anyRun]) := by
  have hread : read (containing t) = (read (t.flatMap escape ++ ['%'])).map (.anyRun :: ·) := rfl
  rw [hread, read_escaped_append]
  rfl

lemma untilNul_of_not_mem {s : Text} (h : '\x00' ∉ s) : untilNul s = s := by
  rw [untilNul, List.takeWhile_eq_self_iff]
  intro c hc
  exact decide_eq_true fun hnul => h (hnul ▸ hc)

lemma nul_not_mem_containing {t : Text} (h : '\x00' ∉ t) : '\x00' ∉ containing t := by
  have hescape : ∀ c ∈ t, '\x00' ∉ escape c := by
    intro c hc hmem
    have hne : '\x00' ≠ c := fun hnul => h (hnul ▸ hc)
    unfold escape at hmem
    split_ifs at hmem
    · simp [hne] at hmem
    · simp [hne] at hmem
  simpa [containing] using hescape

/-- The pattern of a name fits what contains the name, whatever characters the name has. -/
theorem like_containing_iff {t s : Text} (ht : '\x00' ∉ t) (hs : '\x00' ∉ s) :
    like (containing t) s = true ↔ t.map Text.asciiLower <:+: s.map Text.asciiLower := by
  rw [like, untilNul_of_not_mem (nul_not_mem_containing ht), untilNul_of_not_mem hs, read_containing]
  exact fits_between_iff t s

end Wildcard

/-- The truth of a condition on columns that may be empty. Nothing is known of an empty column. -/
abbrev Truth := Option Bool

/-- One of two conditions. -/
def Truth.either : Truth → Truth → Truth
  | some true, _ => some true
  | _, some true => some true
  | some false, some false => some false
  | _, _ => none

lemma Truth.either_eq_true_iff (a b : Truth) :
    a.either b = some true ↔ a = some true ∨ b = some true := by
  rcases a with - | - | - <;> rcases b with - | - | - <;> decide

namespace Author

/-- The user name is the text up to case, or the global name, if there is one, or the display name
contains it up to case. Only letters of ASCII have case. -/
def GoesBy (a : Author) (name : Text) : Prop :=
  a.name.map Text.asciiLower = name.map Text.asciiLower ∨
    (∃ g, a.globalName = some g ∧ name.map Text.asciiLower <:+: g.map Text.asciiLower) ∨
    name.map Text.asciiLower <:+: a.displayName.map Text.asciiLower

structure NulFree (a : Author) : Prop where
  name : '\x00' ∉ a.name
  globalName : ∀ g, a.globalName = some g → '\x00' ∉ g
  displayName : '\x00' ∉ a.displayName

/-- The condition that is asked of the columns of an author. -/
def nameCondition (a : Author) (name : Text) : Truth :=
  Truth.either
    (Truth.either (some (decide (a.name.map Text.asciiLower = name.map Text.asciiLower)))
      (a.globalName.map (Wildcard.like (Wildcard.containing name))))
    (some (Wildcard.like (Wildcard.containing name) a.displayName))

lemma nameCondition_eq_true_iff (a : Author) (name : Text) :
    a.nameCondition name = some true ↔ a.isNamed name = true := by
  simp only [nameCondition, Truth.either_eq_true_iff, isNamed, Bool.or_eq_true, Option.some.injEq,
    decide_eq_true_eq, Option.any_eq_true, Option.map_eq_some_iff]

lemma isNamed_iff_goesBy {a : Author} {name : Text} (ha : a.NulFree) (hname : '\x00' ∉ name) :
    a.isNamed name = true ↔ a.GoesBy name := by
  have hglobal : a.globalName.any (Wildcard.like (Wildcard.containing name)) = true ↔
      ∃ g, a.globalName = some g ∧ name.map Text.asciiLower <:+: g.map Text.asciiLower := by
    rw [Option.any_eq_true]
    exact exists_congr fun g => and_congr_right fun hg =>
      Wildcard.like_containing_iff hname (ha.globalName g hg)
  rw [isNamed, Bool.or_eq_true, Bool.or_eq_true, decide_eq_true_eq, hglobal,
    Wildcard.like_containing_iff hname ha.displayName, or_assoc]
  rfl

end Author

namespace Store

/-- The ids of the authors whose columns meet the condition. -/
def authorIdsNamed (s : Store) (name : Text) : List Int :=
  (s.authors.rows.filter fun r => r.2.nameCondition name = some true).map (·.1)

lemma mem_authorIdsNamed (s : Store) (name : Text) (id : Int) :
    id ∈ s.authorIdsNamed name ↔ ∃ a, s.authors.get? id = some a ∧ a.isNamed name = true := by
  simp only [authorIdsNamed, List.mem_map, List.mem_filter, decide_eq_true_eq,
    Author.nameCondition_eq_true_iff, Table.get?_eq_some_iff]
  constructor
  · rintro ⟨⟨k, a⟩, hrow, rfl⟩
    exact ⟨a, hrow⟩
  · rintro ⟨a, hrow⟩
    exact ⟨(id, a), hrow, rfl⟩

lemma satisfies_authorNamed (s : Store) (t : Thread) (name : Text) :
    s.satisfies t (.authorNamed name) = true ↔
      ∃ a, s.authors.get? t.author = some a ∧ a.isNamed name = true :=
  Option.any_eq_true _ _

/-- A thread is found by the name of its author exactly if the author was written, and as last written
goes by the name. That is also what the list of author ids says, in which a condition must be known
to be true. -/
theorem satisfies_authorNamed_iff (history : List Write) {name : Text} (hname : '\x00' ∉ name)
    (hauthors : ∀ id a, (after history).authors.get? id = some a → a.NulFree) (t : Thread) :
    ((after history).satisfies t (.authorNamed name) = true ↔
        ∃ a, lastAuthor? history t.author = some a ∧ a.GoesBy name) ∧
      (t.author ∈ (after history).authorIdsNamed name ↔
        ∃ a, lastAuthor? history t.author = some a ∧ a.GoesBy name) := by
  have hnamed : (∃ a, (after history).authors.get? t.author = some a ∧ a.isNamed name = true) ↔
      ∃ a, lastAuthor? history t.author = some a ∧ a.GoesBy name := by
    rw [← (recalls_after history).authors]
    exact exists_congr fun a => and_congr_right fun ha =>
      Author.isNamed_iff_goesBy (hauthors t.author a ha) hname
  rw [satisfies_authorNamed, mem_authorIdsNamed]
  exact ⟨hnamed, hnamed⟩

/-- The name has both wildcards in it. One author has it in the display name, in the other case; the
other author would only be found by the wildcards. Neither has a global name. -/
theorem satisfies_authorNamed_iff_wildcards :
    let name : Text := ['%', '_', 'x']
    let a : Author := ⟨5, ['a'], none, ['b', '%', '_', 'X', 'b']⟩
    let b : Author := ⟨6, ['b'], none, ['b', 'b', 'x']⟩
    let t : Thread := ⟨1, 1, 5, ['t'], ⟨0, 0⟩, ⟨0, 0⟩, 0, 0, none, [], 0⟩
    let u : Thread := { t with id := 2, author := 6 }
    let history : List Write := [.author a, .author b, .thread t [], .thread u []]
    '\x00' ∉ name ∧ (∀ id a, (after history).authors.get? id = some a → a.NulFree) ∧
      (after history).satisfies t (.authorNamed name) = true ∧
      ¬(after history).satisfies u (.authorNamed name) = true ∧
      u.author ∉ (after history).authorIdsNamed name := by
  intro name a b t u history
  have hname : '\x00' ∉ name := by decide
  have hauthors : ∀ id a, (after history).authors.get? id = some a → a.NulFree := by
    intro id a' ha
    have hrow : (id, a') ∈ [((5 : Int), a), (6, b)] := Table.get?_eq_some_iff.mp ha
    simp only [List.mem_cons, Prod.mk.injEq, List.not_mem_nil, or_false] at hrow
    rcases hrow with ⟨-, rfl⟩ | ⟨-, rfl⟩
    · exact ⟨by decide, by simp [a], by decide⟩
    · exact ⟨by decide, by simp [b], by decide⟩
  have hother : ¬∃ b', lastAuthor? history u.author = some b' ∧ b'.GoesBy name := by
    rintro ⟨b', hlast, hgoes⟩
    have hb : b' = b := (Option.some.inj hlast).symm
    rw [hb] at hgoes
    rcases hgoes with huser | ⟨g, hglobal, -⟩ | hshown
    · exact absurd huser (by decide)
    · exact absurd hglobal (by simp [b])
    · exact absurd hshown (by decide)
  obtain ⟨ht, -⟩ := satisfies_authorNamed_iff history hname hauthors t
  obtain ⟨hu, hids⟩ := satisfies_authorNamed_iff history hname hauthors u
  exact ⟨hname, hauthors, ht.mpr ⟨a, rfl, .inr (.inr (by decide))⟩, mt hu.mp hother,
    mt hids.mp hother⟩

end Store

end ForumSearch
