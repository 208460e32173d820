import ForumSearch.Text.Basic
import Mathlib

/-!
# Splitting and joining

A text is split at each character that satisfies a predicate, as any list is. What stands before
such a character is split apart from what stands after it, and a text without any is one piece.
Texts that are joined by such a character are its pieces again. The words of a text are its pieces
between blanks that are not empty.
-/

namespace ForumSearch.Text

variable {p : Char → Bool}

lemma splitAtEach_eq_splitOnP (p : Char → Bool) (s : Text) : splitAtEach p s = s.splitOnP p := by
  induction s with
  | nil => rfl
  | cons c s ih =>
    rw [splitAtEach, List.splitOnP_cons_eq_if_modifyHead, ih]
    obtain ⟨piece, pieces, hs⟩ := List.exists_cons_of_ne_nil (List.splitOnP_ne_nil p s)
    rw [hs, List.modifyHead_cons]

lemma splitAtEach_ne_nil (p : Char → Bool) (s : Text) : splitAtEach p s ≠ [] := by
  rw [splitAtEach_eq_splitOnP]
  exact List.splitOnP_ne_nil p s

lemma splitAtEach_append_cons {c : Char} (hc : p c = true) (s t : Text) :
    splitAtEach p (s ++ c :: t) = splitAtEach p s ++ splitAtEach p t := by
  simp only [splitAtEach_eq_splitOnP]
  exact List.splitOnP_append_cons s t hc

lemma splitAtEach_of_forall {s : Text} (h : ∀ c ∈ s, p c = false) : splitAtEach p s = [s] := by
  rw [splitAtEach_eq_splitOnP]
  exact List.splitOnP_eq_singleton h

/-- The pieces of a text have only characters of the text at which it is not split. -/
lemma mem_of_mem_splitAtEach {s piece : Text} (h : piece ∈ splitAtEach p s) :
    ∀ c ∈ piece, c ∈ s ∧ p c = false := by
  induction s generalizing piece with
  | nil =>
    obtain rfl := List.mem_singleton.mp h
    simp
  | cons d s ih =>
    have hrest {piece : Text} (hpiece : piece ∈ splitAtEach p s) :
        ∀ c ∈ piece, c ∈ d :: s ∧ p c = false :=
      fun c hc => (ih hpiece c hc).imp_left (List.mem_cons_of_mem d)
    obtain ⟨first, pieces, hs⟩ := List.exists_cons_of_ne_nil (splitAtEach_ne_nil p s)
    rw [splitAtEach] at h
    split_ifs at h with hd
    · rcases List.mem_cons.mp h with rfl | h
      · simp
      · exact hrest h
    · rw [hs] at h hrest
      rcases List.mem_cons.mp h with rfl | h
      · exact List.forall_mem_cons.mpr
          ⟨⟨List.mem_cons_self, by simpa using hd⟩, hrest List.mem_cons_self⟩
      · exact hrest (List.mem_cons_of_mem first h)

/-- A text is split nowhere, or its first piece ends at the first place where it is. -/
lemma forall_or_exists_append_cons (p : Char → Bool) (s : Text) : (∀ c ∈ s, p c = false) ∨
    ∃ piece c rest, s = piece ++ c :: rest ∧ (∀ d ∈ piece, p d = false) ∧ p c = true := by
  induction s with
  | nil => exact .inl (by simp)
  | cons d s ih =>
    by_cases hd : p d = true
    · exact .inr ⟨[], d, s, rfl, by simp, hd⟩
    · have hd : p d = false := by simpa using hd
      rcases ih with h | ⟨piece, c, rest, rfl, hpiece, hc⟩
      · exact .inl (List.forall_mem_cons.mpr ⟨hd, h⟩)
      · exact .inr ⟨d :: piece, c, rest, rfl, List.forall_mem_cons.mpr ⟨hd, hpiece⟩, hc⟩

/-- The first piece ends where the text does, or where it is first split. -/
lemma eq_or_eq_append_cons_of_splitAtEach {s piece : Text} {pieces : List Text}
    (h : splitAtEach p s = piece :: pieces) : pieces = [] ∧ s = piece ∨
      ∃ c rest, s = piece ++ c :: rest ∧ p c = true ∧ splitAtEach p rest = pieces := by
  rcases forall_or_exists_append_cons p s with hs | ⟨piece', c, rest, rfl, hpiece, hc⟩
  · rw [splitAtEach_of_forall hs, List.cons.injEq] at h
    exact .inl ⟨h.2.symm, h.1⟩
  · rw [splitAtEach_append_cons hc, splitAtEach_of_forall hpiece, List.singleton_append,
      List.cons.injEq] at h
    obtain ⟨rfl, rfl⟩ := h
    exact .inr ⟨c, rest, rfl, hc, rfl⟩

lemma splitFirst_eq_some_iff {c : Char} {s front back : Text} :
    splitFirst c s = some (front, back) ↔ s = front ++ c :: back ∧ c ∉ front := by
  induction s generalizing front with
  | nil => simp [splitFirst]
  | cons d s ih =>
    rw [splitFirst]
    by_cases hd : d = c
    · subst hd
      rw [if_pos rfl]
      cases front with
      | nil => simp [eq_comm]
      | cons e front =>
        simp only [List.cons_append, List.cons.injEq, List.mem_cons, not_or]
        constructor
        · rintro ⟨⟩
        · rintro ⟨⟨rfl, -⟩, hne, -⟩
          exact absurd rfl hne
    · rw [if_neg hd]
      cases front with
      | nil => simp [hd]
      | cons e front =>
        simp only [Option.map_eq_some_iff, Prod.exists, Prod.mk.injEq, List.cons.injEq,
          List.cons_append, List.mem_cons, not_or]
        constructor
        · rintro ⟨front', back', hs, ⟨rfl, rfl⟩, rfl⟩
          obtain ⟨rfl, hfront⟩ := ih.mp hs
          exact ⟨⟨rfl, rfl⟩, Ne.symm hd, hfront⟩
        · rintro ⟨⟨rfl, rfl⟩, -, hfront⟩
          exact ⟨front, back, ih.mpr ⟨rfl, hfront⟩, ⟨rfl, rfl⟩, rfl⟩

lemma splitFirst_eq_none_iff {c : Char} {s : Text} : splitFirst c s = none ↔ c ∉ s := by
  induction s with
  | nil => simp [splitFirst]
  | cons d s ih =>
    rw [splitFirst, List.mem_cons, not_or, ← ih]
    by_cases hd : d = c
    · simp [hd]
    · simp [hd, Ne.symm hd]

section Join

variable {texts : List Text}

@[simp] lemma joinWith_nil (sep : Text) : joinWith sep [] = [] := rfl

@[simp] lemma joinWith_singleton (sep s : Text) : joinWith sep [s] = s := by
  simp [joinWith]

lemma joinWith_cons_cons (sep s s' : Text) (texts : List Text) :
    joinWith sep (s :: s' :: texts) = s ++ (sep ++ joinWith sep (s' :: texts)) := by
  simp [joinWith, List.intercalate]

lemma not_mem_joinWith {c : Char} {sep : Text} (hsep : c ∉ sep) (h : ∀ s ∈ texts, c ∉ s) :
    c ∉ joinWith sep texts := by
  induction texts with
  | nil => exact List.not_mem_nil
  | cons s texts ih =>
    obtain ⟨hs, htexts⟩ := List.forall_mem_cons.mp h
    cases texts with
    | nil => simpa using hs
    | cons s' texts =>
      rw [joinWith_cons_cons, List.mem_append, List.mem_append, not_or, not_or]
      exact ⟨hs, hsep, ih htexts⟩

lemma splitAtEach_joinWith {c : Char} (hc : p c = true) (hne : texts ≠ [])
    (h : ∀ s ∈ texts, ∀ d ∈ s, p d = false) : splitAtEach p (joinWith [c] texts) = texts := by
  induction texts with
  | nil => exact absurd rfl hne
  | cons s texts ih =>
    obtain ⟨hs, htexts⟩ := List.forall_mem_cons.mp h
    cases texts with
    | nil => rw [joinWith_singleton, splitAtEach_of_forall hs]
    | cons s' texts =>
      rw [joinWith_cons_cons, List.singleton_append, splitAtEach_append_cons hc,
        splitAtEach_of_forall hs, ih (List.cons_ne_nil _ _) htexts, List.singleton_append]

end Join

section Words

lemma words_append_cons {c : Char} (hc : isBlank c = true) (s t : Text) :
    words (s ++ c :: t) = words s ++ words t := by
  rw [words, splitAtEach_append_cons hc, List.filter_append]
  rfl

lemma words_of_forall {s : Text} (h : ∀ c ∈ s, isBlank c = false) :
    words s = if s = [] then [] else [s] := by
  rw [words, splitAtEach_of_forall h]
  split_ifs with hs <;> simp [hs]

lemma words_of_blanks {blanks : Text} (h : ∀ c ∈ blanks, isBlank c = true) : words blanks = [] := by
  induction blanks with
  | nil => rfl
  | cons c blanks ih =>
    obtain ⟨hc, hblanks⟩ := List.forall_mem_cons.mp h
    exact (words_append_cons hc [] blanks).trans (ih hblanks)

lemma words_append_blanks {blanks : Text} (h : ∀ c ∈ blanks, isBlank c = true) (s : Text) :
    words (s ++ blanks) = words s := by
  cases blanks with
  | nil => rw [List.append_nil]
  | cons c blanks =>
    obtain ⟨hc, hblanks⟩ := List.forall_mem_cons.mp h
    rw [words_append_cons hc, words_of_blanks hblanks, List.append_nil]

lemma words_blanks_append {blanks : Text} (h : ∀ c ∈ blanks, isBlank c = true) (s : Text) :
    words (blanks ++ s) = words s := by
  induction blanks with
  | nil => rfl
  | cons c blanks ih =>
    obtain ⟨hc, hblanks⟩ := List.forall_mem_cons.mp h
    exact (words_append_cons hc [] (blanks ++ s)).trans (ih hblanks)

lemma words_joinWith (texts : List Text) : (joinWith [' '] texts).words = texts.flatMap words := by
  induction texts with
  | nil => rfl
  | cons s texts ih =>
    cases texts with
    | nil => simp
    | cons s' texts =>
      rw [joinWith_cons_cons, List.singleton_append, words_append_cons (by decide), ih]
      rfl

end Words

end ForumSearch.Text
