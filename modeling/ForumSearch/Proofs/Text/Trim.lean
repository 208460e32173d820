import ForumSearch.Proofs.Text.Split

/-!
# Trimming

A text is tight if it has no blank at either end. Trimming leaves such a text as it is and takes the
blanks off that follow it. Tight texts with a space between any two make a tight text. Of any text,
trimming and joining keep all that is not blank.
-/

namespace ForumSearch.Text

lemma trim_prefix_trimStart (s : Text) : s.trim <+: s.trimStart := by
  rw [trim, trimEnd, ← List.reverse_suffix, List.reverse_reverse]
  exact List.dropWhile_suffix _

lemma isInfix_trim (s : Text) : s.trim <:+: s :=
  (trim_prefix_trimStart s).isInfix.trans (List.dropWhile_suffix _).isInfix

structure Tight (s : Text) : Prop where
  ne_nil : s ≠ []
  first : ∀ c ∈ s.head?, isBlank c = false
  last : ∀ c ∈ s.getLast?, isBlank c = false

/-- What trimming leaves of a text is tight, if it leaves anything. -/
lemma tight_trim {s : Text} (hne : s.trim ≠ []) : Tight s.trim where
  ne_nil := hne
  first c hc := by
    have hkept := List.head?_dropWhile_not isBlank s
    obtain ⟨t, ht⟩ := trim_prefix_trimStart s
    have hmem : c ∈ s.trimStart.head? := by
      rw [← ht]
      exact List.mem_head?_append_of_mem_head? hc
    rwa [← trimStart, Option.mem_def.mp hmem] at hkept
  last c hc := by
    have hkept := List.head?_dropWhile_not isBlank s.trimStart.reverse
    rw [trim, trimEnd, List.getLast?_reverse] at hc
    rwa [Option.mem_def.mp hc] at hkept

namespace Tight

lemma of_trim {s : Text} (hne : s ≠ []) (h : s.trim = s) : Tight s := by
  rw [← h] at hne ⊢
  exact tight_trim (by rwa [h] at hne ⊢)

lemma of_forall {s : Text} (hne : s ≠ []) (h : ∀ c ∈ s, isBlank c = false) : Tight s where
  ne_nil := hne
  first c hc := h c (List.mem_of_head? hc)
  last c hc := h c (List.mem_of_getLast? hc)

lemma append {s t : Text} (hs : Tight s) (ht : Tight t) (between : Text) :
    Tight (s ++ (between ++ t)) where
  ne_nil := by simp [hs.ne_nil]
  first := by
    rw [List.head?_append_of_ne_nil _ hs.ne_nil]
    exact hs.first
  last := by
    rw [← List.append_assoc, List.getLast?_append_of_ne_nil _ ht.ne_nil]
    exact ht.last

lemma trim_append {s blanks : Text} (hs : Tight s) (hblanks : ∀ c ∈ blanks, isBlank c = true) :
    (s ++ blanks).trim = s := by
  obtain ⟨c, t, rfl⟩ := List.exists_cons_of_ne_nil hs.ne_nil
  have hstart : trimStart (c :: t ++ blanks) = c :: t ++ blanks :=
    List.dropWhile_cons_of_neg (by simp [hs.first c rfl])
  have hend : (c :: t).reverse.dropWhile isBlank = (c :: t).reverse := by
    obtain ⟨d, u, hd⟩ := List.exists_cons_of_ne_nil (List.reverse_ne_nil_iff.mpr hs.ne_nil)
    have hmem : d ∈ (c :: t).getLast? := by
      rw [← List.head?_reverse, hd]
      rfl
    rw [hd]
    exact List.dropWhile_cons_of_neg (by simp [hs.last d hmem])
  rw [trim, hstart, trimEnd, List.reverse_append,
    List.dropWhile_append_of_pos fun c hc => hblanks c (List.mem_reverse.mp hc), hend,
    List.reverse_reverse]

lemma trim_eq {s : Text} (hs : Tight s) : s.trim = s := by
  have htrim : (s ++ []).trim = s := hs.trim_append (by simp)
  rwa [List.append_nil] at htrim

end Tight

/-- A text is what trimming leaves of it, with blanks on both sides. -/
lemma exists_trim (s : Text) : ∃ left right, s = left ++ (s.trim ++ right) ∧
    (∀ c ∈ left, isBlank c = true) ∧ ∀ c ∈ right, isBlank c = true := by
  refine ⟨s.takeWhile isBlank, (s.trimStart.reverse.takeWhile isBlank).reverse, ?_, ?_, ?_⟩
  · rw [trim, trimEnd, ← List.reverse_append, List.takeWhile_append_dropWhile,
      List.reverse_reverse]
    exact List.takeWhile_append_dropWhile.symm
  · exact fun c hc => List.mem_takeWhile_imp hc
  · exact fun c hc => List.mem_takeWhile_imp (List.mem_reverse.mp hc)

lemma trim_blanks_append {blanks : Text} (hblanks : ∀ c ∈ blanks, isBlank c = true) (s : Text) :
    (blanks ++ s).trim = s.trim := by
  rw [trim, trimStart, List.dropWhile_append_of_pos hblanks]
  rfl

lemma Tight.trim_around {left s right : Text} (hs : Tight s)
    (hleft : ∀ c ∈ left, isBlank c = true) (hright : ∀ c ∈ right, isBlank c = true) :
    (left ++ (s ++ right)).trim = s := by
  rw [trim_blanks_append hleft, hs.trim_append hright]

lemma trim_eq_nil_iff {s : Text} : s.trim = [] ↔ ∀ c ∈ s, isBlank c = true := by
  constructor
  · intro h
    obtain ⟨left, right, hs, hleft, hright⟩ := exists_trim s
    rw [hs, h]
    exact List.forall_mem_append.mpr ⟨hleft, List.forall_mem_append.mpr ⟨by simp, hright⟩⟩
  · intro h
    have htrim := trim_blanks_append h []
    rwa [List.append_nil] at htrim

lemma trim_trim (s : Text) : s.trim.trim = s.trim := by
  by_cases h : s.trim = []
  · rw [h]
    rfl
  · exact (tight_trim h).trim_eq

/-- Nothing blank stands at the end of a trimmed text. -/
lemma eq_nil_of_trim_append {s blanks : Text} (htrim : (s ++ blanks).trim = s ++ blanks)
    (hblanks : ∀ c ∈ blanks, isBlank c = true) : blanks = [] := by
  by_contra hne
  have htight : Tight (s ++ blanks) := .of_trim (by simp [hne]) htrim
  obtain ⟨c, hc⟩ := Option.isSome_iff_exists.mp (List.getLast?_isSome.mpr hne)
  have hlast := htight.last c (by rwa [List.getLast?_append_of_ne_nil _ hne])
  rw [hblanks c (List.mem_of_getLast? hc)] at hlast
  exact absurd hlast (by decide)

lemma words_trim (s : Text) : s.trim.words = s.words := by
  obtain ⟨left, right, hs, hleft, hright⟩ := exists_trim s
  conv_rhs => rw [hs]
  rw [words_blanks_append hleft, words_append_blanks hright]

lemma tight_joinWith {s : Text} {texts : List Text} (h : ∀ t ∈ s :: texts, Tight t) :
    Tight (joinWith [' '] (s :: texts)) := by
  induction texts generalizing s with
  | nil => simpa using h
  | cons s' texts ih =>
    obtain ⟨hs, htexts⟩ := List.forall_mem_cons.mp h
    rw [joinWith_cons_cons]
    exact hs.append (ih htexts) [' ']

/-- Trimming takes nothing but blanks off a text. -/
lemma filter_trim (s : Text) : s.trim.filter (!isBlank ·) = s.filter (!isBlank ·) := by
  have hdrop (t : Text) : (t.dropWhile isBlank).filter (!isBlank ·) = t.filter (!isBlank ·) := by
    induction t with
    | nil => rfl
    | cons x t ih =>
      by_cases hx : isBlank x = true
      · rw [List.dropWhile_cons_of_pos hx, ih, List.filter_cons_of_neg (by simp [hx])]
      · rw [List.dropWhile_cons_of_neg hx]
  rw [trim, trimEnd, List.filter_reverse, hdrop, List.filter_reverse,
    List.reverse_reverse, trimStart, hdrop]

lemma filter_joinWith (texts : List Text) :
    (joinWith [' '] texts).filter (!isBlank ·) = texts.flatten.filter (!isBlank ·) := by
  induction texts with
  | nil => rfl
  | cons s texts ih =>
    cases texts with
    | nil => simp
    | cons t texts =>
      have hspace : [' '].filter (!isBlank ·) = [] := by decide
      rw [joinWith_cons_cons, List.filter_append, List.filter_append, hspace, ih,
        List.nil_append, ← List.filter_append, ← List.flatten_cons]

end ForumSearch.Text
