import ForumSearch.Index.Token
import ForumSearch.Proofs.Text.Split

/-!
# Segmentation

A gap cuts a text into two whose tokens are found apart, so the tokens of a text are those of its
words. Every token is one token of its own, and segmenting a segmented text gives the same tokens.
-/

namespace ForumSearch.Index

/-- The form of a token: a CJK character, or letters and digits. -/
def IsToken (w : Text) : Prop :=
  (∃ c, kind c = .single ∧ w = [c]) ∨ (w ≠ [] ∧ ∀ c ∈ w, kind c = .letter)

lemma kind_eq_single_iff {c : Char} : kind c = .single ↔ isCjk c = true := by
  unfold kind
  split_ifs <;> simp_all

lemma kind_eq_letter_iff {c : Char} :
    kind c = .letter ↔ isCjk c = false ∧ Text.isAlphanumeric c = true := by
  unfold kind
  split_ifs <;> simp_all

@[simp] lemma tokens_nil : tokens [] = [] := rfl

lemma consWord_append (word : Text) (rest rest' : List Text) :
    consWord word (rest ++ rest') = consWord word rest ++ rest' := by
  unfold consWord
  by_cases h : word.isEmpty = true
  · simp [h]
  · simp [h]

lemma headAndTokens_append (s t : Text) (ht : (headAndTokens t).1 = []) :
    headAndTokens (s ++ t) =
      ((headAndTokens s).1, (headAndTokens s).2 ++ (headAndTokens t).2) := by
  induction s with
  | nil => exact Prod.ext ht rfl
  | cons c s ih =>
    rw [List.cons_append, headAndTokens, headAndTokens, ih]
    cases kind c <;> simp [consWord_append]

lemma tokens_of_head {s : Text} (hs : (headAndTokens s).1 = []) :
    tokens s = (headAndTokens s).2 := by
  simp [tokens, consWord, hs]

/-- Where no word goes on, the tokens of both sides stand side by side. -/
lemma tokens_append (s t : Text) (ht : (headAndTokens t).1 = []) :
    tokens (s ++ t) = tokens s ++ tokens t := by
  rw [tokens_of_head ht, tokens, headAndTokens_append s t ht]
  exact consWord_append _ _ _

lemma headAndTokens_gap {c : Char} (hc : kind c = .gap) (s : Text) :
    headAndTokens (c :: s) = ([], tokens s) := by
  rw [headAndTokens, hc]
  rfl

lemma tokens_append_gap {c : Char} (hc : kind c = .gap) (s t : Text) :
    tokens (s ++ c :: t) = tokens s ++ tokens t := by
  rw [tokens_append s (c :: t) (by rw [headAndTokens_gap hc])]
  simp [tokens, headAndTokens_gap hc, consWord]

/-- The code points of all blanks. -/
def blankCodes : List Nat :=
  [9, 10, 11, 12, 13, 0x20, 0x85, 0xa0, 0x1680, 0x2000, 0x2001, 0x2002, 0x2003, 0x2004, 0x2005,
    0x2006, 0x2007, 0x2008, 0x2009, 0x200a, 0x2028, 0x2029, 0x202f, 0x205f, 0x3000]

lemma toNat_mem_blankCodes {c : Char} (hb : Text.isBlank c = true) : c.toNat ∈ blankCodes := by
  unfold Text.isBlank at hb
  generalize c.toNat = n at hb
  simp only [Text.inRanges, Bool.if_false_left, Bool.and_eq_true, Bool.or_eq_true,
    decide_eq_true_eq, Bool.not_eq_true', decide_eq_false_iff_not, Bool.false_eq_true,
    or_false] at hb
  simp only [blankCodes, List.mem_cons, List.not_mem_nil, or_false]
  omega

lemma kind_of_isBlank {c : Char} (hb : Text.isBlank c = true) : kind c = .gap := by
  have hcodes : ∀ n ∈ blankCodes, kind (Char.ofNat n) = .gap := by decide +kernel
  have hc := hcodes _ (toNat_mem_blankCodes hb)
  rwa [Char.ofNat_toNat] at hc

/-- The words of a text have its tokens. -/
theorem tokens_eq_flatMap_words (s : Text) : tokens s = (Text.words s).flatMap tokens := by
  rcases Text.forall_or_exists_append_cons Text.isBlank s with hs | ⟨word, c, rest, rfl, -, hc⟩
  · rw [Text.words_of_forall hs]
    split_ifs with hne <;> simp [hne]
  · rw [tokens_append_gap (kind_of_isBlank hc), Text.words_append_cons hc, List.flatMap_append,
      tokens_eq_flatMap_words word, tokens_eq_flatMap_words rest]
termination_by s.length

lemma kind_hexDigitChar {d : Nat} (hd : d < 16) : kind (Text.hexDigitChar d) = .letter := by
  have hall : ∀ d : Fin 16, kind (Text.hexDigitChar d) = .letter := by decide
  exact hall ⟨d, hd⟩

lemma kind_of_mem_hexDigits (n : Nat) : ∀ c ∈ Text.hexDigits n, kind c = .letter := by
  induction n using Nat.strongRecOn with
  | ind n ih =>
    intro c hc
    rw [Text.hexDigits] at hc
    by_cases hn : n < 16
    · rw [if_pos hn, List.mem_singleton] at hc
      rw [hc]
      exact kind_hexDigitChar hn
    · rw [if_neg hn, List.mem_append, List.mem_singleton] at hc
      rcases hc with hc | rfl
      · exact ih (n / 16) (by omega) c hc
      · exact kind_hexDigitChar (Nat.mod_lt n (by omega))

lemma isToken_codeWord (c : Char) : IsToken (codeWord c) := by
  refine .inr ⟨List.cons_ne_nil _ _, ?_⟩
  intro d hd
  rcases List.mem_cons.mp hd with rfl | hd
  · decide
  · exact kind_of_mem_hexDigits c.toNat d hd

lemma mem_consWord {w word : Text} {rest : List Text} :
    w ∈ consWord word rest ↔ (w = word ∧ word ≠ []) ∨ w ∈ rest := by
  unfold consWord
  cases word <;> simp

/-- The head of a text is a run of letters, and what follows it are tokens. -/
lemma isToken_headAndTokens (s : Text) :
    (∀ c ∈ (headAndTokens s).1, kind c = .letter) ∧ ∀ w ∈ (headAndTokens s).2, IsToken w := by
  induction s with
  | nil => simp [headAndTokens]
  | cons c s ih =>
    obtain ⟨hhead, hrest⟩ := ih
    have hcons : ∀ w ∈ consWord (headAndTokens s).1 (headAndTokens s).2, IsToken w := by
      intro w hw
      rcases mem_consWord.mp hw with ⟨rfl, hne⟩ | hw
      · exact .inr ⟨hne, hhead⟩
      · exact hrest w hw
    rw [headAndTokens]
    cases hc : kind c with
    | single => exact ⟨by simp, List.forall_mem_cons.mpr ⟨.inl ⟨c, hc, rfl⟩, hcons⟩⟩
    | letter => exact ⟨List.forall_mem_cons.mpr ⟨hc, hhead⟩, hrest⟩
    | gap => exact ⟨by simp, hcons⟩
    | symbol => exact ⟨by simp, List.forall_mem_cons.mpr ⟨isToken_codeWord c, hcons⟩⟩

lemma isToken_of_mem_tokens {s w : Text} (hw : w ∈ tokens s) : IsToken w := by
  obtain ⟨hhead, hrest⟩ := isToken_headAndTokens s
  rcases mem_consWord.mp hw with ⟨rfl, hne⟩ | hw
  · exact .inr ⟨hne, hhead⟩
  · exact hrest w hw

/-- A word goes on in the letters that follow it. -/
lemma headAndTokens_letters {w : Text} (hw : ∀ c ∈ w, kind c = .letter) (s : Text) :
    headAndTokens (w ++ s) = (w ++ (headAndTokens s).1, (headAndTokens s).2) := by
  induction w with
  | nil => rfl
  | cons c w ih =>
    obtain ⟨hc, hw⟩ := List.forall_mem_cons.mp hw
    rw [List.cons_append, headAndTokens, ih hw, hc]
    rfl

lemma tokens_letters {w : Text} (hne : w ≠ []) (hw : ∀ c ∈ w, kind c = .letter) (s : Text) :
    tokens (w ++ s) = (w ++ (headAndTokens s).1) :: (headAndTokens s).2 := by
  rw [tokens, headAndTokens_letters hw]
  simp [consWord, hne]

lemma tokens_of_isToken {w : Text} (hw : IsToken w) : tokens w = [w] := by
  rcases hw with ⟨c, hc, rfl⟩ | ⟨hne, hw⟩
  · simp [tokens, headAndTokens, hc, consWord]
  · simpa [headAndTokens] using tokens_letters hne hw []

/-- Texts with spaces between them have the tokens of each of them. -/
lemma tokens_joinWith (texts : List Text) :
    tokens (Text.joinWith [' '] texts) = texts.flatMap tokens := by
  rw [tokens_eq_flatMap_words, Text.words_joinWith, List.flatMap_assoc]
  simp only [← tokens_eq_flatMap_words]

/-- Segmentation keeps the tokens of a text. -/
theorem tokens_segment (s : Text) : tokens (segment s) = tokens s := by
  have hself : ∀ w ∈ tokens s, tokens w = [w] :=
    fun _ hw => tokens_of_isToken (isToken_of_mem_tokens hw)
  rw [segment, tokens_joinWith, List.flatMap_congr hself, List.flatMap_singleton']

end ForumSearch.Index
