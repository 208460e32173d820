import ForumSearch.Proofs.Index.Stretch

/-!
# Composition

How the tokens of a text come from those of its parts. At a character that belongs to no word a text
can be cut, and the tokens of the two sides and of the character stand side by side. Where two
characters of words meet, the last token before and the first token behind become one. A reader
that goes from left to right and keeps the word under way apart finds the same tokens.
-/

namespace ForumSearch.Index

/-- A letter or digit that is not CJK: such characters join into words. -/
def JoinsWords (c : Char) : Prop :=
  isCjk c = false ∧ Text.isAlphanumeric c = true

instance : DecidablePred JoinsWords := fun _ => inferInstanceAs (Decidable (_ ∧ _))

lemma kind_ne_letter {c : Char} (hc : ¬JoinsWords c) : kind c ≠ .letter :=
  fun h => hc (kind_eq_letter_iff.mp h)

lemma IsToken.cjk_or_joinsWords {w : Text} (hw : IsToken w) :
    (∃ c, isCjk c = true ∧ w = [c]) ∨ (w ≠ [] ∧ ∀ c ∈ w, JoinsWords c) := by
  rcases hw with ⟨c, hc, rfl⟩ | ⟨hne, hw⟩
  · exact .inl ⟨c, kind_eq_single_iff.mp hc, rfl⟩
  · exact .inr ⟨hne, fun c hc => kind_eq_letter_iff.mp (hw c hc)⟩

lemma segment_segment (s : Text) : segment (segment s) = segment s := by
  rw [segment, tokens_segment]
  rfl

section Cut

/-- A text put together from its first piece and, for each cut, the character there and the piece
behind it. -/
def reassemble (first : Text) (cuts : List (Char × Text)) : Text :=
  first ++ cuts.flatMap fun cut => cut.1 :: cut.2

variable {cuts : List (Char × Text)}

lemma reassemble_cons (first : Text) (c : Char) (piece : Text) (cuts : List (Char × Text)) :
    reassemble first ((c, piece) :: cuts) = first ++ c :: reassemble piece cuts := by
  simp [reassemble]

lemma tokens_reassemble (hcuts : ∀ cut ∈ cuts, kind cut.1 ≠ .letter) (first : Text) :
    tokens (reassemble first cuts) =
      tokens first ++ cuts.flatMap fun cut => tokens [cut.1] ++ tokens cut.2 := by
  induction cuts generalizing first with
  | nil => simp [reassemble]
  | cons cut cuts ih =>
    obtain ⟨c, piece⟩ := cut
    obtain ⟨hc, hcuts⟩ := List.forall_mem_cons.mp hcuts
    rw [reassemble_cons, tokens_cut hc, ih hcuts, List.flatMap_cons]
    simp only [List.append_assoc]

/-- Between cuts a piece has no letter beside it, so its tokens are a run of those of the text. -/
lemma tokens_infix_of_mem_pieces (hcuts : ∀ cut ∈ cuts, kind cut.1 ≠ .letter)
    {first piece : Text} (hpiece : piece ∈ first :: cuts.map Prod.snd) :
    tokens piece <:+: tokens (reassemble first cuts) := by
  rw [tokens_reassemble hcuts]
  rcases List.mem_cons.mp hpiece with rfl | hpiece
  · exact (List.prefix_append _ _).isInfix
  · obtain ⟨cut, hcut, rfl⟩ := List.mem_map.mp hpiece
    obtain ⟨before, after, rfl⟩ := List.append_of_mem hcut
    exact ⟨tokens first ++ before.flatMap (fun cut => tokens [cut.1] ++ tokens cut.2) ++
      tokens [cut.1], after.flatMap fun cut => tokens [cut.1] ++ tokens cut.2, by simp⟩

end Cut

section Join

/-- A text that ends in a letter ends in a word, which goes on in the letters that follow. -/
lemma exists_tokens_append_of_letter {c : Char} (hc : kind c = .letter) (a : Text) :
    ∃ front word, ∀ b, tokens (a ++ c :: b) =
      front ++ (word ++ (headAndTokens b).1) :: (headAndTokens b).2 := by
  obtain ⟨front, word, hs, hfront, hword⟩ := exists_append_letters (a ++ [c])
  have hne : word ≠ [] := by
    rintro rfl
    rw [List.append_nil] at hs
    exact hfront c (by simp [← hs]) hc
  refine ⟨tokens front, word, fun b => ?_⟩
  have hsplit : a ++ c :: b = front ++ (word ++ b) := by
    rw [← List.append_assoc, ← hs, List.append_assoc, List.singleton_append]
  rw [hsplit, tokens_append_of_getLast? hfront, tokens_letters hne hword]

/-- Where two characters of words meet, the tokens on both sides of the place become one. -/
lemma tokens_join {c d : Char} (hc : kind c = .letter) (hd : kind d = .letter) (a b : Text) :
    ∃ front left right rest, tokens (a ++ [c]) = front ++ [left] ∧
      tokens (d :: b) = right :: rest ∧
      tokens (a ++ c :: d :: b) = front ++ (left ++ right) :: rest := by
  obtain ⟨front, left, hleft⟩ := exists_tokens_append_of_letter hc a
  have hright : headAndTokens (d :: b) = (d :: (headAndTokens b).1, (headAndTokens b).2) := by
    simp [headAndTokens, hd]
  refine ⟨front, left, d :: (headAndTokens b).1, (headAndTokens b).2, ?_, ?_, ?_⟩
  · simpa [headAndTokens] using hleft []
  · simp [tokens, consWord, hright]
  · rw [hleft, hright]

end Join

/-- What a reader from left to right has found: the tokens that are finished, and the word under
way. -/
structure Scan where
  finished : List Text
  word : Text

namespace Scan

def start : Scan :=
  ⟨[], []⟩

/-- The tokens found where the word under way ends. -/
def flush (r : Scan) : List Text :=
  if r.word.isEmpty then r.finished else r.finished ++ [r.word]

def step (r : Scan) (c : Char) : Scan :=
  match kind c with
  | .single => ⟨r.flush ++ [[c]], []⟩
  | .letter => { r with word := r.word ++ [c] }
  | .gap => ⟨r.flush, []⟩
  | .symbol => ⟨r.flush ++ [codeWord c], []⟩

lemma step_letter {c : Char} (hc : kind c = .letter) (r : Scan) :
    r.step c = ⟨r.finished, r.word ++ [c]⟩ := by
  simp [step, hc]

lemma step_cut {c : Char} (hc : kind c ≠ .letter) (r : Scan) :
    r.step c = ⟨r.flush ++ tokens [c], []⟩ := by
  cases h : kind c with
  | letter => exact absurd h hc
  | single | gap | symbol => simp [step, tokens, headAndTokens, consWord, h]

/-- The word under way is the run of letters in which the text read so far ends, and the tokens of
what stands before it are finished. -/
structure Covers (r : Scan) (s : Text) : Prop where
  letters : ∀ c ∈ r.word, kind c = .letter
  finished : ∃ front, s = front ++ r.word ∧ (∀ c ∈ front.getLast?, kind c ≠ .letter) ∧
    r.finished = tokens front

variable {r : Scan} {s : Text}

lemma covers_start : start.Covers [] where
  letters := by simp [start]
  finished := ⟨[], rfl, by simp, rfl⟩

lemma Covers.flush_eq (h : r.Covers s) : r.flush = tokens s := by
  obtain ⟨front, rfl, hfront, hfinished⟩ := h.finished
  rw [tokens_append_of_getLast? hfront, flush, hfinished]
  by_cases hne : r.word = []
  · simp [hne, tokens, headAndTokens, consWord]
  · simp [hne, tokens_of_isToken (.inr ⟨hne, h.letters⟩)]

lemma Covers.step (h : r.Covers s) (c : Char) : (r.step c).Covers (s ++ [c]) := by
  by_cases hc : kind c = .letter
  · obtain ⟨front, rfl, hfront, hfinished⟩ := h.finished
    rw [step_letter hc]
    exact ⟨List.forall_mem_append.mpr ⟨h.letters, List.forall_mem_singleton.mpr hc⟩,
      front, List.append_assoc .., hfront, hfinished⟩
  · rw [step_cut hc, h.flush_eq]
    refine ⟨by simp, s ++ [c], by simp, by simpa using hc, ?_⟩
    simpa using (tokens_cut hc s []).symm

lemma covers_foldl (s : Text) : (s.foldl Scan.step start).Covers s := by
  induction s using List.reverseRecOn with
  | nil => exact covers_start
  | append_singleton s c ih =>
    rw [List.foldl_append, List.foldl_cons, List.foldl_nil]
    exact ih.step c

end Scan

/-- Segmentation is stable and compositional. A reader from left to right, with the word under way
kept apart, finds the tokens of a text. Each of them is a CJK character or a word, and a segmented
text has the tokens that it was made of. A text can be cut at any character that does not join
words, so that each piece of a text that is cut in this way has a run of its tokens; where two
characters that join words meet, the tokens beside that place become one. -/
theorem tokens_stable_and_compositional :
    (∀ s : Text, (s.foldl Scan.step Scan.start).flush = tokens s) ∧
    (∀ s, ∀ w ∈ tokens s,
      (∃ c, isCjk c = true ∧ w = [c]) ∨ (w ≠ [] ∧ ∀ c ∈ w, JoinsWords c)) ∧
    (∀ s, tokens (segment s) = tokens s ∧ segment (segment s) = segment s) ∧
    (∀ (a : Text) (c : Char) (b : Text), ¬JoinsWords c →
      tokens (a ++ c :: b) = tokens a ++ tokens [c] ++ tokens b) ∧
    (∀ (first : Text) (cuts : List (Char × Text)), (∀ cut ∈ cuts, ¬JoinsWords cut.1) →
      ∀ piece ∈ first :: cuts.map Prod.snd, tokens piece <:+: tokens (reassemble first cuts)) ∧
    ∀ (a : Text) (c d : Char) (b : Text), JoinsWords c → JoinsWords d →
      ∃ front left right rest, tokens (a ++ [c]) = front ++ [left] ∧
        tokens (d :: b) = right :: rest ∧
        tokens (a ++ c :: d :: b) = front ++ (left ++ right) :: rest := by
  refine ⟨fun s => (Scan.covers_foldl s).flush_eq, fun s w hw => ?_, fun s => ?_,
    fun a c b hc => ?_, fun first cuts hcuts piece hpiece => ?_, fun a c d b hc hd => ?_⟩
  · exact (isToken_of_mem_tokens hw).cjk_or_joinsWords
  · exact ⟨tokens_segment s, segment_segment s⟩
  · exact tokens_cut (kind_ne_letter hc) a b
  · exact tokens_infix_of_mem_pieces (fun cut hcut => kind_ne_letter (hcuts cut hcut)) hpiece
  · exact tokens_join (kind_eq_letter_iff.mpr hc) (kind_eq_letter_iff.mpr hd) a b

/-- A sign that is no letter becomes a word of its own, also right behind one and right before one.
The comma leaves no token, and a digit goes on a word but not a CJK character. -/
theorem tokens_stable_and_compositional_mixed :
    let first : Text := "禁ads".toList
    let cuts : List (Char × Text) := [('🈲', "here".toList), (',', " 2nd龙x1".toList)]
    let whole : Text := "禁ads🈲here, 2nd龙x1".toList
    (∀ cut ∈ cuts, ¬JoinsWords cut.1) ∧ JoinsWords 'x' ∧ JoinsWords '1' ∧
      reassemble first cuts = whole ∧
      tokens whole = ["禁".toList, "ads".toList, "u1f232".toList, "here".toList, "2nd".toList,
        "龙".toList, "x1".toList] ∧
      (∀ piece ∈ first :: cuts.map Prod.snd, tokens piece <:+: tokens whole) ∧
      tokens "禁ads🈲here".toList = tokens first ++ tokens ['🈲'] ++ tokens "here".toList ∧
      ∃ front left right rest, tokens "龙x".toList = front ++ [left] ∧
        tokens ['1'] = right :: rest ∧ tokens "龙x1".toList = front ++ (left ++ right) :: rest := by
  intro first cuts whole
  obtain ⟨-, -, -, hcut, hpieces, hjoin⟩ := tokens_stable_and_compositional
  have hcuts : ∀ cut ∈ cuts, ¬JoinsWords cut.1 := by decide +kernel
  have hwhole : reassemble first cuts = whole := by decide
  have hx : JoinsWords 'x' := by decide
  have h1 : JoinsWords '1' := by decide
  refine ⟨hcuts, hx, h1, hwhole, by decide +kernel, ?_, ?_, ?_⟩
  · rw [← hwhole]
    exact hpieces first cuts hcuts
  · exact hcut first '🈲' "here".toList (by decide +kernel)
  · exact hjoin ['龙'] 'x' '1' [] hx h1

end ForumSearch.Index
