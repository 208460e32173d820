import ForumSearch.Index.Term
import ForumSearch.Proofs.Index.Segmentation
import ForumSearch.Proofs.Text.Split
import ForumSearch.Proofs.Text.Trim

/-!
# Stretches of a text

A stretch of a text with no letter beside it is segmented as it is in the whole text. What trimming
leaves of a text and the pieces between separators are such stretches. Where a text goes on, only
its last token may change, and it goes on as well; the analyzer of the store does the same to the
pieces of a token.
-/

namespace ForumSearch.Index

/-- A stretch of a text with no letter beside it. -/
def Apart (s t : Text) : Prop :=
  ∃ before after, t = before ++ (s ++ after) ∧ (∀ c ∈ before.getLast?, kind c ≠ .letter) ∧
    ∀ c ∈ after.head?, kind c ≠ .letter

lemma Apart.isInfix {s t : Text} (h : Apart s t) : s <:+: t := by
  obtain ⟨before, after, rfl, -, -⟩ := h
  exact ⟨before, after, by simp⟩

lemma Apart.trans {r s t : Text} (hrs : Apart r s) (hst : Apart s t) : Apart r t := by
  obtain ⟨b, a, rfl, hb, ha⟩ := hrs
  obtain ⟨before, after, rfl, hbefore, hafter⟩ := hst
  refine ⟨before ++ b, a ++ after, by simp, ?_, ?_⟩
  · rcases List.eq_nil_or_concat' b with rfl | ⟨b, c, rfl⟩
    · simpa using hbefore
    · simpa using hb
  · cases a with
    | nil => simpa using hafter
    | cons c a => simpa using ha

lemma apart_trim (s : Text) : Apart s.trim s := by
  obtain ⟨left, right, hs, hleft, hright⟩ := Text.exists_trim s
  have hgap {c : Char} (hc : Text.isBlank c = true) : kind c ≠ .letter := by
    rw [kind_of_isBlank hc]
    decide
  exact ⟨left, right, hs, fun c hc => hgap (hleft c (List.mem_of_getLast? hc)),
    fun c hc => hgap (hright c (List.mem_of_head? hc))⟩

lemma apart_of_mem_splitAtEach {sep : Char → Bool} (hsep : ∀ c, sep c = true → kind c ≠ .letter)
    {s x : Text} (hx : x ∈ Text.splitAtEach sep s) : Apart x s := by
  rcases Text.forall_or_exists_append_cons sep s with hs | ⟨piece, c, rest, rfl, hpiece, hc⟩
  · rw [Text.splitAtEach_of_forall hs, List.mem_singleton] at hx
    exact ⟨[], [], by simp [hx], by simp, by simp⟩
  · rw [Text.splitAtEach_append_cons hc, Text.splitAtEach_of_forall hpiece] at hx
    rcases List.mem_cons.mp hx with rfl | hx
    · exact ⟨[], c :: rest, rfl, by simp, by simpa using hsep c hc⟩
    · have hrest : Apart rest (piece ++ c :: rest) :=
        ⟨piece ++ [c], [], by simp, by simpa using hsep c hc, by simp⟩
      exact (apart_of_mem_splitAtEach hsep hx).trans hrest
termination_by s.length

lemma headAndTokens_fst {t : Text} (ht : ∀ c ∈ t.head?, kind c ≠ .letter) :
    (headAndTokens t).1 = [] := by
  cases t with
  | nil => rfl
  | cons c t =>
    have hc : kind c ≠ .letter := ht c rfl
    rw [headAndTokens]
    cases h : kind c with
    | letter => exact absurd h hc
    | single | gap | symbol => rfl

lemma tokens_cons {c : Char} (hc : kind c ≠ .letter) (s : Text) :
    tokens (c :: s) = tokens [c] ++ tokens s := by
  cases h : kind c with
  | letter => exact absurd h hc
  | single | gap | symbol => simp [tokens, headAndTokens, consWord, h]

/-- At a character that is no letter a text is cut, and the tokens stand side by side. -/
lemma tokens_cut {c : Char} (hc : kind c ≠ .letter) (s t : Text) :
    tokens (s ++ c :: t) = tokens s ++ tokens [c] ++ tokens t := by
  have hhead : (headAndTokens (c :: t)).1 = [] := headAndTokens_fst (by simpa using hc)
  rw [tokens_append s (c :: t) hhead, tokens_cons hc, List.append_assoc]

lemma tokens_append_of_getLast? {s : Text} (hs : ∀ c ∈ s.getLast?, kind c ≠ .letter) (t : Text) :
    tokens (s ++ t) = tokens s ++ tokens t := by
  rcases List.eq_nil_or_concat' s with rfl | ⟨s, c, rfl⟩
  · rfl
  · have hc : kind c ≠ .letter := by simpa using hs
    rw [List.append_assoc, List.singleton_append, tokens_cut hc s t, tokens_cut hc s [],
      tokens_nil, List.append_nil]

/-- A stretch with no letter beside it gives a run of the tokens of the text. -/
theorem tokens_infix_of_apart {s t : Text} (h : Apart s t) : tokens s <:+: tokens t := by
  obtain ⟨before, after, rfl, hbefore, hafter⟩ := h
  refine ⟨tokens before, tokens after, ?_⟩
  rw [tokens_append_of_getLast? hbefore, tokens_append _ _ (headAndTokens_fst hafter),
    List.append_assoc]

/-- A text ends in a run of letters, which is empty if it does not end in a letter. -/
lemma exists_append_letters (s : Text) : ∃ front word, s = front ++ word ∧
    (∀ c ∈ front.getLast?, kind c ≠ .letter) ∧ ∀ c ∈ word, kind c = .letter := by
  induction s using List.reverseRecOn with
  | nil => exact ⟨[], [], rfl, by simp, by simp⟩
  | append_singleton s c ih =>
    obtain ⟨front, word, rfl, hfront, hword⟩ := ih
    by_cases hc : kind c = .letter
    · refine ⟨front, word ++ [c], by simp, hfront, ?_⟩
      exact List.forall_mem_append.mpr ⟨hword, List.forall_mem_singleton.mpr hc⟩
    · exact ⟨front ++ word ++ [c], [], by simp, by simpa using hc, by simp⟩

/-- Where a text goes on, its last token may go on too, and the ones before it stay. -/
theorem tokens_append_of_last {s : Text} {init : List Text} {last : Text}
    (h : tokens s = init ++ [last]) (x : Text) :
    ∃ last' rest, tokens (s ++ x) = init ++ last' :: rest ∧ last <+: last' := by
  obtain ⟨front, word, rfl, hfront, hword⟩ := exists_append_letters s
  rw [tokens_append_of_getLast? hfront] at h
  rw [List.append_assoc, tokens_append_of_getLast? hfront]
  by_cases hne : word = []
  · subst hne
    rw [tokens_nil, List.append_nil] at h
    exact ⟨last, tokens x, by rw [h]; simp, List.prefix_rfl⟩
  · rw [tokens_of_isToken (.inr ⟨hne, hword⟩)] at h
    obtain ⟨rfl, hlast⟩ := List.append_inj' h rfl
    obtain rfl := List.singleton_inj.mp hlast
    exact ⟨word ++ (headAndTokens x).1, (headAndTokens x).2, by rw [tokens_letters hne hword],
      List.prefix_append _ _⟩

/-- A run of the tokens of a text stands in any continuation of the text, but its last token may go
on there. -/
theorem tokens_append_of_run {s : Text} {before run after : List Text} {last : Text}
    (h : tokens s = before ++ (run ++ [last] ++ after)) (x : Text) :
    ∃ last' rest, tokens (s ++ x) = before ++ (run ++ last' :: rest) ∧ last <+: last' := by
  rcases List.eq_nil_or_concat' after with rfl | ⟨after, final, rfl⟩
  · have hrun : tokens s = (before ++ run) ++ [last] := by simp [h]
    obtain ⟨last', rest, hx, hlast⟩ := tokens_append_of_last hrun x
    exact ⟨last', rest, by rw [hx, List.append_assoc], hlast⟩
  · have hrun : tokens s = (before ++ (run ++ last :: after)) ++ [final] := by simp [h]
    obtain ⟨final', rest, hx, -⟩ := tokens_append_of_last hrun x
    exact ⟨last, after ++ final' :: rest, by simp [hx], List.prefix_rfl⟩

/-- An analyzer reads a token from left to right: where a token goes on, the last of its terms may
go on too, and the ones before it stay. -/
def Incremental (keep : Analyzer) : Prop :=
  ∀ (w x : Text) (front : List Text) (last : Text), keep w = front ++ [last] →
    ∃ last' rest, keep (w ++ x) = front ++ last' :: rest ∧ last <+: last'

/-- Where a text goes on, its last piece goes on, and the ones before it stay. -/
lemma splitAtEach_append (p : Char → Bool) (s : Text) :
    ∃ front last, Text.splitAtEach p s = front ++ [last] ∧
      ∀ x, ∃ piece pieces, Text.splitAtEach p (s ++ x) = front ++ (last ++ piece) :: pieces := by
  induction s with
  | nil =>
    refine ⟨[], [], rfl, fun x => ?_⟩
    cases h : Text.splitAtEach p x with
    | nil => exact absurd h (Text.splitAtEach_ne_nil p x)
    | cons piece pieces => exact ⟨piece, pieces, h⟩
  | cons c s ih =>
    obtain ⟨front, last, hs, hx⟩ := ih
    by_cases hc : p c = true
    · refine ⟨[] :: front, last, by simp [Text.splitAtEach, hc, hs], fun x => ?_⟩
      obtain ⟨piece, pieces, hx⟩ := hx x
      exact ⟨piece, pieces, by simp [Text.splitAtEach, hc, hx]⟩
    · cases front with
      | nil =>
        refine ⟨[], c :: last, by simp [Text.splitAtEach, hc, hs], fun x => ?_⟩
        obtain ⟨piece, pieces, hx⟩ := hx x
        exact ⟨piece, pieces, by simp [Text.splitAtEach, hc, hx]⟩
      | cons first front =>
        refine ⟨(c :: first) :: front, last, by simp [Text.splitAtEach, hc, hs], fun x => ?_⟩
        obtain ⟨piece, pieces, hx⟩ := hx x
        exact ⟨piece, pieces, by simp [Text.splitAtEach, hc, hx]⟩

lemma incremental_standard : Incremental standard := by
  intro w x front last h
  obtain ⟨init, final, hw, hx⟩ := splitAtEach_append isBreak w
  obtain ⟨piece, rest, hx⟩ := hx x
  unfold standard pieces at h ⊢
  rw [hw, List.filter_append, List.map_append] at h
  rw [hx, List.filter_append, List.map_append]
  by_cases hne : final = []
  · subst hne
    have hfront : ((init.filter fun piece => !piece.isEmpty).map Text.foldText) =
        front ++ [last] := by simpa using h
    rw [hfront, List.append_assoc]
    exact ⟨last, _, rfl, List.prefix_rfl⟩
  · have hkept : [final].filter (fun piece => !piece.isEmpty) = [final] := by simp [hne]
    have hkept' : ((final ++ piece) :: rest).filter (fun piece => !piece.isEmpty) =
        (final ++ piece) :: rest.filter fun piece => !piece.isEmpty := by simp [hne]
    rw [hkept, List.map_singleton] at h
    obtain ⟨rfl, hlast⟩ := List.append_inj' h rfl
    obtain rfl := List.singleton_inj.mp hlast
    rw [hkept', List.map_cons]
    exact ⟨_, _, rfl, (List.prefix_append final piece).map Text.fold⟩

end ForumSearch.Index
