import ForumSearch.Index.Compile
import ForumSearch.Proofs.Index.Matching
import ForumSearch.Proofs.Index.Reading
import ForumSearch.Proofs.Search.Texts

/-!
# Keywords in stored threads

What the match expression of a group of keywords asks of a thread, said of the tokens of the group
and of the thread. The analyzer of the index is a parameter: all that is used of it is that it makes
one term of a token, by some folding.
-/

namespace ForumSearch

def Keyword.text : Keyword → Text
  | .starting s => s
  | .exact s => s

namespace Index

/-- The words of a text that have tokens. -/
def tokenWords (s : Text) : List Text :=
  (Text.words s).filter fun w => !(tokens w).isEmpty

lemma isPlain_of_isToken {w : Text} (hw : IsToken w) : IsPlain w := by
  have hquote : kind '"' = .gap := by decide
  have hspace : kind ' ' = .gap := by decide
  have hne : ∀ c ∈ w, kind c ≠ .gap := by
    rcases hw with ⟨c, hc, rfl⟩ | ⟨-, hw⟩
    · simp [hc]
    · intro c hc
      simp [hw c hc]
  refine ⟨?_, fun c hc => ⟨?_, ?_⟩⟩
  · rcases hw with ⟨c, -, rfl⟩ | ⟨hw, -⟩
    · exact List.cons_ne_nil c []
    · exact hw
  · rintro rfl
    exact hne _ hc hquote
  · rintro rfl
    exact hne _ hc hspace

lemma isPlain_of_mem_tokens {s w : Text} (hw : w ∈ tokens s) : IsPlain w :=
  isPlain_of_isToken (isToken_of_mem_tokens hw)

lemma filterMap_phraseOf (texts : List Text) :
    texts.filterMap phraseOf = (texts.filter fun s => !(tokens s).isEmpty).map tokens := by
  induction texts with
  | nil => rfl
  | cons s texts ih =>
    by_cases h : tokens s = []
    · simp [phraseOf, h, ih]
    · simp [phraseOf, h, ih]

lemma wordPhrases_eq (s : Text) : wordPhrases s = (tokenWords s).map tokens :=
  filterMap_phraseOf (Text.words s)

lemma tokenWords_eq_nil_iff (s : Text) : tokenWords s = [] ↔ tokens s = [] := by
  rw [tokens_eq_flatMap_words, List.flatMap_eq_nil_iff]
  simp [tokenWords]

lemma tokens_eq_flatMap_tokenWords (s : Text) : tokens s = (tokenWords s).flatMap tokens := by
  rw [tokens_eq_flatMap_words, tokenWords]
  induction Text.words s with
  | nil => rfl
  | cons w ws ih =>
    by_cases h : tokens w = []
    · simp [h, ih]
    · simp [h, ih]

lemma tokens_ne_nil_of_mem {s w : Text} (hw : w ∈ tokenWords s) : tokens w ≠ [] := by
  simpa using (List.mem_filter.mp hw).2

/-- The last of the words that have tokens is the one that may go on. -/
lemma looseExpression_of_tokenWords {s : Text} {front : List Text} {last : Text}
    (h : tokenWords s = front ++ [last]) :
    looseExpression s = Expression.joinLeft .both
      (front.map (fun w => .phrase (tokens w)) ++ [.starting (tokens last)]) := by
  have hphrases : wordPhrases s = front.map tokens ++ [tokens last] := by
    rw [wordPhrases_eq, h, List.map_append, List.map_singleton]
  have hmap : (front.map tokens).map Expression.phrase =
      front.map fun w => .phrase (tokens w) := List.map_map
  unfold looseExpression
  rw [hphrases, List.getLast?_concat, List.dropLast_concat, hmap]

lemma looseExpression_eq_some {s : Text} {e : Expression} (h : looseExpression s = some e) :
    ∃ front last, tokenWords s = front ++ [last] ∧ Expression.joinLeft .both
      (front.map (fun w => .phrase (tokens w)) ++ [.starting (tokens last)]) = some e := by
  rcases List.eq_nil_or_concat' (tokenWords s) with hw | ⟨front, last, hw⟩
  · simp [looseExpression, wordPhrases_eq, hw] at h
  · rw [looseExpression_of_tokenWords hw] at h
    exact ⟨front, last, hw, h⟩

lemma keywordExpression_eq_none_iff (k : Keyword) :
    keywordExpression k = none ↔ tokens k.text = [] := by
  cases k with
  | exact s => simp [keywordExpression, phraseOf, Keyword.text]
  | starting s =>
    rw [keywordExpression, Keyword.text, ← tokenWords_eq_nil_iff]
    rcases List.eq_nil_or_concat' (tokenWords s) with h | ⟨front, last, h⟩
    · simp [looseExpression, wordPhrases_eq, h]
    · rw [looseExpression_of_tokenWords h, h]
      cases front <;> simp [Expression.joinLeft]

/-- An expression comes from a phrase, or from words of which the last may go on. -/
lemma keywordExpression_cases {k : Keyword} {e : Expression} (h : keywordExpression k = some e) :
    (∃ s, k = .exact s ∧ tokens s ≠ [] ∧ e = .phrase (tokens s)) ∨
      ∃ s front last, k = .starting s ∧ tokenWords s = front ++ [last] ∧
        Expression.joinLeft .both
          (front.map (fun w => .phrase (tokens w)) ++ [.starting (tokens last)]) = some e := by
  cases k with
  | exact s =>
    obtain ⟨words, hwords, rfl⟩ := Option.map_eq_some_iff.mp h
    unfold phraseOf at hwords
    split_ifs at hwords with hne
    obtain rfl := Option.some.inj hwords
    exact .inl ⟨s, rfl, by simpa using hne, rfl⟩
  | starting s =>
    obtain ⟨front, last, hw, h⟩ := looseExpression_eq_some h
    exact .inr ⟨s, front, last, rfl, hw, h⟩

lemma canonical_keywordExpression {k : Keyword} {e : Expression}
    (h : keywordExpression k = some e) : Canonical .row e := by
  have hplain (w : Text) : ∀ v ∈ tokens w, IsPlain v := fun _ => isPlain_of_mem_tokens
  rcases keywordExpression_cases h with ⟨s, -, -, rfl⟩ | ⟨s, front, last, -, -, h⟩
  · exact .ofItem (.phrase (hplain s))
  · refine canonical_joinLeft_both h ?_
    intro x hx
    rcases List.mem_append.mp hx with hx | hx
    · obtain ⟨w, -, rfl⟩ := List.mem_map.mp hx
      exact .phrase (hplain w)
    · rw [List.mem_singleton.mp hx]
      exact .starting (hplain last)

lemma mem_tokens_of_mem {s w v : Text} (hw : w ∈ tokenWords s) (hv : v ∈ tokens w) :
    v ∈ tokens s := by
  rw [tokens_eq_flatMap_tokenWords]
  exact List.mem_flatMap.mpr ⟨w, hw, hv⟩

section Holds

variable {keep : Analyzer} {fold : Text → Text} {doc : List Text}

lemma canonical_alternative {k : Keyword} {e : Expression} (h : alternative k = some e) :
    Canonical .difference e := by
  obtain ⟨e, he, rfl⟩ := Option.map_eq_some_iff.mp h
  have hrow := canonical_keywordExpression he
  by_cases hc : isCompound k = true
  · rw [if_pos hc]
    exact .ofRow (.ofItem (.parens (.ofDifference (.ofRow hrow))))
  · rw [if_neg hc]
    exact .ofRow hrow

lemma alternative_eq_none_iff (k : Keyword) : alternative k = none ↔ tokens k.text = [] := by
  rw [alternative, Option.map_eq_none_iff, keywordExpression_eq_none_iff]

/-- The expression of a group is that of its only alternative, or a choice in parentheses. -/
lemma groupExpression_cases {group : Keyword.Group} {e : Expression}
    (h : groupExpression group = some e) :
    group.filterMap keywordExpression = [e] ∨
      ∃ choice, Expression.joinLeft .either (group.filterMap alternative) = some choice ∧
        e = .parens choice := by
  unfold groupExpression at h
  split at h
  · exact absurd h (by simp)
  · next heq => exact .inl (heq.trans (congrArg ([·]) (Option.some.inj h)))
  · obtain ⟨choice, hchoice, rfl⟩ := Option.map_eq_some_iff.mp h
    exact .inr ⟨choice, hchoice, rfl⟩

lemma joinLeft_eq_none_iff (op : Expression → Expression → Expression) (es : List Expression) :
    Expression.joinLeft op es = none ↔ es = [] := by
  cases es <;> simp [Expression.joinLeft]

lemma groupExpression_eq_none_iff (group : Keyword.Group) :
    groupExpression group = none ↔ ∀ k ∈ group, tokens k.text = [] := by
  have hnil : group.filterMap keywordExpression = [] ↔ ∀ k ∈ group, tokens k.text = [] :=
    List.filterMap_eq_nil_iff.trans (forall₂_congr fun k _ => keywordExpression_eq_none_iff k)
  unfold groupExpression
  split
  · next h => exact iff_of_true rfl (hnil.mp h)
  · next e h =>
    refine iff_of_false (by simp) ?_
    intro hall
    rw [hnil.mpr hall] at h
    exact absurd h (by simp)
  · rw [Option.map_eq_none_iff, joinLeft_eq_none_iff, List.filterMap_eq_nil_iff]
    exact forall₂_congr fun k _ => alternative_eq_none_iff k

lemma canonical_groupExpression {group : Keyword.Group} {e : Expression}
    (h : groupExpression group = some e) : Canonical .choice e := by
  rcases groupExpression_cases h with hone | ⟨choice, hchoice, rfl⟩
  · obtain ⟨k, -, hk⟩ := List.mem_filterMap.mp (hone ▸ List.mem_singleton_self e)
    exact .ofDifference (.ofRow (canonical_keywordExpression hk))
  · refine .ofDifference (.ofRow (.ofItem (.parens (canonical_joinLeft_either hchoice ?_))))
    intro x hx
    obtain ⟨k, -, hk⟩ := List.mem_filterMap.mp hx
    exact canonical_alternative hk

/-- Texts without tokens drop out of a choice. -/
lemma exists_mem_filterMap_iff {α : Type} {f : α → Option Expression} {text : α → Text}
    {wanted : α → Prop} {l : List α} (hnone : ∀ a, f a = none ↔ tokens (text a) = [])
    (hholds : ∀ a ∈ l, tokens (text a) ≠ [] → ∀ x, f a = some x →
      (holds keep doc x = true ↔ wanted a)) :
    (∃ x ∈ l.filterMap f, holds keep doc x = true) ↔
      ∃ a ∈ l, tokens (text a) ≠ [] ∧ wanted a := by
  constructor
  · rintro ⟨x, hx, hx'⟩
    obtain ⟨a, ha, hax⟩ := List.mem_filterMap.mp hx
    have hsome : tokens (text a) ≠ [] := by
      intro hnil
      rw [(hnone a).mpr hnil] at hax
      exact absurd hax (by simp)
    exact ⟨a, ha, hsome, (hholds a ha hsome x hax).mp hx'⟩
  · rintro ⟨a, ha, hsome, hwanted⟩
    obtain ⟨x, hx⟩ := Option.ne_none_iff_exists'.mp ((hnone a).not.mpr hsome)
    exact ⟨x, List.mem_filterMap.mpr ⟨a, ha, hx⟩, (hholds a ha hsome x hx).mpr hwanted⟩

end Holds

end Index

namespace Store

open Index

end Store

end ForumSearch
