import ForumSearch.Proofs.Index.Exclusion

/-!
# Match texts

The index is given a text, put together from what was typed. Whatever that was, the text is a
sentence of the match language, in its quotes stand tokens, and it is read as the tree that was
meant.
-/

namespace ForumSearch

namespace Index

/-- What can stand in quotes: words of CJK characters, letters and digits, with single spaces
between them. -/
structure Quotable (inner : Text) : Prop where
  nonempty : inner ≠ []
  words : ∀ w ∈ Text.splitAtEach (· = ' ') inner,
    w ≠ [] ∧ ∀ c ∈ w, isCjk c = true ∨ Text.isAlphanumeric c = true
  no_quote : '"' ∉ inner

def inQuotes (inner : Text) : Text :=
  '"' :: inner ++ ['"']

/-- The match language. -/
inductive Sentence : Text → Prop where
  | phrase {inner : Text} (h : Quotable inner) : Sentence (inQuotes inner)
  | starting {inner : Text} (h : Quotable inner) : Sentence (inQuotes inner ++ ['*'])
  | both {l r : Text} (hl : Sentence l) (hr : Sentence r) : Sentence (l ++ ' ' :: r)
  | parens {s : Text} (h : Sentence s) : Sentence ('(' :: s ++ [')'])
  | either {l r : Text} (hl : Sentence l) (hr : Sentence r) :
    Sentence (l ++ [' ', 'O', 'R', ' '] ++ r)
  | without {l r : Text} (hl : Sentence l) (hr : Sentence r) :
    Sentence (l ++ [' ', 'N', 'O', 'T', ' '] ++ r)
  | near {l r : Text} (hl : Quotable l) (hr : Quotable r) (window : Nat) :
    Sentence (['N', 'E', 'A', 'R', '('] ++ inQuotes l ++ ' ' :: inQuotes r ++ [',', ' '] ++
      Text.ofNat window ++ [')'])

/-- A list of tokens that a quoted text can be made of. -/
def IsPhrase (words : List Text) : Prop :=
  words ≠ [] ∧ ∀ w ∈ words, IsToken w

lemma isPhrase_tokens {s : Text} (h : tokens s ≠ []) : IsPhrase (tokens s) :=
  ⟨h, fun _ hw => isToken_of_mem_tokens hw⟩

lemma IsToken.cjk_or_alphanumeric {w : Text} (hw : IsToken w) :
    ∀ c ∈ w, isCjk c = true ∨ Text.isAlphanumeric c = true := by
  rcases hw with ⟨c, hc, rfl⟩ | ⟨-, hw⟩
  · exact List.forall_mem_singleton.mpr (.inl (kind_eq_single_iff.mp hc))
  · exact fun c hc => .inr (kind_eq_letter_iff.mp (hw c hc)).2

lemma IsPhrase.quotable {words : List Text} (h : IsPhrase words) :
    Quotable (quotedText words) := by
  have hplain : ∀ w ∈ words, IsPlain w := fun w hw => isPlain_of_isToken (h.2 w hw)
  have hsplit := splitAtEach_quotedText h.1 hplain
  refine ⟨?_, ?_, quote_not_mem_quotedText hplain⟩
  · intro hnil
    rw [hnil] at hsplit
    exact (hplain [] (hsplit ▸ List.mem_singleton_self [])).1 rfl
  · rw [hsplit]
    exact fun w hw => ⟨(hplain w hw).1, (h.2 w hw).cjk_or_alphanumeric⟩

namespace Expression

/-- What is written in quotes in an expression. -/
def phrases : Expression → List (List Text)
  | .phrase words => [words]
  | .starting words => [words]
  | .both l r => l.phrases ++ r.phrases
  | .either l r => l.phrases ++ r.phrases
  | .without l r => l.phrases ++ r.phrases
  | .near l r _ => [l, r]
  | .parens e => e.phrases

/-- An expression without its parentheses, the tree they were for. -/
def bare : Expression → Expression
  | .phrase words => .phrase words
  | .starting words => .starting words
  | .both l r => .both l.bare r.bare
  | .either l r => .either l.bare r.bare
  | .without l r => .without l.bare r.bare
  | .near l r window => .near l r window
  | .parens e => e.bare

lemma phrases_bare (e : Expression) : e.bare.phrases = e.phrases := by
  induction e with
  | phrase words => rfl
  | starting words => rfl
  | near l r window => rfl
  | parens e ih => exact ih
  | both l r hl hr => simp [bare, phrases, hl, hr]
  | either l r hl hr => simp [bare, phrases, hl, hr]
  | without l r hl hr => simp [bare, phrases, hl, hr]

lemma joinLeft_map_bare (op : Expression → Expression → Expression)
    (hop : ∀ l r, (op l r).bare = op l.bare r.bare) (es : List Expression) :
    joinLeft op (es.map bare) = (joinLeft op es).map bare := by
  cases es with
  | nil => rfl
  | cons e es =>
    simp only [joinLeft, List.map_cons, Option.map_some, List.foldl_map, Option.some.injEq]
    exact List.foldl_hom bare fun l r => (hop l r).symm

lemma bare_of_joinLeft {op : Expression → Expression → Expression} {es : List Expression}
    {e : Expression} (h : joinLeft op es = some e)
    (hop : ∀ l r, (op l r).bare = op l.bare r.bare) (hes : ∀ x ∈ es, x.bare = x) :
    e.bare = e := by
  have hmap := joinLeft_map_bare op hop es
  rw [List.map_congr_left hes, List.map_id', h, Option.map_some] at hmap
  exact (Option.some.inj hmap).symm

lemma phrases_of_joinLeft {op : Expression → Expression → Expression} {es : List Expression}
    {e : Expression} (h : joinLeft op es = some e)
    (hop : ∀ l r, (op l r).phrases = l.phrases ++ r.phrases) :
    e.phrases = es.flatMap phrases := by
  induction h using joinLeft_induction with
  | one e => simp
  | more es l _ r ih => simp [hop, ih]

lemma sentence_text {e : Expression} (h : ∀ words ∈ e.phrases, IsPhrase words) :
    Sentence e.text := by
  induction e with
  | phrase words => exact .phrase (h words (List.mem_singleton_self _)).quotable
  | starting words => exact .starting (h words (List.mem_singleton_self _)).quotable
  | near l r window =>
    exact .near (h l (by simp [phrases])).quotable (h r (by simp [phrases])).quotable window
  | parens e ih => exact .parens (ih h)
  | both l r hl hr =>
    obtain ⟨hleft, hright⟩ := List.forall_mem_append.mp h
    exact .both (hl hleft) (hr hright)
  | either l r hl hr =>
    obtain ⟨hleft, hright⟩ := List.forall_mem_append.mp h
    exact .either (hl hleft) (hr hright)
  | without l r hl hr =>
    obtain ⟨hleft, hright⟩ := List.forall_mem_append.mp h
    exact .without (hl hleft) (hr hright)

lemma exists_of_quoted_mem_lexemes {e : Expression} {inner : Text}
    (h : .quoted inner ∈ e.lexemes) : ∃ words ∈ e.phrases, quotedText words = inner := by
  induction e with
  | phrase words => simpa [lexemes, phrases, eq_comm] using h
  | starting words => simpa [lexemes, phrases, eq_comm] using h
  | near l r window => simpa [lexemes, phrases, eq_comm] using h
  | parens e ih => exact ih (by simpa [lexemes] using h)
  | both l r hl hr =>
    simp only [lexemes, List.mem_append] at h
    simp only [phrases, List.mem_append, or_and_right, exists_or]
    exact h.imp hl hr
  | either l r hl hr =>
    simp only [lexemes, List.mem_append, List.mem_cons, reduceCtorEq, false_or] at h
    simp only [phrases, List.mem_append, or_and_right, exists_or]
    exact h.imp hl hr
  | without l r hl hr =>
    simp only [lexemes, List.mem_append, List.mem_cons, reduceCtorEq, false_or] at h
    simp only [phrases, List.mem_append, or_and_right, exists_or]
    exact h.imp hl hr

end Expression

open Expression

/-- A match text that cannot go wrong: it is a sentence, each lexeme in quotes is made of tokens,
and the tree it is read as, parentheses aside, is the one that is meant. -/
structure Understood (s : Text) (tree : Expression → Prop) : Prop where
  sentence : Sentence s
  quoted : ∃ ls, Lexeme.scan .between s = some ls ∧ ∀ inner, .quoted inner ∈ ls → Quotable inner
  read : ∃ e, read? s = some e ∧ tree e.bare

lemma understood_text {e : Expression} {tree : Expression → Prop} (hcanonical : Canonical .choice e)
    (hphrases : ∀ words ∈ e.bare.phrases, IsPhrase words) (htree : tree e.bare) :
    Understood e.text tree := by
  rw [phrases_bare] at hphrases
  refine ⟨sentence_text hphrases, ⟨e.lexemes, ?_, ?_⟩, e, read?_text hcanonical, htree⟩
  · have hscan := scan_text hcanonical [] (by simp)
    rw [List.append_nil, Lexeme.scan, Option.map_some, List.append_nil] at hscan
    exact hscan
  · intro inner hinner
    obtain ⟨words, hwords, rfl⟩ := exists_of_quoted_mem_lexemes hinner
    exact (hphrases words hwords).quotable

/-- The tree that a keyword means: its phrase, or its words side by side, of which the last may go
on. -/
inductive KeywordTree : Keyword → Expression → Prop where
  | exact {s : Text} (h : tokens s ≠ []) : KeywordTree (.exact s) (.phrase (tokens s))
  | starting {s : Text} {front : List Text} {last : Text} {e : Expression}
    (hwords : tokenWords s = front ++ [last])
    (h : joinLeft .both (front.map (fun w => .phrase (tokens w)) ++ [.starting (tokens last)]) =
      some e) : KeywordTree (.starting s) e

/-- The tree that an excluded word means: its phrase, but not near any marker that has tokens. -/
inductive WordTree (markers : List Text) : Text → Expression → Prop where
  | alone {word : Text} (hword : tokens word ≠ []) (h : ∀ m ∈ markers, tokens m = []) :
    WordTree markers word (.phrase (tokens word))
  | exempted {word : Text} {nears : Expression} (hword : tokens word ≠ [])
    (h : joinLeft .either ((markers.filter fun m => !(tokens m).isEmpty).map fun m =>
      .near (tokens word) (tokens m) 8) = some nears) :
    WordTree markers word (.without (.phrase (tokens word)) nears)

/-- The choice between the trees of the members that have tokens, in their order. -/
def ChoiceTree {α : Type} (text : α → Text) (tree : α → Expression → Prop) (members : List α)
    (e : Expression) : Prop :=
  ∃ trees, List.Forall₂ tree (members.filter fun a => !(tokens (text a)).isEmpty) trees ∧
    joinLeft .either trees = some e

section Choice

variable {α : Type} {text : α → Text} {tree : α → Expression → Prop}

lemma forall₂_filterMap {f : α → Option Expression} (hnone : ∀ a, f a = none ↔ tokens (text a) = [])
    (hsome : ∀ a e, f a = some e → tree a e) (members : List α) :
    List.Forall₂ tree (members.filter fun a => !(tokens (text a)).isEmpty)
      (members.filterMap f) := by
  induction members with
  | nil => exact .nil
  | cons a members ih =>
    cases hf : f a with
    | none =>
      have hvoid := (hnone a).mp hf
      simpa [hf, hvoid] using ih
    | some e =>
      have hne : tokens (text a) ≠ [] := by
        intro hvoid
        rw [(hnone a).mpr hvoid] at hf
        exact absurd hf (by simp)
      simpa [hf, hne] using And.intro (hsome a e hf) ih

lemma ChoiceTree.isPhrase {members : List α} {e : Expression}
    (h : ChoiceTree text tree members e)
    (htree : ∀ a e, tree a e → ∀ words ∈ e.phrases, IsPhrase words) :
    ∀ words ∈ e.phrases, IsPhrase words := by
  obtain ⟨trees, htrees, hjoined⟩ := h
  have hmember : ∀ x ∈ trees, ∃ a, tree a x := by
    clear hjoined
    generalize members.filter _ = withTokens at htrees
    induction htrees with
    | nil => exact fun _ hx => absurd hx List.not_mem_nil
    | cons hax _ ih => exact List.forall_mem_cons.mpr ⟨⟨_, hax⟩, ih⟩
  rw [phrases_of_joinLeft hjoined fun _ _ => rfl]
  intro words hwords
  obtain ⟨x, hx, hwords⟩ := List.mem_flatMap.mp hwords
  obtain ⟨a, hax⟩ := hmember x hx
  exact htree a x hax words hwords

end Choice

section Keywords

lemma bare_keywordExpression {k : Keyword} {e : Expression} (h : keywordExpression k = some e) :
    e.bare = e := by
  rcases keywordExpression_cases h with ⟨s, -, -, rfl⟩ | ⟨s, front, last, -, -, h⟩
  · rfl
  · refine bare_of_joinLeft h (fun _ _ => rfl) ?_
    simp only [List.forall_mem_append, List.forall_mem_map, List.forall_mem_singleton]
    exact ⟨fun _ _ => rfl, rfl⟩

lemma keywordTree {k : Keyword} {e : Expression} (h : keywordExpression k = some e) :
    KeywordTree k e := by
  rcases keywordExpression_cases h with ⟨s, rfl, hne, rfl⟩ | ⟨s, front, last, rfl, hwords, h⟩
  · exact .exact hne
  · exact .starting hwords h

lemma KeywordTree.isPhrase {k : Keyword} {e : Expression} (h : KeywordTree k e) :
    ∀ words ∈ e.phrases, IsPhrase words := by
  cases h with
  | exact hne => exact List.forall_mem_singleton.mpr (isPhrase_tokens hne)
  | @starting s front last _ hwords h =>
    have hsome : ∀ w ∈ front ++ [last], IsPhrase (tokens w) := by
      intro w hw
      exact isPhrase_tokens (tokens_ne_nil_of_mem (hwords ▸ hw))
    have hphrases : e.phrases = (front ++ [last]).map tokens := by
      rw [phrases_of_joinLeft h fun _ _ => rfl]
      simp [phrases, List.flatMap_map, ← List.map_eq_flatMap]
    rw [hphrases]
    exact List.forall_mem_map.mpr hsome

/-- With the parentheses of its compound alternatives away, a group is a choice of keywords. -/
lemma choiceTree_groupExpression {group : Keyword.Group} {e : Expression}
    (h : groupExpression group = some e) : ChoiceTree Keyword.text KeywordTree group e.bare := by
  refine ⟨group.filterMap keywordExpression,
    forall₂_filterMap keywordExpression_eq_none_iff (fun _ _ => keywordTree) group, ?_⟩
  rcases groupExpression_cases h with hone | ⟨choice, hchoice, rfl⟩
  · obtain ⟨k, -, hk⟩ := List.mem_filterMap.mp (hone ▸ List.mem_singleton_self e)
    rw [hone, bare_keywordExpression hk]
    rfl
  · -- An alternative is its keyword's expression, perhaps in parentheses.
    have halternatives : (group.filterMap alternative).map bare =
        group.filterMap keywordExpression := by
      rw [List.map_filterMap]
      refine List.filterMap_congr fun k _ => ?_
      unfold alternative
      cases hk : keywordExpression k with
      | none => rfl
      | some e =>
        have hbare := bare_keywordExpression hk
        by_cases hc : isCompound k = true
        · simpa [hc, bare] using hbare
        · simpa [hc] using hbare
    rw [← halternatives, joinLeft_map_bare .either fun _ _ => rfl, hchoice]
    rfl

lemma understood_groupExpression {group : Keyword.Group} {e : Expression}
    (h : groupExpression group = some e) :
    Understood e.text (ChoiceTree Keyword.text KeywordTree group) :=
  have htree := choiceTree_groupExpression h
  understood_text (canonical_groupExpression h) (htree.isPhrase fun _ _ => KeywordTree.isPhrase)
    htree

end Keywords

section Words

variable {word : Text} {words markers : List Text} {e : Expression}

lemma wordTree_exclusionExpression (h : exclusionExpression word markers 8 = some e) :
    WordTree markers word e.bare := by
  have hword : tokens word ≠ [] := by
    intro hvoid
    rw [(exclusionExpression_eq_none_iff word markers 8).mpr hvoid] at h
    exact absurd h (by simp)
  rcases exclusionExpression_cases h with ⟨hnone, rfl⟩ | ⟨nears, hnears, rfl⟩
  · exact .alone hword (by simpa [List.filterMap_eq_nil_iff, phraseOf] using hnone)
  · have hbare : nears.bare = nears := by
      refine bare_of_joinLeft hnears (fun _ _ => rfl) ?_
      exact List.forall_mem_map.mpr fun _ _ => rfl
    rw [filterMap_phraseOf, List.map_map] at hnears
    have htree : (Expression.parens (.without (.phrase (tokens word)) (.parens nears))).bare =
        .without (.phrase (tokens word)) nears := congrArg _ hbare
    rw [htree]
    exact .exempted hword hnears

lemma WordTree.isPhrase (h : WordTree markers word e) : ∀ words ∈ e.phrases, IsPhrase words := by
  cases h with
  | alone hword h => exact List.forall_mem_singleton.mpr (isPhrase_tokens hword)
  | exempted hword h =>
    refine List.forall_mem_cons.mpr ⟨isPhrase_tokens hword, ?_⟩
    rw [phrases_of_joinLeft h fun _ _ => rfl]
    intro words hwords
    obtain ⟨x, hx, hwords⟩ := List.mem_flatMap.mp hwords
    obtain ⟨m, hm, rfl⟩ := List.mem_map.mp hx
    have hmarker : tokens m ≠ [] := by simpa using (List.mem_filter.mp hm).2
    rcases List.mem_pair.mp hwords with rfl | rfl
    · exact isPhrase_tokens hword
    · exact isPhrase_tokens hmarker

lemma choiceTree_exclusionChoice (h : exclusionChoice words markers 8 = some e) :
    ChoiceTree id (WordTree markers) words e.bare := by
  refine ⟨words.filterMap fun word => (exclusionExpression word markers 8).map bare, ?_, ?_⟩
  · refine forall₂_filterMap (fun word => ?_) (fun word x hx => ?_) words
    · rw [Option.map_eq_none_iff, exclusionExpression_eq_none_iff]
      rfl
    · obtain ⟨e, he, rfl⟩ := Option.map_eq_some_iff.mp hx
      exact wordTree_exclusionExpression he
  · rw [← List.map_filterMap, joinLeft_map_bare .either fun _ _ => rfl]
    exact congrArg (Option.map bare) h

lemma understood_exclusionChoice (h : exclusionChoice words markers 8 = some e) :
    Understood e.text (ChoiceTree id (WordTree markers) words) :=
  have htree := choiceTree_exclusionChoice h
  understood_text (canonical_exclusionChoice h) (htree.isPhrase fun _ _ => WordTree.isPhrase) htree

end Words

end Index

open Index

namespace Query

variable (q : Query) (tags : TagSnapshot)

lemma textMatches_mem_compile {e : Expression} :
    .textMatches e ∈ (q.compile tags).filter ↔
      ∃ group ∈ q.keywordGroups, groupExpression group = some e := by
  have htags : .textMatches e ∉ q.tagPredicates tags := by
    unfold tagPredicates
    cases q.tagLogic <;> simp [unlessEmpty]
  simp [compile, unlessEmpty, timePredicate, htags, exclusionPredicates_eq]

lemma textExcludes_mem_compile {e : Expression} :
    .textExcludes e ∈ (q.compile tags).filter ↔
      exclusionChoice q.excludeKeywords q.exemptionMarkers 8 = some e := by
  have hmem : .textExcludes e ∈ (q.compile tags).filter.filter Predicate.excludesText ↔
      .textExcludes e ∈ (q.compile tags).filter := by
    rw [List.mem_filter]
    exact and_iff_left rfl
  rw [← hmem, filter_excludesText, exclusionPredicates_eq]
  simp

/-- What is typed never acts as syntax. The match texts of a query are those of its groups that have
tokens and one for all of its excluded words that have tokens, and each is read as it was meant. -/
theorem matchTexts_understood :
    (∀ e, .textMatches e ∈ (q.compile tags).filter → ∃ group ∈ q.keywordGroups,
      Understood e.text (ChoiceTree Keyword.text KeywordTree group)) ∧
    (∀ group ∈ q.keywordGroups, (∃ k ∈ group, tokens k.text ≠ []) →
      ∃ e, .textMatches e ∈ (q.compile tags).filter ∧
        Understood e.text (ChoiceTree Keyword.text KeywordTree group)) ∧
    (∀ e, .textExcludes e ∈ (q.compile tags).filter →
      Understood e.text (ChoiceTree id (WordTree q.exemptionMarkers) q.excludeKeywords)) ∧
    ((∃ word ∈ q.excludeKeywords, tokens word ≠ []) →
      ∃ e, .textExcludes e ∈ (q.compile tags).filter) := by
  simp only [textMatches_mem_compile, textExcludes_mem_compile]
  refine ⟨?_, ?_, fun e he => understood_exclusionChoice he, ?_⟩
  · rintro e ⟨group, hgroup, he⟩
    exact ⟨group, hgroup, understood_groupExpression he⟩
  · rintro group hgroup ⟨k, hk, hne⟩
    have hsome : groupExpression group ≠ none := by
      intro hnone
      exact hne ((groupExpression_eq_none_iff group).mp hnone k hk)
    obtain ⟨e, he⟩ := Option.ne_none_iff_exists'.mp hsome
    exact ⟨e, ⟨group, hgroup, he⟩, understood_groupExpression he⟩
  · rintro ⟨word, hword, hne⟩
    refine Option.ne_none_iff_exists'.mp ?_
    intro hnone
    exact hne ((exclusionChoice_eq_none_iff _ _ 8).mp hnone word hword)

end Query

end ForumSearch
