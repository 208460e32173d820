import ForumSearch.Proofs.Index.Keyword
import ForumSearch.Proofs.Index.Stretch
import ForumSearch.Proofs.Query.FreeText

/-!
# Searching for a title

A search for the title of a thread finds the thread. The box cuts the title off, perhaps inside a
word, and takes it apart at separators and blanks, while the index segments the whole title. Each
keyword is a stretch of what was left of the title with no letter beside it, so it stands in the
index, and only a word that was cut goes on there.
-/

namespace ForumSearch

open Index

lemma Keyword.parse_eq_some {raw : Text} {k : Keyword} (hquote : '"' ∉ raw)
    (h : Keyword.parse raw = some k) : k = .starting raw.trim := by
  have hhead : raw.trim.head? ≠ some '"' := by
    intro hhead
    exact hquote ((Text.isInfix_trim raw).subset (List.mem_of_head? hhead))
  unfold Keyword.parse at h
  simp only [hhead, false_and, and_false, if_false] at h
  split_ifs at h
  exact (Option.some.inj h).symm

namespace Index

/-- Without quotes, each keyword asks for the beginning of a word in a stretch of the text. -/
lemma apart_of_mem_parseGroups {s : Text} (hquote : '"' ∉ s) {group : Keyword.Group}
    (hgroup : group ∈ Keyword.parseGroups s) {k : Keyword} (hk : k ∈ group) :
    ∃ x, k = .starting x ∧ Apart x s := by
  have hcomma : ∀ c, Keyword.isComma c = true → kind c ≠ .letter := by
    intro c hc
    rcases (by simpa [Keyword.isComma] using hc : c = ',' ∨ c = '，') with rfl | rfl <;>
      decide +kernel
  have hslash : ∀ c, Keyword.isSlash c = true → kind c ≠ .letter := by
    intro c hc
    rcases (by simpa [Keyword.isSlash] using hc : c = '/' ∨ c = '／') with rfl | rfl <;>
      decide +kernel
  obtain ⟨part, hpart, rfl⟩ := List.mem_map.mp (List.mem_filter.mp hgroup).1
  obtain ⟨raw, hraw, hk⟩ := List.mem_filterMap.mp hk
  have hapart : Apart raw s :=
    (apart_of_mem_splitAtEach hslash hraw).trans (apart_of_mem_splitAtEach hcomma hpart)
  refine ⟨raw.trim, Keyword.parse_eq_some (fun h => hquote (hapart.isInfix.subset h)) hk, ?_⟩
  exact (apart_trim raw).trans hapart

lemma terms_ne_nil {keep : Analyzer} {words : List Text} (hne : words ≠ [])
    (hkept : ∀ w ∈ words, keep w ≠ []) : terms keep words ≠ [] := by
  obtain ⟨w, hw⟩ := List.exists_mem_of_ne_nil words hne
  intro hnil
  exact hkept w hw (List.flatMap_eq_nil_iff.mp hnil w hw)

/-- The words of a stretch are a run in every text that goes on from the one it stands in, except
that the last of their tokens may go on. -/
lemma tokens_append_of_apart {s t : Text} (hs : Apart s t) {front : List Text} {word : Text}
    (hw : tokenWords s = front ++ [word]) (x : Text) :
    ∃ init last before last' rest, tokens word = init ++ [last] ∧ last <+: last' ∧
      tokens (t ++ x) = before ++ (front.flatMap tokens ++ init ++ last' :: rest) := by
  have hword : tokens word ≠ [] := tokens_ne_nil_of_mem (s := s) (by simp [hw])
  obtain ⟨init, last, hlast⟩ := (List.eq_nil_or_concat' (tokens word)).resolve_left hword
  obtain ⟨before, after, ht⟩ := tokens_infix_of_apart hs
  have hrun : tokens t = before ++ (front.flatMap tokens ++ init ++ [last] ++ after) := by
    rw [← ht, tokens_eq_flatMap_tokenWords s, hw]
    simp [hlast]
  obtain ⟨last', rest, htx, hprefix⟩ := tokens_append_of_run hrun x
  exact ⟨init, last, before, last', rest, hlast, hprefix, htx⟩

/-- The keyword of a stretch holds of every text that goes on from the one it stands in. -/
lemma holds_starting_of_apart {keep : Analyzer} (hinc : Incremental keep) {s t : Text}
    (hs : Apart s t) (hkept : ∀ w ∈ tokens s, keep w ≠ []) {e : Expression}
    (he : keywordExpression (.starting s) = some e) (x : Text) (more : List Text) :
    holds keep (terms keep (tokens (t ++ x) ++ more)) e = true := by
  obtain ⟨front, word, hw, he⟩ := looseExpression_eq_some he
  obtain ⟨init, last, before, _, rest, hlast, ⟨y, rfl⟩, htx⟩ := tokens_append_of_apart hs hw x
  have hsome : ∀ w ∈ tokenWords s, terms keep (tokens w) ≠ [] := fun w hw =>
    terms_ne_nil (tokens_ne_nil_of_mem hw) fun v hv => hkept v (mem_tokens_of_mem hw hv)
  simp only [hw, List.forall_mem_append, List.forall_mem_singleton] at hsome
  -- The analyzer may break the last token, so only the last of its terms goes on.
  have hlastKept : keep last ≠ [] :=
    hkept last (mem_tokens_of_mem (w := word) (by simp [hw]) (by simp [hlast]))
  obtain ⟨lead, term, hterm⟩ := (List.eq_nil_or_concat' (keep last)).resolve_left hlastKept
  obtain ⟨term', others, hterm', hprefix⟩ := hinc last y lead term hterm
  have hdoc : terms keep (tokens (t ++ x) ++ more) =
      terms keep before ++ (terms keep (front.flatMap tokens) ++
        (terms keep init ++ lead ++ term' :: (others ++ terms keep (rest ++ more)))) := by
    simp [htx, terms, hterm']
  have hstart : terms keep (tokens word) = terms keep init ++ lead ++ [term] := by
    simp [terms, hlast, hterm]
  rw [holds_joinLeft_both he, List.forall_mem_append, List.forall_mem_map,
    List.forall_mem_singleton, hdoc]
  · refine ⟨fun w hwf => ?_, ?_⟩
    · rw [holds, occurs_iff]
      have hinfix : terms keep (tokens w) <:+: terms keep (front.flatMap tokens) :=
        (List.infix_flatMap_of_mem hwf tokens).flatMap keep
      refine ⟨hsome.1 w hwf, hinfix.trans ?_⟩
      exact (List.prefix_append _ _).isInfix.trans (List.suffix_append _ _).isInfix
    · rw [holds, hstart, occursStarting_iff]
      exact ⟨terms keep before ++ terms keep (front.flatMap tokens), term',
        others ++ terms keep (rest ++ more), by simp, hprefix⟩
  · rw [List.forall_mem_append, List.forall_mem_map, List.forall_mem_singleton]
    simpa [Expression.isVoid] using hsome

/-- A group holds where all alternatives that ask for something hold. -/
lemma holds_groupExpression_of_forall {keep : Analyzer} {doc : List Text} {group : Keyword.Group}
    {e : Expression} (h : groupExpression group = some e)
    (hall : ∀ k ∈ group, ∀ x, keywordExpression k = some x → holds keep doc x = true) :
    holds keep doc e = true := by
  rcases groupExpression_cases h with hone | ⟨choice, hchoice, rfl⟩
  · obtain ⟨k, hk, he⟩ := List.mem_filterMap.mp (hone ▸ List.mem_singleton_self e)
    exact hall k hk e he
  · have hne : group.filterMap alternative ≠ [] := by
      intro hnil
      rw [hnil] at hchoice
      exact absurd hchoice (by simp [Expression.joinLeft])
    obtain ⟨x, hx⟩ := List.exists_mem_of_ne_nil _ hne
    rw [holds, holds_joinLeft_either hchoice]
    refine ⟨x, hx, ?_⟩
    obtain ⟨k, hk, hx⟩ := List.mem_filterMap.mp hx
    obtain ⟨e, he, rfl⟩ := Option.map_eq_some_iff.mp hx
    by_cases hc : isCompound k = true
    · rw [if_pos hc, holds]
      exact hall k hk e he
    · rw [if_neg hc]
      exact hall k hk e he

/-- All keywords of a stretch hold of every text that goes on from the one it stands in. -/
lemma holds_of_mem_parseGroups {keep : Analyzer} (hinc : Incremental keep) {s t : Text}
    (hs : Apart s t) (hquote : '"' ∉ s) (hkept : ∀ w ∈ tokens s, keep w ≠ [])
    {group : Keyword.Group} (hgroup : group ∈ Keyword.parseGroups s) {e : Expression}
    (he : groupExpression group = some e) (x : Text) (more : List Text) :
    holds keep (terms keep (tokens (t ++ x) ++ more)) e = true := by
  refine holds_groupExpression_of_forall he fun k hk y hy => ?_
  obtain ⟨part, rfl, hpart⟩ := apart_of_mem_parseGroups hquote hgroup hk
  refine holds_starting_of_apart hinc (hpart.trans hs) ?_ hy x more
  intro w hw
  exact hkept w ((tokens_infix_of_apart hpart).subset hw)

end Index

/-- A search box without any of the forms asks for the keywords of its text and for nothing else. -/
lemma Request.groups_of_formless {raw : Text} (h : FreeText.Formless (FreeText.clean raw)) :
    ({ query := some raw } : Request).author = none ∧
      ({ query := some raw } : Request).excluded = [] ∧
      ({ query := some raw } : Request).groups =
        Keyword.parseGroups (FreeText.clean raw).trim.trim := by
  have hparse : ({ query := some raw } : Request).freeText =
      ⟨none, [], [], (FreeText.clean raw).trim.trim⟩ := FreeText.parse_of_formless h
  refine ⟨?_, ?_, ?_⟩
  · simp only [Request.author, hparse, Option.map_none, Option.filter_none]
  · simp only [Request.excluded, hparse, Option.map_none, Option.getD_none, List.append_nil]
  · simp only [Request.groups, hparse, Option.map_none, Option.getD_none, List.map_nil,
      List.nil_append]

namespace Store

/-- A thread is found by its own title: the search is accepted, its conditions on texts are read
back as they were meant, and the thread is among the candidates. Of the analyzer of the index it is
asked that it reads tokens from left to right and loses none of those that are searched for. -/
theorem found_by_title (history : List Write) (t : Thread)
    (ht : t ∈ (Store.after history).threads.values) (hfound : t.misses = 0)
    (hform : FreeText.Formless t.title) (hchars : ∀ c ∈ t.title, FreeText.isKept c = true)
    (keep : Analyzer) (hinc : Incremental keep)
    (hkept : ∀ w ∈ tokens (FreeText.clean t.title), keep w ≠ []) (tags : TagSnapshot)
    (now : Instant) :
    ∃ q, ({ query := some t.title } : Request).validate now = .ok q ∧
      (∀ e, .textMatches e ∈ (q.compile tags).filter → Expression.read? e.text = some e) ∧
      t ∈ (Store.after history).candidatesBy keep (q.compile tags).filter := by
  set left : Text := t.title.take FreeText.maxLength
  set rest : Text := (FreeText.clean t.title).trim.trim
  have hclean : FreeText.clean t.title = left.trim := by
    rw [FreeText.clean, List.filter_eq_self.mpr hchars]
  have hapart : Apart rest (FreeText.clean t.title) := (apart_trim _).trans (apart_trim _)
  have hform' : FreeText.Formless (FreeText.clean t.title) := by
    rw [hclean]
    exact hform.mono ((apart_trim left).isInfix.trans (List.take_prefix _ _).isInfix)
  obtain ⟨hauthor, hexcluded, hgroups⟩ := Request.groups_of_formless hform'
  obtain ⟨q, hq, hcompile⟩ := Query.compile_plain tags rfl hauthor hexcluded now
  have hconditions : ∀ p ∈ (q.compile tags).filter, p = .notDeleted ∨
      ∃ group ∈ Keyword.parseGroups rest, ∃ e, groupExpression group = some e ∧
        p = .textMatches e := by
    intro p hp
    rw [hcompile, hgroups, List.mem_cons, List.mem_append] at hp
    rcases hp with rfl | hp | hp
    · exact .inl rfl
    · exact absurd hp (by simp [Request.normalNames, Text.distinct])
    · obtain ⟨e, he, rfl⟩ := List.mem_map.mp hp
      obtain ⟨group, hgroup, he⟩ := List.mem_filterMap.mp he
      exact .inr ⟨group, hgroup, e, he, rfl⟩
  have hdoc : tokens (searchedText t) =
      tokens (left ++ t.title.drop FreeText.maxLength) ++ tokens (t.excerpt.getD []) := by
    rw [List.take_append_drop, searchedText, tokens_append_gap (by decide)]
  refine ⟨q, hq, fun e he => ?_, List.mem_filter.mpr ⟨ht, List.all_eq_true.mpr fun p hp => ?_⟩⟩
  · rcases hconditions _ he with h | ⟨group, -, e', hgroup, h⟩
    · exact absurd h (by simp)
    · rw [Predicate.textMatches.inj h]
      exact read?_text (canonical_groupExpression hgroup)
  · rcases hconditions p hp with rfl | ⟨group, hgroup, e, he, rfl⟩
    · exact (satisfies_notDeleted _ t).mpr hfound
    · rw [satisfiesBy, textHolds_of_stored (sound_after history) ht, hdoc]
      refine holds_of_mem_parseGroups hinc ?_ ?_ ?_ hgroup he _ _
      · exact (hclean ▸ hapart).trans (apart_trim left)
      · exact fun h => hform'.noQuote (hapart.isInfix.subset h)
      · exact fun w hw => hkept w ((tokens_infix_of_apart hapart).subset hw)

/-- The title has separators of both widths, a character, a symbol and a word that is cut off, and
the store's own analyzer is used. -/
theorem found_by_title_cut :
    let t : Thread := ⟨1, 1, 1, ['猫', '，', 'Ä', '/', '😀', ' '] ++ List.replicate 500 'x', ⟨0, 0⟩,
      ⟨0, 0⟩, 0, 0, none, [], 0⟩
    let s := Store.after [.thread t [10]]
    t ∈ s.threads.values ∧ t.misses = 0 ∧ FreeText.Formless t.title ∧
      (∀ c ∈ t.title, FreeText.isKept c = true) ∧
      (∀ w ∈ tokens (FreeText.clean t.title), standard w ≠ []) ∧
      ∃ q, ({ query := some t.title } : Request).validate ⟨0, 0⟩ = .ok q ∧
        (∀ e, .textMatches e ∈ (q.compile (.ofTags [])).filter →
          Expression.read? e.text = some e) ∧
        t ∈ s.candidates (q.compile (.ofTags [])).filter := by
  intro t s
  have ht : t ∈ s.threads.values := by decide +kernel
  have hform : FreeText.Formless t.title :=
    ⟨by decide +kernel, by decide +kernel, by decide +kernel⟩
  have hchars : ∀ c ∈ t.title, FreeText.isKept c = true :=
    List.all_eq_true.mp (by decide +kernel)
  have hkept : ∀ w ∈ tokens (FreeText.clean t.title), standard w ≠ [] := by
    decide +kernel
  obtain ⟨q, hq, hread, hfound⟩ := found_by_title [.thread t [10]] t ht rfl hform hchars standard
    incremental_standard hkept (.ofTags []) ⟨0, 0⟩
  rw [candidatesBy_standard] at hfound
  exact ⟨ht, rfl, hform, hchars, hkept, q, hq, hread, hfound⟩

end Store

end ForumSearch
