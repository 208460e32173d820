import ForumSearch.Proofs.Index.Keyword

/-!
# Excluded words

What the one condition for all excluded words takes out. A word takes a thread out where it occurs,
unless a marker stands near it; each word is judged by its own markers. The analyzer of the index is
a parameter: all that is asked of it is that it loses no excluded word and no marker as a whole.
-/

namespace ForumSearch

namespace Index

/-- A phrase stands in a text after i of its terms. -/
def StandsAt (words doc : List Text) (i : Nat) : Prop :=
  ∃ before after, doc = before ++ (words ++ after) ∧ before.length = i

/-- Two phrases stand in a text with at most a number of terms between the end of the one that
begins first and the beginning of the other. -/
def Near (window : Nat) (left right doc : List Text) : Prop :=
  ∃ i j, StandsAt left doc i ∧ StandsAt right doc j ∧
    j ≤ i + left.length + window ∧ i ≤ j + right.length + window

lemma mem_occurrences_iff {words doc : List Text} (hne : words ≠ []) (i : Nat) :
    i ∈ occurrences words doc ↔ StandsAt words doc i := by
  unfold occurrences fits
  rw [List.mem_filter, List.mem_range, List.isPrefixOf_iff_prefix]
  constructor
  · rintro ⟨hi, after, hafter⟩
    refine ⟨doc.take i, after, ?_, List.length_take_of_le hi.le⟩
    rw [hafter, List.take_append_drop]
  · rintro ⟨before, after, rfl, rfl⟩
    have hpos := List.length_pos_iff.mpr hne
    refine ⟨?_, ?_⟩
    · simp only [List.length_append]
      omega
    · rw [List.drop_left]
      exact List.prefix_append _ _

lemma close_iff (i m j n window : Nat) :
    close i m j n window = true ↔ j ≤ i + m + window ∧ i ≤ j + n + window := by
  unfold close
  by_cases h : i ≤ j
  · simp only [h, if_true, decide_eq_true_eq]
    omega
  · simp only [h, if_false, decide_eq_true_eq]
    omega

lemma occurNear_iff {left right doc : List Text} (hl : left ≠ []) (hr : right ≠ [])
    (window : Nat) : occurNear left right doc window = true ↔ Near window left right doc := by
  unfold occurNear Near
  simp only [List.isEmpty_iff, hl, hr, if_false, List.any_eq_true, close_iff,
    mem_occurrences_iff hl, mem_occurrences_iff hr]
  constructor
  · rintro ⟨i, hi, j, hj, hclose⟩
    exact ⟨i, j, hi, hj, hclose⟩
  · rintro ⟨i, j, hi, hj, hclose⟩
    exact ⟨i, hi, j, hj, hclose⟩

lemma mem_filterMap_phraseOf (texts : List Text) (words : List Text) :
    words ∈ texts.filterMap phraseOf ↔ ∃ s ∈ texts, tokens s ≠ [] ∧ tokens s = words := by
  rw [List.mem_filterMap]
  refine exists_congr fun s => and_congr_right fun _ => ?_
  by_cases h : tokens s = []
  · simp [phraseOf, h]
  · simp [phraseOf, h]

lemma exclusionExpression_eq_none_iff (word : Text) (markers : List Text) (window : Nat) :
    exclusionExpression word markers window = none ↔ tokens word = [] := by
  rw [exclusionExpression, Option.map_eq_none_iff]
  simp [phraseOf]

/-- The expression of a word is its phrase, without what stands near a marker if there is one. -/
lemma exclusionExpression_cases {word : Text} {markers : List Text} {window : Nat} {e : Expression}
    (h : exclusionExpression word markers window = some e) :
    (markers.filterMap phraseOf = [] ∧ e = .phrase (tokens word)) ∨
      ∃ nears, Expression.joinLeft .either
          ((markers.filterMap phraseOf).map (.near (tokens word) · window)) = some nears ∧
        e = .parens (.without (.phrase (tokens word)) (.parens nears)) := by
  obtain ⟨target, htarget, rfl⟩ := Option.map_eq_some_iff.mp h
  unfold phraseOf at htarget
  split_ifs at htarget
  obtain rfl := Option.some.inj htarget
  dsimp only
  cases hnears : Expression.joinLeft .either
      ((markers.filterMap phraseOf).map (.near (tokens word) · window)) with
  | none =>
    rw [joinLeft_eq_none_iff, List.map_eq_nil_iff] at hnears
    exact .inl ⟨hnears, rfl⟩
  | some nears => exact .inr ⟨nears, rfl, rfl⟩

lemma canonical_exclusionExpression {word : Text} {markers : List Text} {window : Nat}
    {e : Expression} (h : exclusionExpression word markers window = some e) :
    Canonical .item e := by
  have hplain (w : Text) : ∀ v ∈ tokens w, IsPlain v := fun _ => isPlain_of_mem_tokens
  rcases exclusionExpression_cases h with ⟨-, rfl⟩ | ⟨nears, hnears, rfl⟩
  · exact .phrase (hplain word)
  · have hchoice : Canonical .choice nears := by
      refine canonical_joinLeft_either hnears ?_
      intro x hx
      obtain ⟨words, hwords, rfl⟩ := List.mem_map.mp hx
      obtain ⟨marker, -, -, rfl⟩ := (mem_filterMap_phraseOf _ _).mp hwords
      exact .ofRow (.ofItem (.near (hplain word) (hplain marker)))
    exact .parens (.ofDifference (.without (.ofRow (.ofItem (.phrase (hplain word))))
      (.ofItem (.parens hchoice))))

/-- A word is found by its phrase, unless some marker is found near it. -/
lemma holds_exclusionExpression_iff {keep : Analyzer} {doc : List Text} {word : Text}
    {markers : List Text} {window : Nat} {e : Expression}
    (h : exclusionExpression word markers window = some e) :
    holds keep doc e = true ↔ holds keep doc (.phrase (tokens word)) = true ∧
      ∀ words ∈ markers.filterMap phraseOf,
        holds keep doc (.near (tokens word) words window) = false := by
  rcases exclusionExpression_cases h with ⟨hnone, rfl⟩ | ⟨nears, hnears, rfl⟩
  · simp [hnone]
  · have hwithout : holds keep doc (.parens (.without (.phrase (tokens word)) (.parens nears))) =
        (holds keep doc (.phrase (tokens word)) && !holds keep doc nears) := rfl
    rw [hwithout, Bool.and_eq_true, Bool.not_eq_true', ← Bool.not_eq_true,
      holds_joinLeft_either hnears]
    simp

/-- An excluded word asks for an occurrence and for no marker near any of them. -/
lemma holds_exclusionExpression {keep : Analyzer} {doc : List Text} {word : Text}
    {markers : List Text} {window : Nat} {e : Expression}
    (h : exclusionExpression word markers window = some e) (hword : terms keep (tokens word) ≠ [])
    (hmarkers : ∀ m ∈ markers, tokens m ≠ [] → terms keep (tokens m) ≠ []) :
    holds keep doc e = true ↔ terms keep (tokens word) <:+: doc ∧
      ∀ m ∈ markers, tokens m ≠ [] →
        ¬Near window (terms keep (tokens word)) (terms keep (tokens m)) doc := by
  have hphrase : holds keep doc (.phrase (tokens word)) = true ↔
      terms keep (tokens word) <:+: doc := by
    rw [holds, occurs_iff, and_iff_right hword]
  rw [holds_exclusionExpression_iff h, hphrase]
  refine and_congr_right fun _ => ?_
  constructor
  · intro hnone m hm hne
    have hnear := hnone _ ((mem_filterMap_phraseOf markers _).mpr ⟨m, hm, hne, rfl⟩)
    rwa [← Bool.not_eq_true, holds, occurNear_iff hword (hmarkers m hm hne)] at hnear
  · intro hfar words hwords
    obtain ⟨m, hm, hne, rfl⟩ := (mem_filterMap_phraseOf _ _).mp hwords
    rw [← Bool.not_eq_true, holds, occurNear_iff hword (hmarkers m hm hne)]
    exact hfar m hm hne

/-- The expressions of several excluded words, joined into one. -/
def exclusionChoice (words markers : List Text) (window : Nat) : Option Expression :=
  Expression.joinLeft .either (words.filterMap fun word => exclusionExpression word markers window)

lemma exclusionChoice_eq_none_iff (words markers : List Text) (window : Nat) :
    exclusionChoice words markers window = none ↔ ∀ word ∈ words, tokens word = [] := by
  rw [exclusionChoice, joinLeft_eq_none_iff, List.filterMap_eq_nil_iff]
  exact forall₂_congr fun word _ => exclusionExpression_eq_none_iff word markers window

lemma canonical_exclusionChoice {words markers : List Text} {window : Nat} {e : Expression}
    (h : exclusionChoice words markers window = some e) : Canonical .choice e := by
  refine canonical_joinLeft_either h fun x hx => ?_
  obtain ⟨word, -, hx⟩ := List.mem_filterMap.mp hx
  exact .ofRow (.ofItem (canonical_exclusionExpression hx))

/-- One word that occurs unexempted is enough, whatever exempts the others. -/
lemma holds_exclusionChoice {keep : Analyzer} {doc words markers : List Text} {window : Nat}
    {e : Expression} (h : exclusionChoice words markers window = some e)
    (hwords : ∀ word ∈ words, tokens word ≠ [] → terms keep (tokens word) ≠ [])
    (hmarkers : ∀ m ∈ markers, tokens m ≠ [] → terms keep (tokens m) ≠ []) :
    holds keep doc e = true ↔ ∃ word ∈ words, tokens word ≠ [] ∧
      terms keep (tokens word) <:+: doc ∧ ∀ m ∈ markers, tokens m ≠ [] →
        ¬Near window (terms keep (tokens word)) (terms keep (tokens m)) doc := by
  rw [holds_joinLeft_either h]
  exact exists_mem_filterMap_iff (fun word => exclusionExpression_eq_none_iff word markers window)
    fun word hword hne x hx => holds_exclusionExpression hx (hwords word hword hne) hmarkers

end Index

open Index

/-- The predicate takes threads out by their texts. -/
def Predicate.excludesText : Predicate → Bool
  | .textExcludes _ => true
  | _ => false

namespace Query

lemma exclusionPredicates_eq (q : Query) : q.exclusionPredicates =
    (exclusionChoice q.excludeKeywords q.exemptionMarkers 8).toList.map .textExcludes := by
  unfold exclusionPredicates exclusionChoice exemptionWindow
  split
  · next e h =>
    rw [h]
    rfl
  · next h =>
    rw [h]
    rfl

/-- All conditions that take threads out by their texts come from the excluded words. -/
lemma filter_excludesText (q : Query) (tags : TagSnapshot) :
    (q.compile tags).filter.filter Predicate.excludesText = q.exclusionPredicates := by
  have hunless (ids : List Int) (p : List Int → Predicate) (hp : ∀ ids, ¬(p ids).excludesText) :
      (unlessEmpty ids p).filter Predicate.excludesText = [] := by
    unfold unlessEmpty
    split_ifs <;> simp [hp]
  have hmap {α : Type} (l : List α) (p : α → Predicate) (hp : ∀ a, ¬(p a).excludesText) :
      (l.map p).filter Predicate.excludesText = [] := by
    simp [hp]
  have hoption {α : Type} (o : Option α) (p : α → Predicate) (hp : ∀ a, ¬(p a).excludesText) :
      (o.map p).toList.filter Predicate.excludesText = [] := by
    cases o <;> simp [hp]
  have htime (column : TimeColumn) (after before : Option Instant) :
      (timePredicate column after before).filter Predicate.excludesText = [] := by
    unfold timePredicate
    split_ifs <;> rfl
  have hcollected : (if q.collectedOnly then (q.viewer.map Predicate.collectedBy).toList
      else []).filter Predicate.excludesText = [] := by
    split_ifs <;> simp [hoption, Predicate.excludesText]
  have htags : (q.tagPredicates tags).filter Predicate.excludesText = [] := by
    unfold tagPredicates
    cases q.tagLogic <;> simp only [hmap, hunless, Predicate.excludesText, Bool.false_eq_true,
      not_false_eq_true, implies_true]
  have hexclusion : q.exclusionPredicates.filter Predicate.excludesText =
      q.exclusionPredicates := by
    rw [exclusionPredicates_eq, List.filter_eq_self]
    simp [Predicate.excludesText]
  have hfound : [Predicate.notDeleted].filter Predicate.excludesText = [] := rfl
  unfold compile
  simp only [List.filter_append, hfound, hcollected, htags, htime, hexclusion, hunless, hoption,
    hmap, Predicate.excludesText, Bool.false_eq_true, not_false_eq_true, implies_true,
    List.nil_append]

end Query

namespace Store

/-- Excluded words without tokens give a query no condition. Otherwise all words together give one
condition, which is read back as it was meant: it takes a stored thread out exactly when some word
with tokens occurs in its text and no marker with tokens stands within eight terms of that word. -/
theorem removed_iff_unexempted (history : List Write) (t : Thread)
    (ht : t ∈ (Store.after history).threads.values) (q : Query) (tags : TagSnapshot)
    (keep : Analyzer)
    (hkept : ∀ s ∈ q.excludeKeywords ++ q.exemptionMarkers,
      tokens s ≠ [] → terms keep (tokens s) ≠ []) :
    ((∀ word ∈ q.excludeKeywords, tokens word = []) →
      (q.compile tags).filter.filter Predicate.excludesText = []) ∧
    ((∃ word ∈ q.excludeKeywords, tokens word ≠ []) → ∃ e,
      (q.compile tags).filter.filter Predicate.excludesText = [.textExcludes e] ∧
      Expression.read? e.text = some e ∧
      ((Store.after history).satisfiesBy keep t (.textExcludes e) = false ↔
        ∃ word ∈ q.excludeKeywords, tokens word ≠ [] ∧
          terms keep (tokens word) <:+: terms keep (tokens (searchedText t)) ∧
          ∀ marker ∈ q.exemptionMarkers, tokens marker ≠ [] →
            ¬Near 8 (terms keep (tokens word)) (terms keep (tokens marker))
              (terms keep (tokens (searchedText t))))) := by
  rw [Query.filter_excludesText, Query.exclusionPredicates_eq]
  have hvoid := exclusionChoice_eq_none_iff q.excludeKeywords q.exemptionMarkers 8
  constructor
  · intro hnone
    rw [hvoid.mpr hnone]
    rfl
  · rintro ⟨word, hword, hne⟩
    have hsome : exclusionChoice q.excludeKeywords q.exemptionMarkers 8 ≠ none := by
      intro hnone
      exact hne (hvoid.mp hnone word hword)
    obtain ⟨e, he⟩ := Option.ne_none_iff_exists'.mp hsome
    refine ⟨e, by rw [he]; rfl, read?_text (canonical_exclusionChoice he), ?_⟩
    rw [satisfiesBy, textHolds_of_stored (sound_after history) ht, Bool.not_eq_false']
    exact holds_exclusionChoice he (fun w hw => hkept w (List.mem_append_left _ hw))
      fun m hm => hkept m (List.mem_append_right _ hm)

/-- Of the two excluded words that have tokens, one stands beside a marker and the other does not
stand within its reach, so the thread is taken out. The other marker has no token. -/
theorem removed_iff_unexempted_far :
    let t : Thread := ⟨1, 1, 1, ['B', 'u', 'g', ' ', '禁', ' ', 'R', 'u', 's', 't'], ⟨0, 0⟩,
      ⟨0, 0⟩, 0, 0, some ['a', ' ', 'b', ' ', 'c', ' ', 'd', ' ', 'e', ' ', 'f', ' ', 'g', ' ',
      'h', ' ', 'l', 'o', 'g'], [], 0⟩
    let s := Store.after [.thread t []]
    let r : Request :=
      { excludeKeywords := some ['b', 'u', 'g', ',', '!', ',', 'l', 'o', 'g'],
        exemptionMarkers := some [[' '], ['禁']] }
    ∃ q, r.validate ⟨0, 0⟩ = .ok q ∧ t ∈ s.threads.values ∧
      (∀ w ∈ q.excludeKeywords ++ q.exemptionMarkers,
        tokens w ≠ [] → terms standard (tokens w) ≠ []) ∧
      ∃ e, (q.compile (.ofTags [])).filter.filter Predicate.excludesText = [.textExcludes e] ∧
        Expression.read? e.text = some e ∧ s.satisfiesBy standard t (.textExcludes e) = false := by
  intro t s r
  have ht : t ∈ s.threads.values := by decide
  let words : List Text := [['b', 'u', 'g'], ['!'], ['l', 'o', 'g']]
  let markers : List Text := [[' '], ['禁']]
  have hkept : ∀ w ∈ words ++ markers, tokens w ≠ [] → terms standard (tokens w) ≠ [] := by
    decide +kernel
  obtain ⟨q, hq, hw, hm⟩ : ∃ q, r.validate ⟨0, 0⟩ = .ok q ∧ q.excludeKeywords = words ∧
      q.exemptionMarkers = markers := ⟨_, rfl, by decide, rfl⟩
  have hasked : q.excludeKeywords ++ q.exemptionMarkers = words ++ markers := by rw [hw, hm]
  rw [← hasked] at hkept
  obtain ⟨e, he, hread, hremoved⟩ :=
    (removed_iff_unexempted [.thread t []] t ht q (.ofTags []) standard hkept).2
      ⟨['b', 'u', 'g'], by rw [hw]; decide, by decide⟩
  have hfar : ∀ m ∈ markers, tokens m ≠ [] →
      occurNear (terms standard (tokens ['l', 'o', 'g'])) (terms standard (tokens m))
        (terms standard (tokens (searchedText t))) 8 = false := by
    decide +kernel
  refine ⟨q, hq, ht, hkept, e, he, hread, hremoved.mpr ⟨['l', 'o', 'g'], ?_, ?_, ?_, ?_⟩⟩
  · rw [hw]
    decide
  · decide
  · decide +kernel
  · intro m hmarker hsome
    have hlost := hkept m (List.mem_append_right _ hmarker) hsome
    rw [← occurNear_iff (by decide +kernel) hlost, hfar m (hm ▸ hmarker) hsome]
    exact Bool.false_ne_true

end Store

end ForumSearch
