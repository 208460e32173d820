import ForumSearch.Proofs.Search.Narrowing

/-!
# Words that hold a marker

A marker that stands in an excluded word is near the word wherever the word occurs, so such a word
takes nothing out. Where no marker stands outside of the word, this is the only way in which the
word is exempted.
-/

namespace ForumSearch

open Index

namespace Index

/-- Wherever one phrase stands in a text, it stands inside another one. -/
def OnlyWithin (outer inner doc : List Text) : Prop :=
  ∀ j, StandsAt inner doc j →
    ∃ i, StandsAt outer doc i ∧ i ≤ j ∧ j + inner.length ≤ i + outer.length

lemma onlyWithin_iff {outer inner doc : List Text} (houter : outer ≠ []) (hinner : inner ≠ []) :
    OnlyWithin outer inner doc ↔ ∀ j ∈ occurrences inner doc, ∃ i ∈ occurrences outer doc,
      i ≤ j ∧ j + inner.length ≤ i + outer.length := by
  simp only [OnlyWithin, mem_occurrences_iff houter, mem_occurrences_iff hinner]

lemma StandsAt.take_drop {words doc : List Text} {i : ℕ} (h : StandsAt words doc i) :
    (doc.drop i).take words.length = words := by
  obtain ⟨before, after, rfl, rfl⟩ := h
  rw [List.drop_left, List.take_left]

lemma StandsAt.run {outer inner doc : List Text} {i j : ℕ} (houter : StandsAt outer doc i)
    (hinner : StandsAt inner doc j) (hij : i ≤ j)
    (hlength : j + inner.length ≤ i + outer.length) : inner <:+: outer := by
  -- What stands at a place inside of the outer phrase is cut out of that phrase.
  have hcut : (outer.drop (j - i)).take inner.length = inner := by
    rw [← houter.take_drop, List.drop_take, List.take_take, List.drop_drop,
      Nat.add_sub_cancel' hij, Nat.min_eq_left (by omega), hinner.take_drop]
  rw [← hcut]
  exact (List.take_prefix _ _).isInfix.trans (List.drop_suffix _ _).isInfix

/-- A run of a phrase is near the phrase wherever that stands. -/
lemma near_of_run {outer inner doc : List Text} (hinner : inner <:+: outer)
    (houter : outer <:+: doc) (window : ℕ) : Near window outer inner doc := by
  obtain ⟨front, back, rfl⟩ := hinner
  obtain ⟨before, after, rfl⟩ := houter
  refine ⟨before.length, before.length + front.length, ⟨before, after, by simp, rfl⟩,
    ⟨before ++ front, back ++ after, by simp, by simp⟩, ?_, ?_⟩
  · simp only [List.length_append]
    omega
  · omega

variable {keep : Analyzer} {doc : List Text} {word : Text}

/-- A marker that stands only inside a word is near the word exactly if it is a run of it. -/
lemma holds_near_iff_run {marker : Text} (hword : terms keep (tokens word) ≠ [])
    (hrun : terms keep (tokens word) <:+: doc)
    (hwithin : OnlyWithin (terms keep (tokens word)) (terms keep (tokens marker)) doc)
    (window : ℕ) : holds keep doc (.near (tokens word) (tokens marker) window) = true ↔
      terms keep (tokens marker) <:+: terms keep (tokens word) := by
  by_cases hmarker : terms keep (tokens marker) = []
  · -- A marker without terms asks for nothing beside the word.
    have hoccurs : occurs (terms keep (tokens word)) doc = true :=
      (occurs_iff _ _).mpr ⟨hword, hrun⟩
    simp [holds, occurNear, hmarker, hword, hoccurs]
  · rw [holds, occurNear_iff hword hmarker]
    constructor
    · rintro ⟨-, j, -, hj, -, -⟩
      obtain ⟨i, hi, hij, hlength⟩ := hwithin j hj
      exact hi.run hj hij hlength
    · intro hinside
      exact near_of_run hinside hrun window

lemma holds_exclusionExpression_iff_runs {markers : List Text} {window : ℕ} {e : Expression}
    (h : exclusionExpression word markers window = some e) (hrun : terms keep (tokens word) <:+: doc)
    (hwithin : ∀ m ∈ markers, tokens m ≠ [] →
      OnlyWithin (terms keep (tokens word)) (terms keep (tokens m)) doc) :
    holds keep doc e = true ↔ terms keep (tokens word) ≠ [] ∧ ∀ m ∈ markers, tokens m ≠ [] →
      ¬terms keep (tokens m) <:+: terms keep (tokens word) := by
  have hphrase : holds keep doc (.phrase (tokens word)) = true ↔ terms keep (tokens word) ≠ [] := by
    rw [holds, occurs_iff]
    exact and_iff_left hrun
  rw [holds_exclusionExpression_iff h, hphrase]
  refine and_congr_right fun hword => ?_
  constructor
  · intro hfar m hm hne hinside
    have hnear := (holds_near_iff_run hword hrun (hwithin m hm hne) window).mpr hinside
    have hnone := hfar _ ((mem_filterMap_phraseOf markers _).mpr ⟨m, hm, hne, rfl⟩)
    exact Bool.false_ne_true (hnone.symm.trans hnear)
  · intro hapart words hwords
    obtain ⟨m, hm, hne, rfl⟩ := (mem_filterMap_phraseOf markers _).mp hwords
    rw [← Bool.not_eq_true, holds_near_iff_run hword hrun (hwithin m hm hne)]
    exact hapart m hm hne

end Index

namespace Store

/-- An excluded word occurs in a thread, and no marker stands there but inside the word. Then the
thread matches the expression of the word, which is read back as it was meant, exactly if the index
keeps some term of the word and no marker is a run of it; and a thread that matches is taken out by
every query that excludes the word. -/
theorem removed_iff_no_marker_inside (history : List Write) (t : Thread)
    (ht : t ∈ (Store.after history).threads.values) (keep : Analyzer) (word : Text)
    (markers : List Text) (hword : tokens word ≠ [])
    (hrun : terms keep (tokens word) <:+: terms keep (tokens (searchedText t)))
    (hwithin : ∀ m ∈ markers, tokens m ≠ [] → OnlyWithin (terms keep (tokens word))
      (terms keep (tokens m)) (terms keep (tokens (searchedText t)))) :
    ∃ e, exclusionExpression word markers 8 = some e ∧ Expression.read? e.text = some e ∧
      ((Store.after history).textHolds keep t.id e = true ↔ terms keep (tokens word) ≠ [] ∧
        ∀ m ∈ markers, tokens m ≠ [] → ¬terms keep (tokens m) <:+: terms keep (tokens word)) ∧
      ((Store.after history).textHolds keep t.id e = true → ∀ (q : Query) (tags : TagSnapshot),
        word ∈ q.excludeKeywords → q.exemptionMarkers = markers →
          t ∉ (Store.after history).candidatesBy keep (q.compile tags).filter) := by
  have hsome : exclusionExpression word markers 8 ≠ none := by
    rwa [Ne, exclusionExpression_eq_none_iff]
  obtain ⟨e, he⟩ := Option.ne_none_iff_exists'.mp hsome
  refine ⟨e, he, read?_text (.ofDifference (.ofRow (.ofItem (canonical_exclusionExpression he)))),
    ?_, ?_⟩
  · rw [textHolds_of_stored (sound_after history) ht]
    exact holds_exclusionExpression_iff_runs he hrun hwithin
  · intro hholds q tags hq hmarkers hcandidate
    have hall := List.all_eq_true.mp (List.mem_filter.mp hcandidate).2
    rw [Query.forall_mem_compile_core] at hall
    have hkept := (Query.forall_mem_exclusionPredicates q).mp hall.2.2.2.2.2 word hq e
      (hmarkers ▸ he)
    exact Bool.false_ne_true (hkept.symm.trans hholds)

/-- The word occurs twice. The one marker begins with a character of the word, and the other one has
no token, so that they stand nowhere, and the thread is taken out. -/
theorem removed_iff_no_marker_inside_ads :
    let t : Thread := ⟨1, 1, 1, ['B', 'u', 'g', ' ', '广', '告', ' ', 'x', '广', '告'], ⟨0, 0⟩,
      ⟨0, 0⟩, 0, 0, none, [], 0⟩
    let s := Store.after [.thread t []]
    let word : Text := ['广', '告']
    let markers : List Text := [['告', '示'], [' ']]
    let r : Request := { excludeKeywords := some word, exemptionMarkers := some markers }
    t ∈ s.threads.values ∧ tokens word ≠ [] ∧
      terms standard (tokens word) <:+: terms standard (tokens (searchedText t)) ∧
      (∀ m ∈ markers, tokens m ≠ [] → OnlyWithin (terms standard (tokens word))
        (terms standard (tokens m)) (terms standard (tokens (searchedText t)))) ∧
      ∃ e q, exclusionExpression word markers 8 = some e ∧ r.validate ⟨0, 0⟩ = .ok q ∧
        s.textHolds standard t.id e = true ∧
        t ∉ s.candidatesBy standard (q.compile (.ofTags [])).filter := by
  intro t s word markers r
  have ht : t ∈ s.threads.values := by decide
  -- One evaluation for all texts, as each one would read the table of letters again.
  obtain ⟨hword, hdoc, hmarker⟩ : terms standard (tokens word) = [['广'], ['告']] ∧
      terms standard (tokens (searchedText t)) =
        [['b', 'u', 'g'], ['广'], ['告'], ['x'], ['广'], ['告']] ∧
      terms standard (tokens ['告', '示']) = [['告'], ['示']] := by decide +kernel
  have hsome : tokens word ≠ [] := by decide
  have hrun : terms standard (tokens word) <:+: terms standard (tokens (searchedText t)) := by
    rw [hword, hdoc]
    decide
  have hfar : ∀ m ∈ markers, tokens m ≠ [] → m = ['告', '示'] := by decide
  have hwithin : ∀ m ∈ markers, tokens m ≠ [] → OnlyWithin (terms standard (tokens word))
      (terms standard (tokens m)) (terms standard (tokens (searchedText t))) := by
    intro m hm hne
    rw [hfar m hm hne, hword, hdoc, hmarker, onlyWithin_iff (by decide) (by decide)]
    decide
  obtain ⟨q, hq, hwords, hmarkers⟩ : ∃ q, r.validate ⟨0, 0⟩ = .ok q ∧
      q.excludeKeywords = [word] ∧ q.exemptionMarkers = markers := ⟨_, rfl, by decide, rfl⟩
  obtain ⟨e, he, -, hholds, hremoved⟩ :=
    removed_iff_no_marker_inside [.thread t []] t ht standard word markers hsome hrun hwithin
  have hmatched : s.textHolds standard t.id e = true := by
    rw [hholds, hword]
    refine ⟨by decide, fun m hm hne => ?_⟩
    rw [hfar m hm hne, hmarker]
    decide
  refine ⟨ht, hsome, hrun, hwithin, e, q, he, hq, hmatched, hremoved hmatched q _ ?_ hmarkers⟩
  rw [hwords]
  exact List.mem_singleton_self word

/-- The word begins with a marker and stands alone in the title, so the marker stands nowhere but
in the word. It is near the word all the same, and the thread stays. -/
theorem prohibition_exempts_itself :
    let t : Thread := ⟨1, 1, 1, ['禁', '止'], ⟨0, 0⟩, ⟨0, 0⟩, 0, 0, none, [], 0⟩
    let s := Store.after [.thread t []]
    let word : Text := ['禁', '止']
    let r : Request := { excludeKeywords := some word }
    t ∈ s.threads.values ∧ tokens word ≠ [] ∧
      terms standard (tokens word) <:+: terms standard (tokens (searchedText t)) ∧
      (∀ m ∈ Request.defaultMarkers, tokens m ≠ [] → OnlyWithin (terms standard (tokens word))
        (terms standard (tokens m)) (terms standard (tokens (searchedText t)))) ∧
      ∃ e q, exclusionExpression word Request.defaultMarkers 8 = some e ∧
        r.validate ⟨0, 0⟩ = .ok q ∧ q.excludeKeywords = [word] ∧
        s.textHolds standard t.id e = false ∧
        t ∈ s.candidatesBy standard (q.compile (.ofTags [])).filter := by
  intro t s word r
  obtain ⟨hword, hdoc, hmarkers⟩ : terms standard (tokens word) = [['禁'], ['止']] ∧
      terms standard (tokens (searchedText t)) = [['禁'], ['止']] ∧
      Request.defaultMarkers.map (fun m => terms standard (tokens m)) =
        [[['禁']], [['u', '1', 'f', '2', '3', '2']]] := by decide +kernel
  have hkept : ∀ m ∈ Request.defaultMarkers,
      OnlyWithin [['禁'], ['止']] (terms standard (tokens m)) [['禁'], ['止']] := by
    rw [← List.forall_mem_map (P := fun words => OnlyWithin [['禁'], ['止']] words _), hmarkers]
    intro words hwords
    rw [onlyWithin_iff (by decide) (by rintro rfl; revert hwords; decide)]
    revert words
    decide
  rw [hword, hdoc]
  refine ⟨by decide, by decide, List.infix_rfl, fun m hm _ => hkept m hm, _, _, rfl, rfl,
    by decide, ?_⟩
  decide +kernel

end Store

end ForumSearch
