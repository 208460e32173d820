import ForumSearch.Proofs.Search.Answer

/-!
# Pages of search results

A search answers with a window of one list of all candidates, whichever way the order is made. The
store sorts by a column and cuts; for the score all candidates are ranked, the window is cut, and
its records are read by id and put back into place. Pages that follow one another are then the
list itself. There is no page if the engine of the store fails one of the calls.
-/

namespace ForumSearch

namespace Search

section Specification

variable (g : SearchSettings) (s : Store) (q : Query) (now : Instant)

def shownScore (t : Thread) : Option Float :=
  match sortColumn? q with
  | some _ => none
  | none => some (scoreOf g s q now t)

/-- How a thread is shown: with its score if the order is by score, and marked if the viewer has
collected it. -/
def shown (t : Thread) : Summary where
  record := s.record t
  tags := g.tags.shownNames (s.record t).tagIds
  collected := q.viewer.any fun viewer => s.collections.contains (viewer, t.id)
  score := shownScore g s q now t

def comparison : Thread → Thread → Bool :=
  match sortColumn? q with
  | some column => s.inOrder (pageOrder q column)
  | none => fun a b => Ranking.precedes q.direction (ranked g s q now a) (ranked g s q now b)

/-- The candidates in the order of the query. -/
def listed : List Thread :=
  (s.candidates (q.compile g.tags).filter).mergeSort (comparison g s q now)

/-- The threads on a page of a list. -/
def pageAt (threads : List Thread) (offset limit : Int) : List Thread :=
  (threads.drop offset.toNat).take limit.toNat

/-- The calls that a page of some threads takes. -/
def callsFor (threads : List Thread) : List Call :=
  .count (q.compile g.tags).filter ::
    if threads.isEmpty then []
    else fetched g q (threads.map Thread.id) ++ marked q (threads.map Thread.id)

/-- Over an engine, the pages of a request, whatever their size, are those of a list of threads, and
those that follow one another from the first are the whole list. -/
structure PagesOf (e : Engine) (r : Request) (threads : List Thread) : Prop where
  window : ∀ offset limit, 0 ≤ offset → 1 ≤ limit → limit ≤ Request.maxLimit →
    run (s.backend e) g { r with offset, limit } now =
      e.reply (callsFor g { q with offset, limit } (pageAt threads offset limit))
        ⟨threads.length, limit, offset, (pageAt threads offset limit).map (shown g s q now)⟩
  tiling : ∀ limit : Nat, 1 ≤ limit → limit ≤ Request.maxLimit → ∀ pages : List Page,
    (∀ i (h : i < pages.length),
      (run (s.backend e) g { r with offset := (i * limit : Nat), limit } now).1 = .ok pages[i]) →
    threads.length ≤ pages.length * limit →
      pages.flatMap Page.results = threads.map (shown g s q now)

end Specification

variable {g : SearchSettings} {s : Store} {q : Query} {now : Instant}

lemma comparison_respects : Respects g s q now (comparison g s q now) := by
  unfold comparison
  cases hc : sortColumn? q with
  | some column => exact inOrder_respects hc
  | none => exact precedes_respects hc

lemma listed_listing (hs : Store.Sound s) : Listing g s q now (listed g s q now) :=
  comparison_respects.listing hs

lemma length_listed : (listed g s q now).length = (s.candidates (q.compile g.tags).filter).length :=
  (List.mergeSort_perm _ _).length_eq

@[simp]
lemma thread_record (t : Thread) : (s.record t).thread = t := rfl

/-- Records that are looked up by id come back in the order of the window. -/
lemma pairUp_map (score : Thread → Float) (threads : List Thread) (records : List ThreadRecord)
    (hids : (threads.map Thread.id).Nodup) (hmem : ∀ t ∈ threads, s.record t ∈ records)
    (hrec : ∀ t ∈ threads, ∀ r ∈ records, r.thread.id = t.id → r = s.record t) :
    pairUp (threads.map fun t => (t.id, score t)) records =
      threads.map fun t => (s.record t, some (score t)) := by
  induction threads generalizing records with
  | nil => rfl
  | cons t threads ih =>
    obtain ⟨hnot, hids⟩ := List.nodup_cons.mp hids
    have hfind : (records.reverse.find? fun r => r.thread.id = t.id) = some (s.record t) := by
      cases h : records.reverse.find? fun r => r.thread.id = t.id with
      | none =>
        have hno := List.find?_eq_none.mp h (s.record t)
          (List.mem_reverse.mpr (hmem t List.mem_cons_self))
        exact absurd (decide_eq_true rfl) hno
      | some r =>
        obtain ⟨hr, hid⟩ := mem_of_find? h
        rw [hrec t List.mem_cons_self r hr hid]
    have hne : ∀ u ∈ threads, u.id ≠ t.id := by
      intro u hu heq
      exact hnot (heq ▸ List.mem_map_of_mem hu)
    rw [List.map_cons, List.map_cons, pairUp, hfind]
    -- The record of `t` is used up; the others are still there, as their ids differ from its id.
    refine congrArg _ (ih _ hids ?_ ?_)
    · intro u hu
      exact List.mem_filter.mpr ⟨hmem u (List.mem_cons_of_mem t hu), decide_eq_true (hne u hu)⟩
    · intro u hu r hr
      exact hrec u (List.mem_cons_of_mem t hu) r (List.mem_of_mem_filter hr)

lemma pairUp_fetch (hs : Store.Sound s) (score : Thread → Float) {threads : List Thread}
    (hids : (threads.map Thread.id).Nodup) (hmem : ∀ t ∈ threads, t ∈ s.threads.values) :
    pairUp (threads.map fun t => (t.id, score t)) (s.fetch (threads.map Thread.id)) =
      threads.map fun t => (s.record t, some (score t)) := by
  refine pairUp_map score threads _ hids ?_ ?_
  · intro t ht
    refine List.mem_map_of_mem (List.mem_filter.mpr ⟨hmem t ht, ?_⟩)
    simpa using ⟨t, ht, rfl⟩
  · intro t ht r hr hid
    obtain ⟨u, hu, rfl⟩ := List.mem_map.mp hr
    rw [eq_of_id_eq hs (List.mem_of_mem_filter hu) (hmem t ht) hid]

/-- Ranking the rows of the candidates lists the candidates. -/
lemma rank_rankRows (hboost : g.boost = Ranking.noBoost)
    (hc : sortColumn? q = none) :
    Ranking.rank g.boost g.ranking (!(q.compile g.tags).tagIds.isEmpty) now q.direction
      (s.rankRows (q.compile g.tags).filter (q.compile g.tags).tagIds) =
        (listed g s q now).map (ranked g s q now) := by
  have hcomparison : comparison g s q now = fun a b =>
      Ranking.precedes q.direction (ranked g s q now a) (ranked g s q now b) := by
    unfold comparison
    rw [hc]
  unfold listed
  rw [hcomparison, List.map_mergeSort (s := Ranking.precedes q.direction) fun a _ b _ => rfl]
  unfold Ranking.rank Store.rankRows
  rw [hboost, List.map_map]
  rfl

/-- The threads on the page of a query. -/
def threadsOf (g : SearchSettings) (s : Store) (q : Query) (now : Instant) : List Thread :=
  pageAt (listed g s q now) q.offset q.limit

lemma rankedWindow_eq (hboost : g.boost = Ranking.noBoost) (hc : sortColumn? q = none) :
    rankedWindow g s q now = (threadsOf g s q now).map fun t => (t.id, scoreOf g s q now t) := by
  unfold rankedWindow window threadsOf pageAt
  rw [rank_rankRows hboost hc, ← List.map_drop, ← List.map_take, List.map_map]
  rfl

lemma found_of_ranked (hs : Store.Sound s) (hboost : g.boost = Ranking.noBoost)
    (hc : sortColumn? q = none) :
    found g s q now =
      (threadsOf g s q now).map fun t => (s.record t, shownScore g s q now t) := by
  have hsub : (threadsOf g s q now).Sublist (listed g s q now) :=
    (List.take_sublist _ _).trans (List.drop_sublist _ _)
  have hlist : Listing g s q now (listed g s q now) := listed_listing hs
  have hscore (t : Thread) : shownScore g s q now t = some (scoreOf g s q now t) := by
    unfold shownScore
    rw [hc]
  have hids : ((threadsOf g s q now).map Thread.id).Nodup := hlist.once.sublist (hsub.map _)
  have hstored : ∀ t ∈ threadsOf g s q now, t ∈ s.threads.values :=
    fun t ht => ((hlist.complete t).mp (hsub.subset ht)).1
  unfold found
  rw [hc]
  simp only [rankedWindow_eq hboost hc, hscore, List.map_map]
  exact pairUp_fetch hs _ hids hstored

lemma found_of_column {column : SortColumn} (hc : sortColumn? q = some column)
    (hlimit : 0 ≤ q.limit) :
    found g s q now =
      (threadsOf g s q now).map fun t => (s.record t, shownScore g s q now t) := by
  have hlisted : listed g s q now =
      (s.candidates (q.compile g.tags).filter).mergeSort (s.inOrder (pageOrder q column)) := by
    unfold listed comparison
    rw [hc]
  have hscore (t : Thread) : shownScore g s q now t = none := by
    unfold shownScore
    rw [hc]
  have hpage : s.page (q.compile g.tags).filter (pageOrder q column) q.offset q.limit =
      (threadsOf g s q now).map s.record := by
    unfold Store.page Store.cut threadsOf pageAt
    rw [hlisted, if_neg (not_lt.mpr hlimit)]
  unfold found
  rw [hc]
  simp only [hpage, hscore, List.map_map]
  rfl

section Page

variable (hs : Store.Sound s) (hboost : g.boost = Ranking.noBoost)

include hs hboost

/-- Both ways to a page give the same threads of the list. -/
lemma found_eq (hlimit : 0 ≤ q.limit) :
    found g s q now =
      (threadsOf g s q now).map fun t => (s.record t, shownScore g s q now t) := by
  cases hc : sortColumn? q with
  | some column => exact found_of_column hc hlimit
  | none => exact found_of_ranked hs hboost hc

lemma answer_eq (hlimit : 0 ≤ q.limit) :
    answer g s q now = ⟨(listed g s q now).length, q.limit, q.offset,
      (threadsOf g s q now).map (shown g s q now)⟩ := by
  unfold answer
  rw [found_eq hs hboost hlimit, List.map_map, length_listed]
  rfl

/-- What a page takes depends on its threads only. -/
lemma asked_eq (hlimit : 1 ≤ q.limit) :
    asked g s q now = callsFor g q (threadsOf g s q now) := by
  have hids : (found g s q now).map (fun hit => hit.1.thread.id) =
      (threadsOf g s q now).map Thread.id := by
    rw [found_eq hs hboost (by omega), List.map_map]
    rfl
  have hfetched : fetched g q ((rankedWindow g s q now).map (·.1)) =
      fetched g q ((threadsOf g s q now).map Thread.id) := by
    unfold fetched
    cases hc : sortColumn? q with
    | some column => rfl
    | none =>
      rw [rankedWindow_eq hboost hc, List.map_map]
      rfl
  have hempty : (threadsOf g s q now).isEmpty = true ↔
      s.count (q.compile g.tags).filter = 0 ∨ s.count (q.compile g.tags).filter ≤ q.offset := by
    unfold threadsOf pageAt Store.count
    rw [List.isEmpty_iff, List.take_eq_nil_iff, List.drop_eq_nil_iff, length_listed]
    omega
  unfold asked callsFor
  rw [hids, hfetched]
  simp only [hempty]

end Page

lemma flatMap_windows {α : Type} (xs : List α) (size count : Nat) :
    (List.range count).flatMap (fun i => (xs.drop (i * size)).take size) =
      xs.take (count * size) := by
  induction count with
  | zero => simp
  | succ count ih =>
    rw [List.range_succ, List.flatMap_append, ih, List.flatMap_singleton, Nat.succ_mul,
      List.take_add]

lemma run_repage (hs : Store.Sound s) (hboost : g.boost = Ranking.noBoost) {r : Request}
    (h : r.validate now = .ok q) (e : Engine) {offset limit : Int} (ho : 0 ≤ offset)
    (hl : 1 ≤ limit) (hm : limit ≤ Request.maxLimit) :
    run (s.backend e) g { r with offset, limit } now =
      e.reply (callsFor g { q with offset, limit } (pageAt (listed g s q now) offset limit))
        ⟨(listed g s q now).length, limit, offset,
          (pageAt (listed g s q now) offset limit).map (shown g s q now)⟩ := by
  have hanswer : answer g s { q with offset, limit } now = _ :=
    answer_eq hs hboost (Int.le_of_lt hl)
  have hasked : asked g s { q with offset, limit } now = _ := asked_eq hs hboost hl
  rw [run_of_valid (Request.validate_repage h ho hl hm), hanswer, hasked]
  rfl

lemma pagesOf_listed (hs : Store.Sound s) (hboost : g.boost = Ranking.noBoost) (e : Engine)
    {r : Request} (h : r.validate now = .ok q) : PagesOf g s q now e r (listed g s q now) where
  window _ _ ho hl hm := run_repage hs hboost h e ho hl hm
  tiling limit hl hm pages hpages hcount := by
    have hresults : pages.map Page.results = (List.range pages.length).map fun i =>
        (((listed g s q now).map (shown g s q now)).drop (i * limit)).take limit := by
      refine List.ext_getElem (by simp) ?_
      intro i hi hi'
      rw [List.length_map] at hi
      have hpage := hpages i hi
      rw [run_repage hs hboost h e (Int.natCast_nonneg _) (by omega) hm] at hpage
      rw [List.getElem_map, List.getElem_map, List.getElem_range, Engine.eq_of_reply hpage,
        ← List.map_drop, ← List.map_take]
      rfl
    rw [List.flatMap_def, hresults, ← List.flatMap_def, flatMap_windows,
      List.take_of_length_le (by simpa using hcount)]

/-- A search answers with pages of one list: the candidates of its query, each once and in order. It
fails exactly if a call for the page fails. -/
theorem run_pages_listing (history : List Write) (tags : TagSnapshot)
    (config : RankingConfig Float) {r : Request} {now : Instant} {q : Query}
    (h : r.validate now = .ok q) :
    let s := Store.after history
    let g : SearchSettings := ⟨tags, config, Ranking.noBoost⟩
    ∃ threads, Listing g s q now threads ∧ ∀ e, PagesOf g s q now e r threads :=
  ⟨_, listed_listing (Store.sound_after history),
    fun e => pagesOf_listed (Store.sound_after history) rfl e h⟩

/-- Two threads, one of them in the channel that is searched and collected by the viewer. SQLite
answers all calls. -/
theorem run_pages_listing_collected :
    let t (id channel : Int) : Thread :=
      ⟨id, channel, 1, ['a'], ⟨0, 0⟩, ⟨0, 0⟩, 0, 0, none, [], 0⟩
    let s := Store.after [.thread (t 1 1) [], .thread (t 2 3) [], .collect 5 2 ⟨60, 0⟩]
    let g : SearchSettings := ⟨.empty, .standard, Ranking.noBoost⟩
    let r : Request :=
      { viewer := some 5, channels := [3], limit := 1, sortMethod := "collected_at".toList }
    ∃ q, r.validate ⟨0, 0⟩ = .ok q ∧
      (∃ threads, Listing g s q ⟨0, 0⟩ threads ∧ ∀ e, PagesOf g s q ⟨0, 0⟩ e r threads) ∧
      ∃ page, (run (s.backend .sqlite) g r ⟨0, 0⟩).1 = .ok page ∧ page.total = 1 ∧
        page.results.map (fun x => (x.record.thread.id, x.collected)) = [(2, true)] := by
  intro t s g r
  have hq : r.validate ⟨0, 0⟩ = .ok _ := rfl
  have hrun : run (s.backend .sqlite) g r ⟨0, 0⟩ = _ := run_of_valid hq .sqlite
  rw [Engine.reply_of_answers (by decide +kernel)] at hrun
  exact ⟨_, hq, run_pages_listing _ .empty .standard hq, _, congrArg Prod.fst hrun,
    by decide +kernel, by decide +kernel⟩

section Uncounted

variable {r : Request} {e : Engine}

/-- Nothing more is asked if the candidates are not counted. -/
lemma run_uncounted (h : r.validate now = .ok q)
    (hcount : e (.count (q.compile g.tags).filter) ≠ none) :
    run (s.backend e) g r now = (.error .searchFailed, [.count (q.compile g.tags).filter]) := by
  have hfails : ¬e.Answers (asked g s q now) :=
    fun hanswers => hcount (hanswers _ List.mem_cons_self)
  rw [run_of_valid h, Engine.reply, if_neg hfails, asked, Engine.made, if_neg hcount]

lemma length_le_filterValues {ids : List Int} {filter : List Predicate}
    (h : .threadNotIn ids ∈ filter) : ids.length ≤ filterValues filter := by
  rw [filterValues, ← List.foldl_map, ← List.sum_eq_foldl]
  exact List.le_sum_of_mem (List.mem_map_of_mem h)

/-- SQLite does not search if it is to leave out more threads than it binds values. -/
theorem run_too_many_excluded (h : r.validate now = .ok q)
    (hmany : Engine.maxValues < r.excludeThreads.length) :
    run (s.backend .sqlite) g r now =
      (.error .searchFailed, [.count (q.compile g.tags).filter]) := by
  obtain ⟨-, -, -, -, -, -, -, hq⟩ := Request.validate_eq_ok_iff.mp h
  have hexcluded : q.excludeThreads = r.excludeThreads := by rw [hq]
  have hne : q.excludeThreads.isEmpty = false := by
    rw [List.isEmpty_eq_false_iff, ← List.length_pos_iff, hexcluded]
    exact Nat.zero_lt_of_lt hmany
  have hmem : .threadNotIn q.excludeThreads ∈ (q.compile g.tags).filter := by
    simp [Query.compile, Query.unlessEmpty, hne]
  have hvalues : Engine.maxValues < (Call.count (q.compile g.tags).filter).values :=
    (hexcluded ▸ hmany).trans_le (length_le_filterValues hmem)
  refine run_uncounted h ?_
  rw [Engine.sqlite, if_pos hvalues]
  exact Option.some_ne_none _

end Uncounted

/-- Leaving out one thread 32767 times is too much. -/
theorem run_too_many_excluded_repeated :
    let t : Thread := ⟨1, 1, 1, ['a'], ⟨0, 0⟩, ⟨0, 0⟩, 0, 0, none, [], 0⟩
    let s := Store.after [.thread t []]
    let g : SearchSettings := ⟨.empty, .standard, Ranking.noBoost⟩
    let r : Request :=
      { excludeThreads := List.replicate 32767 0, sortMethod := "created_at".toList }
    ∃ q, r.validate ⟨0, 0⟩ = .ok q ∧
      (run (s.backend .sqlite) g r ⟨0, 0⟩).1 = .error .searchFailed := by
  intro t s g r
  have hq : r.validate ⟨0, 0⟩ = .ok _ := rfl
  have hmany : Engine.maxValues < r.excludeThreads.length := by
    rw [List.length_replicate]
    decide
  exact ⟨_, hq, congrArg Prod.fst (run_too_many_excluded hq hmany)⟩

end Search

end ForumSearch
