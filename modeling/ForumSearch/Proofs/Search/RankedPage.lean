import ForumSearch.Proofs.Query.Request
import ForumSearch.Proofs.Search.Conversation

/-!
# Pages of the ranking

Under the order by score, a page joins two answers of the backend: the rows that are ranked, and
the records of the threads on the page. They are joined by thread, whatever the two answers are:
rows may repeat a thread, and records may be missing, out of order or not asked for.
-/

namespace ForumSearch.Search

/-- The rows that are on a page of the ranking of a compiled query. -/
def placed (g : SearchSettings) (q : Query) (now : Instant) (rows : List RankRow) :
    List Ranking.Ranked :=
  onPage g q (q.compile g.tags) now rows

/-- What the backend answers when a page of the ranking is asked for: there are candidates on the
page, rows to rank, and records for the threads that are placed on it. -/
structure Answers (b : Backend) (g : SearchSettings) (q : Query) (now : Instant) (total : Int)
    (rows : List RankRow) (records : List ThreadRecord) : Prop where
  count : b.count (q.compile g.tags).filter = .ok total
  more : q.offset < total
  rank : b.rank (q.compile g.tags).filter (q.compile g.tags).tagIds = .ok rows
  hydrate : b.hydrate ((placed g q now rows).map (·.row.thread)) = .ok records

/-- What results show of ranked rows and records: the threads of the rows that have a record, in
the order of the rows and each once, with the last record of the thread and the first score. -/
structure Joins (limit : Int) (rows : List Ranking.Ranked) (records : List ThreadRecord)
    (results : List Summary) : Prop where
  length : results.length ≤ limit
  distinct : (results.map (·.record.thread.id)).Nodup
  inOrder : (results.map (·.record.thread.id)).Sublist (rows.map (·.row.thread))
  answered : ∀ id, id ∈ results.map (·.record.thread.id) ↔
    id ∈ rows.map (·.row.thread) ∧ ∃ record ∈ records, record.thread.id = id
  record : ∀ x ∈ results, ∃ before after, records = before ++ x.record :: after ∧
    ∀ y ∈ after, y.thread.id ≠ x.record.thread.id
  score : ∀ x ∈ results, ∃ before y after, rows = before ++ y :: after ∧
    y.row.thread = x.record.thread.id ∧ x.score = some y.score ∧
      ∀ z ∈ before, z.row.thread ≠ x.record.thread.id

section Joins

variable {g : SearchSettings} {q : Query} {now : Instant} {rows : List RankRow}
  {records : List ThreadRecord}

lemma threads_placed (g : SearchSettings) (q : Query) (now : Instant) (rows : List RankRow) :
    (window g q (q.compile g.tags) now rows).map (·.1) =
      (placed g q now rows).map (·.row.thread) :=
  threads_window g q (q.compile g.tags) now rows

/-- What is paired up is joined, whatever is marked as collected. -/
lemma joins_pairUp (hlimit : 0 ≤ q.limit) (records : List ThreadRecord) (collected : List Int) :
    Joins q.limit (placed g q now rows) records
      ((pairUp (window g q (q.compile g.tags) now rows) records).map
        (Summary.of g.tags collected)) := by
  set hits := pairUp (window g q (q.compile g.tags) now rows) records with hhits
  have hids : (hits.map (Summary.of g.tags collected)).map (·.record.thread.id) =
      hits.map (·.1.thread.id) := by
    rw [List.map_map]
    rfl
  have hsublist := sublist_pairUp (window g q (q.compile g.tags) now rows) records
  rw [← hhits, threads_placed] at hsublist
  have hcut : (placed g q now rows).length ≤ q.limit.toNat := List.length_take_le _ _
  constructor
  case length =>
    have hlength := hsublist.length_le
    rw [List.length_map, List.length_map] at hlength
    rw [List.length_map]
    omega
  case distinct =>
    rw [hids]
    exact nodup_pairUp _ _
  case inOrder =>
    rw [hids]
    exact hsublist
  case answered =>
    intro id
    rw [hids, hhits, ids_pairUp, List.mem_eraseDups, List.mem_filter, threads_placed]
    simp only [hasRecord, List.any_eq_true, decide_eq_true_eq]
  case record =>
    intro x hx
    obtain ⟨hit, hhit, rfl⟩ := List.mem_map.mp hx
    obtain ⟨-, after, before, hrecords, hafter⟩ :=
      List.find?_eq_some_iff_append.mp (find?_of_mem_pairUp hhit).1
    refine ⟨before.reverse, after.reverse, ?_, fun y hy => ?_⟩
    · rw [← List.reverse_reverse records, hrecords]
      simp [Summary.of]
    · simpa [Summary.of] using hafter y (List.mem_reverse.mp hy)
  case score =>
    intro x hx
    obtain ⟨hit, hhit, rfl⟩ := List.mem_map.mp hx
    obtain ⟨-, score, hscore, hrow⟩ := find?_of_mem_pairUp hhit
    rw [window_eq, List.find?_map, Option.map_eq_some_iff] at hrow
    obtain ⟨y, hfind, hy⟩ := hrow
    obtain ⟨hthread, rfl⟩ := Prod.mk.inj hy
    obtain ⟨-, before, after, hrows, hbefore⟩ := List.find?_eq_some_iff_append.mp hfind
    refine ⟨before, y, after, hrows, hthread, hscore, ?_⟩
    exact fun z hz => by simpa [Summary.of] using hbefore z hz

end Joins

section Run

variable {b : Backend} {g : SearchSettings} {r : Request} {now : Instant} {q : Query}

lemma bounds_of_validate (h : r.validate now = .ok q) : 0 ≤ q.offset ∧ 0 ≤ q.limit := by
  obtain ⟨hbounds, -, -, -, -, -, -, hq⟩ := Request.validate_eq_ok_iff.mp h
  rw [hq]
  exact ⟨hbounds.offset_nonneg, zero_le_one.trans hbounds.one_le_limit⟩

/-- Asking which threads are collected fails at most by the answer of the backend. -/
lemma exists_makes_collectedAmong (b : Backend) (q : Query) (ids : List Int) :
    ∃ calls answer, (collectedAmong b q ids).Makes calls answer ∧
      ((∀ viewer, q.viewer = some viewer → ∃ marks, b.collected viewer ids = .ok marks) →
        ∃ marks, answer = .ok marks) := by
  by_cases hnone : q.viewer = none ∨ ids = []
  · exact ⟨_, _, makes_collectedAmong_nil hnone, fun _ => ⟨_, rfl⟩⟩
  · obtain ⟨hv, hne⟩ := not_or.mp hnone
    obtain ⟨viewer, hv⟩ := Option.ne_none_iff_exists'.mp hv
    exact ⟨_, _, makes_collectedAmong hv hne, fun hmarks => hmarks viewer hv⟩

variable {total : Int} {rows : List RankRow} {records records' : List ThreadRecord}

lemma Answers.makes_hits (ha : Answers b g q now total rows records)
    (hsort : q.sortMethod.effective = .comprehensive) :
    (hits b g q (q.compile g.tags) now).Makes
      [.rank (q.compile g.tags).filter (q.compile g.tags).tagIds,
        .hydrate ((placed g q now rows).map (·.row.thread))]
      (.ok (pairUp (window g q (q.compile g.tags) now rows) records)) := by
  have hranked := Traced.makes_ask (.rank (q.compile g.tags).filter (q.compile g.tags).tagIds)
    (b.rank (q.compile g.tags).filter (q.compile g.tags).tagIds)
  have hpaired := (Traced.makes_ask (.hydrate ((placed g q now rows).map (·.row.thread)))
    (b.hydrate ((placed g q now rows).map (·.row.thread)))).map
      (pairUp (window g q (q.compile g.tags) now rows))
  rw [ha.rank] at hranked
  rw [ha.hydrate] at hpaired
  unfold hits rankedPage
  rw [hsort, ha.rank]
  refine hranked.bind ?_
  dsimp only
  rw [threads_placed, ha.hydrate]
  exact hpaired

/-- Once rows and records are answered, all that is left is the question who collected them. -/
lemma Answers.run_eq (ha : Answers b g q now total rows records) (h : r.validate now = .ok q)
    (hsort : q.sortMethod.effective = .comprehensive)
    {calls : List Call} {answer : Except String (List Int)}
    (hmarks : (collectedAmong b q ((pairUp (window g q (q.compile g.tags) now rows)
      records).map (·.1.thread.id))).Makes calls answer) :
    run b g r now =
      ((answer.map (shownPage g q total (pairUp (window g q (q.compile g.tags) now rows)
        records))).mapError fun _ => .searchFailed,
      .count (q.compile g.tags).filter ::
        ([.rank (q.compile g.tags).filter (q.compile g.tags).tagIds,
          .hydrate ((placed g q now rows).map (·.row.thread))] ++ calls)) := by
  have hoffset : 0 ≤ q.offset := (bounds_of_validate h).1
  have hmore := ha.more
  have hmakes := makes_execute_found ha.count ⟨by omega, hmore⟩ (ha.makes_hits hsort) hmarks
  unfold run
  rw [h]
  dsimp only
  rw [hmakes []]
  rfl

lemma Answers.joins (ha : Answers b g q now total rows records) (h : r.validate now = .ok q)
    (hsort : q.sortMethod.effective = .comprehensive) {page : Page}
    (hpage : (run b g r now).1 = .ok page) :
    Joins q.limit (placed g q now rows) records page.results := by
  obtain ⟨calls, answer, hmakes, -⟩ := exists_makes_collectedAmong b q
    ((pairUp (window g q (q.compile g.tags) now rows) records).map (·.1.thread.id))
  rw [ha.run_eq h hsort hmakes] at hpage
  cases answer with
  | error reason => exact absurd hpage (by simp [Except.map, Except.mapError])
  | ok marks =>
    obtain rfl := Except.ok.inj hpage
    exact joins_pairUp (bounds_of_validate h).2 records marks

lemma Answers.exists_page (ha : Answers b g q now total rows records)
    (h : r.validate now = .ok q) (hsort : q.sortMethod.effective = .comprehensive)
    (hcollected : ∀ viewer, q.viewer = some viewer →
      ∀ ids, ∃ marks, b.collected viewer ids = .ok marks) :
    ∃ page, (run b g r now).1 = .ok page := by
  obtain ⟨calls, answer, hmakes, hanswered⟩ := exists_makes_collectedAmong b q
    ((pairUp (window g q (q.compile g.tags) now rows) records).map (·.1.thread.id))
  obtain ⟨marks, rfl⟩ := hanswered fun viewer hviewer => hcollected viewer hviewer _
  rw [ha.run_eq h hsort hmakes]
  exact ⟨_, rfl⟩

lemma Answers.run_congr_hydrate (ha : Answers b g q now total rows records)
    (h : r.validate now = .ok q) (hsort : q.sortMethod.effective = .comprehensive)
    (hdistinct : (records.map (·.thread.id)).Nodup)
    {hydrate' : List Int → Except String (List ThreadRecord)}
    (hhydrate : hydrate' ((placed g q now rows).map (·.row.thread)) = .ok records')
    (hperm : records'.Perm records) :
    run { b with hydrate := hydrate' } g r now = run b g r now := by
  have ha' : Answers { b with hydrate := hydrate' } g q now total rows records' :=
    ⟨ha.count, ha.more, ha.rank, hhydrate⟩
  have hpairs : pairUp (window g q (q.compile g.tags) now rows) records' =
      pairUp (window g q (q.compile g.tags) now rows) records :=
    pairUp_congr_perm hperm hdistinct
  obtain ⟨calls, answer, hmakes, -⟩ := exists_makes_collectedAmong b q
    ((pairUp (window g q (q.compile g.tags) now rows) records).map (·.1.thread.id))
  rw [ha.run_eq h hsort hmakes, ← hpairs]
  rw [← hpairs] at hmakes
  -- Both backends are asked alike who collected the threads, and say the same.
  exact ha'.run_eq h hsort hmakes

/-- Threads are fetched for a page of the ranking only if the backend answers rows and records. -/
lemma exists_answers_of_fetches (hsort : q.sortMethod.effective = .comprehensive)
    (hcount : b.count (q.compile g.tags).filter = .ok total) (hmore : q.offset < total)
    {calls : List Call} {found : List (ThreadRecord × Option Float)}
    (hf : Fetches b g q (q.compile g.tags) now calls (some found)) :
    ∃ rows records, Answers b g q now total rows records := by
  cases hf with
  | paged hc h =>
    rw [hsort] at hc
    exact absurd hc (by simp)
  | ranked hc hrank hids hhydrate hfound =>
    rw [hids] at hhydrate
    exact ⟨_, _, hcount, hmore, hrank, hhydrate⟩

/-- A page starts behind the last candidate, so that nothing is ranked for it, or it comes from rows
and records that were answered. -/
lemma exists_answers_of_page (h : r.validate now = .ok q)
    (hsort : q.sortMethod.effective = .comprehensive) {page : Page}
    (hpage : (run b g r now).1 = .ok page) :
    (∃ total, b.count (q.compile g.tags).filter = .ok total ∧ total ≤ q.offset ∧
        (run b g r now).2 = [.count (q.compile g.tags).filter] ∧ page.results = []) ∨
      ∃ total rows records, Answers b g q now total rows records := by
  obtain ⟨calls, answer, hmakes, hconverses⟩ := makes_execute b g q (q.compile g.tags) now
  have hrun : run b g r now = (answer.mapError fun _ => .searchFailed, calls) := by
    unfold run
    rw [h]
    dsimp only
    rw [hmakes []]
    rfl
  rw [hrun] at hpage ⊢
  simp only at hpage ⊢
  rw [hpage] at hconverses
  cases hconverses with
  | @ended total hcount hend =>
    have hoffset := (bounds_of_validate h).1
    exact .inl ⟨total, hcount, by omega, rfl, rfl⟩
  | unasked hcount hmore hf hnone =>
    exact .inr ⟨_, exists_answers_of_fetches hsort hcount hmore.2 hf⟩
  | marked hcount hmore hf hv hne hids hr =>
    exact .inr ⟨_, exists_answers_of_fetches hsort hcount hmore.2 hf⟩

end Run

/-- Whatever rows and records the backend answers, a page of the ranking joins them by thread. It
does not depend on the order of the records if no two of them are of one thread. -/
theorem run_joins {b : Backend} {g : SearchSettings} {r : Request} {now : Instant} {q : Query}
    (h : r.validate now = .ok q) (hsort : q.sortMethod.effective = .comprehensive) :
    (∀ page, (run b g r now).1 = .ok page →
        (∃ total, b.count (q.compile g.tags).filter = .ok total ∧ total ≤ q.offset ∧
          (run b g r now).2 = [.count (q.compile g.tags).filter] ∧ page.results = []) ∨
        ∃ total rows records, Answers b g q now total rows records ∧
          Joins q.limit (placed g q now rows) records page.results) ∧
      ∀ total rows records, Answers b g q now total rows records →
        ((∀ viewer, q.viewer = some viewer → ∀ ids, ∃ marks, b.collected viewer ids = .ok marks) →
          ∃ page, (run b g r now).1 = .ok page ∧
            Joins q.limit (placed g q now rows) records page.results) ∧
        ((records.map (·.thread.id)).Nodup → ∀ hydrate' records',
          hydrate' ((placed g q now rows).map (·.row.thread)) = .ok records' →
            records'.Perm records →
              run { b with hydrate := hydrate' } g r now = run b g r now) := by
  refine ⟨fun page hpage => ?_, fun total rows records ha => ⟨fun hcollected => ?_, ?_⟩⟩
  · refine (exists_answers_of_page h hsort hpage).imp_right ?_
    rintro ⟨total, rows, records, ha⟩
    exact ⟨total, rows, records, ha, ha.joins h hsort hpage⟩
  · obtain ⟨page, hpage⟩ := ha.exists_page h hsort hcollected
    exact ⟨page, hpage, ha.joins h hsort hpage⟩
  · intro hdistinct hydrate' records' hhydrate hperm
    exact ha.run_congr_hydrate h hsort hdistinct hhydrate hperm

/-- A thread is ranked twice, and of the records one is missing, one is not asked for, and the
others are out of order. -/
theorem run_joins_unasked_record :
    let row (id : Int) : RankRow := ⟨id, ⟨0, 0⟩, 0, ⟨0, 0⟩⟩
    let record (id : Int) : ThreadRecord :=
      ⟨⟨id, 1, 1, ['a'], ⟨0, 0⟩, ⟨0, 0⟩, 0, 0, none, [], 0⟩, none, []⟩
    let rows := [row 2, row 1, row 2, row 3]
    let records := [record 9, record 2, record 1]
    let b : Backend :=
      ⟨fun _ => .ok 4, fun _ _ => .ok rows, fun _ _ _ _ => .ok [], fun _ => .ok records,
        fun _ _ => .ok []⟩
    let g : SearchSettings := ⟨.empty, .standard, fun _ _ => 1⟩
    ∃ q, Request.validate {} ⟨0, 0⟩ = .ok q ∧ q.sortMethod.effective = .comprehensive ∧
      (∃ page, (run b g {} ⟨0, 0⟩).1 = .ok page ∧
        Joins q.limit (placed g q ⟨0, 0⟩ rows) records page.results) ∧
      run { b with hydrate := fun _ => .ok records.reverse } g {} ⟨0, 0⟩ =
        run b g {} ⟨0, 0⟩ := by
  intro row record rows records b g
  have hq : Request.validate {} ⟨0, 0⟩ = .ok _ := rfl
  have hsort : (SortMethod.ofNames "comprehensive".toList none).effective = .comprehensive := by
    decide
  obtain ⟨hpage, hreordered⟩ := (run_joins (b := b) (g := g) hq hsort).2 4 rows records
    ⟨rfl, by decide, rfl, rfl⟩
  exact ⟨_, hq, hsort, hpage fun _ _ _ => ⟨[], rfl⟩,
    hreordered (by decide) _ records.reverse rfl (by decide)⟩

end ForumSearch.Search
