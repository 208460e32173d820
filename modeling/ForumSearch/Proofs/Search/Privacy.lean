import ForumSearch.Proofs.Search.View

/-!
# Votes, collections and the page

Votes reach a page only through the tags that are asked for. Collections reach it only for the user
who looks at it: as marks, and beyond these only if the request is for collected threads or for the
order of collection.
-/

namespace ForumSearch

namespace Request

/-- Another viewer asks for the same if collections are not asked for. -/
lemma validate_viewer {r : Request} {now : Instant} {q : Query} (h : r.validate now = .ok q)
    (hall : r.collectedOnly = false) (viewer : Option Int) :
    { r with viewer }.validate now = .ok { q with viewer } := by
  obtain ⟨hb, hca, hcb, haa, hab, hrs, hrp, hq⟩ := validate_eq_ok_iff.mp h
  have hbounds : InBounds { r with viewer } := by
    refine ⟨hb.one_le_limit, hb.limit_le, hb.offset_nonneg, ?_⟩
    intro hcollected
    exact absurd (hall.symm.trans hcollected) Bool.false_ne_true
  refine validate_eq_ok_iff.mpr ⟨hbounds, hca, hcb, haa, hab, hrs, hrp, ?_⟩
  rw [hq]
  rfl

end Request

/-- What a user has collected was written at some time. -/
lemma Store.contains_collections_after (history : List Write) (user thread : Int) :
    (Store.after history).collections.contains (user, thread) = true ↔
      ∃ time, .collect user thread time ∈ history := by
  induction history using List.reverseRecOn with
  | nil => simp [Store.after, Store.empty, Table.contains]
  | append_singleton history w ih =>
    rw [after_append_singleton]
    have hkept : (∃ time, .collect user thread time ∈ history ++ [w]) ↔
        (∃ time, .collect user thread time ∈ history) ∨ ∃ time, .collect user thread time = w := by
      simp only [List.mem_append, List.mem_singleton, exists_or]
    rw [hkept, ← ih]
    cases w with
    | author a => simp [write, upsertAuthor]
    | tag t => simp [write, upsertTag]
    | thread t tagIds => simp [write, upsertThread]
    | vote v => simp [write, applyVote_frame]
    | collect user' thread' time =>
      simp only [write, collect, Table.contains, Table.get?_insert]
      by_cases hkey : (user', thread') = (user, thread)
      · obtain ⟨rfl, rfl⟩ := Prod.mk.inj hkey
        simp
      · rw [if_neg hkey]
        have hother : ¬∃ time', Write.collect user thread time' = .collect user' thread' time := by
          rintro ⟨time', heq⟩
          obtain ⟨rfl, rfl, -⟩ := Write.collect.inj heq
          exact hkey rfl
        rw [or_iff_left hother]

/-- A page without the marks of what its viewer has collected. -/
def Page.unmarked (p : Page) : Page :=
  { p with results := p.results.map fun x => { x with collected := false } }

namespace Search

variable {g : SearchSettings} {s : Store} {q : Query} {now : Instant}

/-- Searches over a store and over what unseen writes leave of it have the same page. -/
lemma run_unseen (history writes : List Write) {r : Request} (h : r.validate now = .ok q)
    (tagIds : List Int) (hwrites : ∀ w ∈ writes, Store.Unseen q.viewer tagIds w)
    (hscore : sortColumn? q = none → tagIds = (q.compile g.tags).tagIds) (e : Engine) :
    run ((Store.after (history ++ writes)).backend e) g r now =
      e.reply (asked g (Store.after history) q now) (answer g (Store.after history) q now) := by
  have halike : Store.Alike q.viewer tagIds (Store.after history)
      (Store.after (history ++ writes)) := Store.Alike.after_append history hwrites
  rw [run_of_valid h, asked_congr halike hscore, answer_congr halike hscore]

/-- Votes on tags that the request does not include do not change its page. If no included tag is
known, or the order is not by score, then no vote does. -/
theorem run_unvoted (history : List Write) (tags : TagSnapshot) (config : RankingConfig Float)
    (boost : Ranking.Boost) {r : Request} {now : Instant} {q : Query}
    (h : r.validate now = .ok q) :
    let g : SearchSettings := ⟨tags, config, boost⟩
    ∃ calls page, (∀ e, run ((Store.after history).backend e) g r now = e.reply calls page) ∧
      ∀ votes : List Vote,
        (∀ v ∈ votes, v.tag ∉ tags.resolveAll q.includeTags) ∨
          (∀ name ∈ q.includeTags, tags.resolve name = []) ∨
          (∃ column, q.sortMethod.effective = .column column) →
        ∀ e, run ((Store.after (history ++ votes.map .vote)).backend e) g r now =
          e.reply calls page := by
  intro g
  refine ⟨_, _, run_of_valid h, ?_⟩
  intro votes hvotes
  have hother (hnot : ∀ v ∈ votes, v.tag ∉ tags.resolveAll q.includeTags) (e : Engine) :
      run ((Store.after (history ++ votes.map .vote)).backend e) g r now =
        e.reply (asked g (Store.after history) q now) (answer g (Store.after history) q now) := by
    refine run_unseen history _ h _ ?_ (fun _ => rfl) e
    intro w hw
    obtain ⟨v, hv, rfl⟩ := List.mem_map.mp hw
    exact hnot v hv
  rcases hvotes with hvotes | hnone | ⟨column, hcolumn⟩
  · exact hother hvotes
  · refine hother ?_
    intro v _
    rw [(Query.resolveAll_eq_nil tags).mpr hnone]
    exact List.not_mem_nil
  · -- In an order by a column no tag counts, so every vote is unseen.
    refine run_unseen history _ h [] ?_ ?_
    · intro w hw
      obtain ⟨v, -, rfl⟩ := List.mem_map.mp hw
      exact List.not_mem_nil
    · intro hscore
      simp [sortColumn?, hcolumn] at hscore

/-- The tag of the votes is carried by the thread, and its counters change. -/
theorem run_unvoted_other_tag :
    let t : Thread := ⟨1, 1, 1, ['x'], ⟨0, 0⟩, ⟨0, 0⟩, 0, 0, none, [], 0⟩
    let history : List Write := [.thread t [10, 11], .vote ⟨7, 1, 10, .up⟩]
    let votes : List Vote := [⟨7, 1, 11, .up⟩, ⟨8, 1, 11, .down⟩, ⟨8, 1, 12, .up⟩]
    let tags := TagSnapshot.ofTags [⟨10, ['a']⟩, ⟨11, ['b']⟩]
    let g : SearchSettings := ⟨tags, .standard, Ranking.noBoost⟩
    let r : Request := { includeTags := [['a']] }
    ∃ q, r.validate ⟨0, 0⟩ = .ok q ∧ (∀ v ∈ votes, v.tag ∉ tags.resolveAll q.includeTags) ∧
      (Store.after (history ++ votes.map .vote)).links.get? (1, 11) = some ⟨1, 1⟩ ∧
      ∃ page, (run ((Store.after history).backend .sqlite) g r ⟨0, 0⟩).1 = .ok page ∧
        page.total = 1 ∧
        (run ((Store.after (history ++ votes.map .vote)).backend .sqlite) g r ⟨0, 0⟩).1 =
          .ok page := by
  intro t history votes tags g r
  have hq : r.validate ⟨0, 0⟩ = .ok _ := rfl
  have hother : ∀ v ∈ votes, v.tag ∉ tags.resolveAll (Request.normalNames r.includeTags) := by
    decide
  obtain ⟨calls, page, hrun, hsame⟩ := run_unvoted history tags .standard Ranking.noBoost hq
  obtain ⟨hcalls, hpage⟩ := eq_of_runs hq hrun
  have hanswers : Engine.sqlite.Answers calls := by
    rw [← hcalls]
    decide +kernel
  refine ⟨_, hq, hother, by decide, page, ?_, ?_, ?_⟩
  · rw [hrun, Engine.reply_of_answers hanswers]
  · rw [← hpage]
    decide +kernel
  · rw [hsame votes (.inl hother), Engine.reply_of_answers hanswers]

lemma compile_viewer (hall : q.collectedOnly = false) (viewer : Option Int) (tags : TagSnapshot) :
    { q with viewer }.compile tags = q.compile tags := by
  unfold Query.compile
  simp only [hall]
  rfl

lemma found_viewer (hall : q.collectedOnly = false)
    (hcolumn : sortColumn? q ≠ some .collectedAt) (viewer : Option Int) :
    found g s { q with viewer } now = found g s q now := by
  have hpage {column : SortColumn} (hne : column ≠ .collectedAt) :
      s.inOrder (pageOrder { q with viewer } column) = s.inOrder (pageOrder q column) := by
    have hkey (t : Thread) : s.sortKey (pageOrder { q with viewer } column) t =
        s.sortKey (pageOrder q column) t := by
      cases column with
      | collectedAt => exact absurd rfl hne
      | createdAt => rfl
      | lastActiveAt => rfl
      | reactions => rfl
      | replies => rfl
    funext a b
    simp only [Store.inOrder, hkey]
    rfl
  have hmethod : sortColumn? { q with viewer } = sortColumn? q := rfl
  unfold found rankedWindow
  rw [compile_viewer hall, hmethod]
  cases hc : sortColumn? q with
  | none => rfl
  | some column =>
    have hne : column ≠ .collectedAt := by
      rintro rfl
      exact hcolumn hc
    simp only [Store.page, hpage hne]

lemma unmarked_answer_viewer (hall : q.collectedOnly = false)
    (hcolumn : sortColumn? q ≠ some .collectedAt) (viewer : Option Int) :
    (answer g s { q with viewer } now).unmarked = (answer g s q now).unmarked := by
  unfold answer Page.unmarked
  rw [compile_viewer hall, found_viewer hall hcolumn]
  simp only [List.map_map]
  rfl

/-- Collections are private. What other users collect does not change a page, and a result is
marked exactly if its viewer has collected its thread. Unless the request asks for collected threads
or for the order of collection, nothing but the marks depends on the viewer. -/
theorem run_private (history : List Write) (tags : TagSnapshot) (config : RankingConfig Float)
    (boost : Ranking.Boost) {r : Request} {now : Instant} {q : Query}
    (h : r.validate now = .ok q) :
    let g : SearchSettings := ⟨tags, config, boost⟩
    ∃ calls page, (∀ e, run ((Store.after history).backend e) g r now = e.reply calls page) ∧
      (∀ others : List (Int × Int × Instant), (∀ c ∈ others, r.viewer ≠ some c.1) →
        ∀ e, run ((Store.after (history ++ others.map fun c =>
          .collect c.1 c.2.1 c.2.2)).backend e) g r now = e.reply calls page) ∧
      (∀ x ∈ page.results, x.collected = true ↔ ∃ viewer, r.viewer = some viewer ∧
        ∃ time, .collect viewer x.record.thread.id time ∈ history) ∧
      (r.collectedOnly = false → q.sortMethod.effective ≠ .column .collectedAt →
        ∀ viewer, ∃ calls' page',
          (∀ e, run ((Store.after history).backend e) g { r with viewer } now =
            e.reply calls' page') ∧
          page'.unmarked = page.unmarked) := by
  intro g
  obtain ⟨-, -, -, -, -, -, -, hq⟩ := Request.validate_eq_ok_iff.mp h
  have hviewer : q.viewer = r.viewer := by rw [hq]
  refine ⟨_, answer g (Store.after history) q now, run_of_valid h, ?_, ?_, ?_⟩
  · intro others hothers
    refine run_unseen history _ h _ ?_ fun _ => rfl
    intro w hw
    obtain ⟨c, hc, rfl⟩ := List.mem_map.mp hw
    exact hviewer ▸ hothers c hc
  · intro x hx
    obtain ⟨hit, -, rfl⟩ := List.mem_map.mp hx
    change isCollected (Store.after history) q hit.1.thread.id = true ↔ _
    rw [isCollected, Option.any_eq_true, hviewer]
    simp only [Store.contains_collections_after]
    rfl
  · intro hall hmethod viewer
    have hcollectedOnly : q.collectedOnly = false := by
      rw [hq]
      exact hall
    have hcolumn : sortColumn? q ≠ some .collectedAt := by
      unfold sortColumn?
      cases he : q.sortMethod.effective with
      | column column =>
        intro heq
        obtain rfl := Option.some.inj heq
        exact hmethod he
      | comprehensive => simp
      | custom base => simp
    exact ⟨_, _, run_of_valid (Request.validate_viewer h hall viewer),
      unmarked_answer_viewer hcollectedOnly hcolumn viewer⟩

/-- Two users have collected a thread, and one of them looks at it. The other one and a third user
collect it later. -/
theorem run_private_of_two :
    let t : Thread := ⟨1, 1, 1, ['x'], ⟨0, 0⟩, ⟨0, 0⟩, 0, 0, none, [], 0⟩
    let history : List Write := [.thread t [], .collect 5 1 ⟨60, 0⟩, .collect 6 1 ⟨70, 0⟩]
    let others : List (Int × Int × Instant) := [(6, 1, ⟨80, 0⟩), (7, 1, ⟨90, 0⟩)]
    let g : SearchSettings := ⟨.empty, .standard, Ranking.noBoost⟩
    let r : Request := { viewer := some 5, sortMethod := "created_at".toList }
    ∃ q, r.validate ⟨0, 0⟩ = .ok q ∧
      ∃ page, (run ((Store.after history).backend .sqlite) g r ⟨0, 0⟩).1 = .ok page ∧
        page.results.map (fun x => (x.record.thread.id, x.collected)) = [(1, true)] ∧
        (run ((Store.after (history ++ others.map fun c =>
          .collect c.1 c.2.1 c.2.2)).backend .sqlite) g r ⟨0, 0⟩).1 = .ok page ∧
        ∃ calls' page',
          (∀ e, run ((Store.after history).backend e) g { r with viewer := none } ⟨0, 0⟩ =
            e.reply calls' page') ∧
          page'.unmarked = page.unmarked := by
  intro t history others g r
  have hq : r.validate ⟨0, 0⟩ = .ok _ := rfl
  obtain ⟨calls, page, hrun, hothers, -, hviewer⟩ :=
    run_private history .empty .standard Ranking.noBoost hq
  obtain ⟨hcalls, hpage⟩ := eq_of_runs hq hrun
  have hanswers : Engine.sqlite.Answers calls := by
    rw [← hcalls]
    decide +kernel
  refine ⟨_, hq, page, ?_, ?_, ?_, hviewer rfl (by decide) _⟩
  · rw [hrun, Engine.reply_of_answers hanswers]
  · rw [← hpage]
    decide +kernel
  · rw [hothers others (by decide), Engine.reply_of_answers hanswers]

end Search

end ForumSearch
