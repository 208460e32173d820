import ForumSearch.Proofs.Search.Pairing
import ForumSearch.Proofs.Search.Traced

/-!
# The conversation with the backend

A search asks its backend in a fixed order: how many candidates there are, then for the threads of
the page, then which of these the viewer has collected. What it asks next depends on the answers,
and it asks nothing more after a failure. The backend is any one at all.
-/

namespace ForumSearch

/-- The backend fails a call. -/
def Call.Fails (b : Backend) : Call → Prop
  | .count filter => ∃ reason, b.count filter = .error reason
  | .rank filter tagIds => ∃ reason, b.rank filter tagIds = .error reason
  | .page filter order offset limit => ∃ reason, b.page filter order offset limit = .error reason
  | .hydrate ids => ∃ reason, b.hydrate ids = .error reason
  | .collected user ids => ∃ reason, b.collected user ids = .error reason

/-- The last of some calls fails, and none before it. -/
def FailsLast (b : Backend) (calls : List Call) : Prop :=
  ∃ front last, calls = front ++ [last] ∧ last.Fails b ∧ ∀ call ∈ front, ¬call.Fails b

section Fails

variable {b : Backend} {call : Call} {calls : List Call}

lemma failsLast_singleton (h : call.Fails b) : FailsLast b [call] :=
  ⟨[], call, rfl, h, by simp⟩

lemma FailsLast.cons (h : FailsLast b calls) (hcall : ¬call.Fails b) :
    FailsLast b (call :: calls) := by
  obtain ⟨front, last, rfl, hlast, hfront⟩ := h
  exact ⟨call :: front, last, rfl, hlast, List.forall_mem_cons.mpr ⟨hcall, hfront⟩⟩

lemma not_fails_of_ok {α : Type} {answer : Except String α} {a : α} (h : answer = .ok a) :
    ¬∃ reason, answer = .error reason := by
  rintro ⟨reason, herror⟩
  rw [h] at herror
  exact absurd herror (by simp)

end Fails

namespace Search

/-- The rows that are on a page of the ranking. -/
def onPage (g : SearchSettings) (q : Query) (c : Compiled) (now : Instant) (rows : List RankRow) :
    List Ranking.Ranked :=
  ((Ranking.rank g.boost g.ranking (!c.tagIds.isEmpty) now q.direction rows).drop
    q.offset.toNat).take q.limit.toNat

/-- What is obtained for ranked rows from the records that were answered: the threads that have a
record, in ranked order and each once, with scores of their rows. -/
structure Obtained (ranked : List Ranking.Ranked) (records : List ThreadRecord)
    (found : List (ThreadRecord × Option Float)) : Prop where
  ids : found.map (·.1.thread.id) =
    ((ranked.map (·.row.thread)).filter (hasRecord records)).eraseDups
  records : ∀ hit ∈ found, hit.1 ∈ records
  scores : ∀ hit ∈ found, ∃ x ∈ ranked, x.row.thread = hit.1.thread.id ∧ hit.2 = some x.score

/-- A page of obtained threads, some of them marked as collected. -/
def shownPage (g : SearchSettings) (q : Query) (total : Int)
    (found : List (ThreadRecord × Option Float)) (collected : List Int) : Page :=
  ⟨total, q.limit, q.offset, found.map (Summary.of g.tags collected)⟩

section Specification

variable (b : Backend) (g : SearchSettings) (q : Query) (c : Compiled) (now : Instant)

/-- The calls that ask for the threads of a page, and the threads that are obtained unless a call
fails. -/
inductive Fetches : List Call → Option (List (ThreadRecord × Option Float)) → Prop where
  | unpaged {column : SortColumn} {reason : String}
      (hc : q.sortMethod.effective = .column column)
      (h : b.page c.filter (pageOrder q column) q.offset q.limit = .error reason) :
      Fetches [.page c.filter (pageOrder q column) q.offset q.limit] none
  | paged {column : SortColumn} {records : List ThreadRecord}
      (hc : q.sortMethod.effective = .column column)
      (h : b.page c.filter (pageOrder q column) q.offset q.limit = .ok records) :
      Fetches [.page c.filter (pageOrder q column) q.offset q.limit]
        (some (records.map fun r => (r, none)))
  | unranked {reason : String} (hc : q.sortMethod.effective = .comprehensive)
      (h : b.rank c.filter c.tagIds = .error reason) :
      Fetches [.rank c.filter c.tagIds] none
  | unread {rows : List RankRow} {ids : List Int} {reason : String}
      (hc : q.sortMethod.effective = .comprehensive) (h : b.rank c.filter c.tagIds = .ok rows)
      (hids : ids = (onPage g q c now rows).map (·.row.thread))
      (hr : b.hydrate ids = .error reason) :
      Fetches [.rank c.filter c.tagIds, .hydrate ids] none
  | ranked {rows : List RankRow} {ids : List Int} {records : List ThreadRecord}
      {found : List (ThreadRecord × Option Float)}
      (hc : q.sortMethod.effective = .comprehensive) (h : b.rank c.filter c.tagIds = .ok rows)
      (hids : ids = (onPage g q c now rows).map (·.row.thread))
      (hr : b.hydrate ids = .ok records)
      (hfound : Obtained (onPage g q c now rows) records found) :
      Fetches [.rank c.filter c.tagIds, .hydrate ids] (some found)

/-- The calls of a search, and what it answers. -/
inductive Converses : List Call → Except Error Page → Prop where
  | uncounted {reason : String} (h : b.count c.filter = .error reason) :
      Converses [.count c.filter] (.error .searchFailed)
  | ended {total : Int} (h : b.count c.filter = .ok total) (hend : total = 0 ∨ total ≤ q.offset) :
      Converses [.count c.filter] (.ok ⟨total, q.limit, q.offset, []⟩)
  | unfetched {total : Int} {calls : List Call} (h : b.count c.filter = .ok total)
      (hmore : total ≠ 0 ∧ q.offset < total) (hf : Fetches b g q c now calls none) :
      Converses (.count c.filter :: calls) (.error .searchFailed)
  /-- Nobody is asked about, or no thread. -/
  | unasked {total : Int} {calls : List Call} {found : List (ThreadRecord × Option Float)}
      (h : b.count c.filter = .ok total) (hmore : total ≠ 0 ∧ q.offset < total)
      (hf : Fetches b g q c now calls (some found)) (hnone : q.viewer = none ∨ found = []) :
      Converses (.count c.filter :: calls)
        (.ok (shownPage g q total found []))
  | unmarked {total : Int} {calls : List Call} {found : List (ThreadRecord × Option Float)}
      {viewer : Int} {ids : List Int} {reason : String} (h : b.count c.filter = .ok total)
      (hmore : total ≠ 0 ∧ q.offset < total) (hf : Fetches b g q c now calls (some found))
      (hv : q.viewer = some viewer) (hne : found ≠ []) (hids : ids = found.map (·.1.thread.id))
      (hr : b.collected viewer ids = .error reason) :
      Converses (.count c.filter :: calls ++ [.collected viewer ids]) (.error .searchFailed)
  | marked {total : Int} {calls : List Call} {found : List (ThreadRecord × Option Float)}
      {viewer : Int} {ids collected : List Int} (h : b.count c.filter = .ok total)
      (hmore : total ≠ 0 ∧ q.offset < total) (hf : Fetches b g q c now calls (some found))
      (hv : q.viewer = some viewer) (hne : found ≠ []) (hids : ids = found.map (·.1.thread.id))
      (hr : b.collected viewer ids = .ok collected) :
      Converses (.count c.filter :: calls ++ [.collected viewer ids])
        (.ok (shownPage g q total found collected))

end Specification

variable {b : Backend} {g : SearchSettings} {q : Query} {c : Compiled} {now : Instant}

lemma window_eq (g : SearchSettings) (q : Query) (c : Compiled) (now : Instant)
    (rows : List RankRow) :
    window g q c now rows = (onPage g q c now rows).map fun x => (x.row.thread, x.score) := rfl

lemma threads_window (g : SearchSettings) (q : Query) (c : Compiled) (now : Instant)
    (rows : List RankRow) :
    (window g q c now rows).map (·.1) = (onPage g q c now rows).map (·.row.thread) := by
  rw [window_eq, List.map_map]
  rfl

lemma obtained_pairUp (rows : List RankRow) (records : List ThreadRecord) :
    Obtained (onPage g q c now rows) records (pairUp (window g q c now rows) records) where
  ids := by rw [ids_pairUp, threads_window]
  records _ h := mem_pairUp h
  scores hit h := by
    obtain ⟨score, hscore, hrow⟩ := score_of_mem_pairUp h
    obtain ⟨x, hx, heq⟩ := List.mem_map.mp (window_eq g q c now rows ▸ hrow)
    obtain ⟨hthread, rfl⟩ := Prod.mk.inj heq
    exact ⟨x, hx, hthread, hscore⟩

lemma effective_eq (m : SortMethod) :
    m.effective = .comprehensive ∨ ∃ column, m.effective = .column column := by
  induction m with
  | comprehensive => exact .inl rfl
  | column column => exact .inr ⟨column, rfl⟩
  | custom base ih => exact ih

lemma makes_rankedPage (hc : q.sortMethod.effective = .comprehensive) :
    ∃ calls answer, (rankedPage b g q c now).Makes calls answer ∧
      Fetches b g q c now calls answer.toOption := by
  have hrank := Traced.makes_ask (.rank c.filter c.tagIds) (b.rank c.filter c.tagIds)
  unfold rankedPage
  cases h : b.rank c.filter c.tagIds with
  | error reason =>
    rw [h] at hrank
    exact ⟨_, _, hrank.bind_error, .unranked hc h⟩
  | ok rows =>
    rw [h] at hrank
    set ids := (window g q c now rows).map (·.1) with hids
    have hhydrate := Traced.makes_ask (.hydrate ids) (b.hydrate ids)
    refine ⟨_, _, hrank.bind (hhydrate.map (pairUp (window g q c now rows))), ?_⟩
    rw [threads_window] at hids
    cases hr : b.hydrate ids with
    | error reason => exact .unread hc h hids hr
    | ok records => exact .ranked hc h hids hr (obtained_pairUp _ _)

lemma makes_columnPage {column : SortColumn} (hc : q.sortMethod.effective = .column column) :
    ∃ calls answer, (columnPage b q c column).Makes calls answer ∧
      Fetches b g q c now calls answer.toOption := by
  have hpage := Traced.makes_ask (.page c.filter (pageOrder q column) q.offset q.limit)
    (b.page c.filter (pageOrder q column) q.offset q.limit)
  refine ⟨_, _, hpage.map fun records => records.map fun r => (r, none), ?_⟩
  cases h : b.page c.filter (pageOrder q column) q.offset q.limit with
  | error reason => exact .unpaged hc h
  | ok records => exact .paged hc h

lemma makes_hits (b : Backend) (g : SearchSettings) (q : Query) (c : Compiled) (now : Instant) :
    ∃ calls answer, (hits b g q c now).Makes calls answer ∧
      Fetches b g q c now calls answer.toOption := by
  rcases effective_eq q.sortMethod with hc | ⟨column, hc⟩
  · unfold hits
    rw [hc]
    exact makes_rankedPage hc
  · unfold hits
    rw [hc]
    exact makes_columnPage hc

lemma makes_collectedAmong_nil {ids : List Int} (h : q.viewer = none ∨ ids = []) :
    (collectedAmong b q ids).Makes [] (.ok []) := by
  unfold collectedAmong
  rcases h with hv | rfl
  · rw [hv]
    exact Traced.makes_pure _
  · cases q.viewer with
    | none => exact Traced.makes_pure _
    | some viewer => exact Traced.makes_pure _

lemma makes_collectedAmong {viewer : Int} {ids : List Int} (hv : q.viewer = some viewer)
    (hne : ids ≠ []) :
    (collectedAmong b q ids).Makes [.collected viewer ids] (b.collected viewer ids) := by
  unfold collectedAmong
  rw [hv]
  dsimp only
  rw [if_neg (by simpa using hne)]
  exact Traced.makes_ask _ _

section Execute

variable {total : Int}

lemma makes_execute_ended (h : b.count c.filter = .ok total)
    (hend : total = 0 ∨ total ≤ q.offset) :
    (execute b g q c now).Makes [.count c.filter] (.ok ⟨total, q.limit, q.offset, []⟩) := by
  have hcount := Traced.makes_ask (.count c.filter) (b.count c.filter)
  rw [h] at hcount
  unfold execute
  rw [h]
  change Traced.Makes _ ([.count c.filter] ++ []) _
  refine hcount.bind ?_
  rw [if_pos hend]
  exact Traced.makes_pure _

lemma makes_execute_more (h : b.count c.filter = .ok total)
    (hmore : total ≠ 0 ∧ q.offset < total) {calls : List Call} {answer : Except String Page}
    (hrest : Traced.Makes (do
      let found ← hits b g q c now
      let collected ← collectedAmong b q (found.map fun hit => hit.1.thread.id)
      return shownPage g q total found collected) calls answer) :
    (execute b g q c now).Makes (.count c.filter :: calls) answer := by
  have hcount := Traced.makes_ask (.count c.filter) (b.count c.filter)
  have hend : ¬(total = 0 ∨ total ≤ q.offset) := by omega
  rw [h] at hcount
  unfold execute
  rw [h]
  change Traced.Makes _ ([.count c.filter] ++ calls) _
  refine hcount.bind ?_
  rw [if_neg hend]
  exact hrest

lemma makes_execute_found (h : b.count c.filter = .ok total)
    (hmore : total ≠ 0 ∧ q.offset < total) {calls calls' : List Call}
    {found : List (ThreadRecord × Option Float)} {answer : Except String (List Int)}
    (hhits : (hits b g q c now).Makes calls (.ok found))
    (hmarks : (collectedAmong b q (found.map fun hit => hit.1.thread.id)).Makes calls' answer) :
    (execute b g q c now).Makes (.count c.filter :: (calls ++ calls'))
      (answer.map (shownPage g q total found)) := by
  refine makes_execute_more h hmore (Traced.Makes.bind hhits ?_)
  exact hmarks.map (shownPage g q total found)

/-- The search of an accepted request follows the conversation. -/
lemma makes_execute (b : Backend) (g : SearchSettings) (q : Query) (c : Compiled) (now : Instant) :
    ∃ calls answer, (execute b g q c now).Makes calls answer ∧
      Converses b g q c now calls (answer.mapError fun _ => .searchFailed) := by
  cases h : b.count c.filter with
  | error reason =>
    have hcount := Traced.makes_ask (.count c.filter) (b.count c.filter)
    rw [h] at hcount
    unfold execute
    rw [h]
    exact ⟨_, _, hcount.bind_error, .uncounted h⟩
  | ok total =>
    by_cases hend : total = 0 ∨ total ≤ q.offset
    · exact ⟨_, _, makes_execute_ended h hend, .ended h hend⟩
    · have hmore : total ≠ 0 ∧ q.offset < total := by omega
      obtain ⟨calls, answer, hhits, hf⟩ := makes_hits b g q c now
      cases answer with
      | error reason =>
        exact ⟨_, _, makes_execute_more h hmore hhits.bind_error, .unfetched h hmore hf⟩
      | ok found =>
        set ids := found.map fun hit => hit.1.thread.id with hids
        by_cases hnone : q.viewer = none ∨ found = []
        · have hnone' : q.viewer = none ∨ ids = [] := by
            rw [hids, List.map_eq_nil_iff]
            exact hnone
          have hpage := makes_execute_found h hmore hhits (makes_collectedAmong_nil hnone')
          rw [List.append_nil] at hpage
          exact ⟨_, _, hpage, .unasked h hmore hf hnone⟩
        · obtain ⟨hv, hne⟩ := not_or.mp hnone
          obtain ⟨viewer, hv⟩ := Option.ne_none_iff_exists'.mp hv
          have hne' : ids ≠ [] := by
            rw [hids, Ne, List.map_eq_nil_iff]
            exact hne
          refine ⟨_, _, makes_execute_found h hmore hhits (makes_collectedAmong hv hne'), ?_⟩
          cases hr : b.collected viewer ids with
          | error reason => exact .unmarked h hmore hf hv hne hids hr
          | ok collected => exact .marked h hmore hf hv hne hids hr

end Execute

/-- Unless a call fails, threads are obtained; they have scores if the order is by score. -/
lemma Fetches.outcome {calls : List Call} {out : Option (List (ThreadRecord × Option Float))}
    (h : Fetches b g q c now calls out) :
    match out with
    | none => FailsLast b calls
    | some found => (∀ call ∈ calls, ¬call.Fails b) ∧
        ∀ hit ∈ found, hit.2.isSome = true ↔ q.sortMethod.effective = .comprehensive := by
  cases h with
  | unpaged hc h => exact failsLast_singleton ⟨_, h⟩
  | paged hc h =>
    rw [List.forall_mem_singleton]
    refine ⟨not_fails_of_ok h, ?_⟩
    intro hit hhit
    obtain ⟨r, -, rfl⟩ := List.mem_map.mp hhit
    simp [hc]
  | unranked hc h => exact failsLast_singleton ⟨_, h⟩
  | unread hc h hids hr =>
    refine FailsLast.cons (failsLast_singleton ?_) (not_fails_of_ok h)
    exact ⟨_, hr⟩
  | ranked hc h hids hr hfound =>
    refine ⟨?_, ?_⟩
    · rw [List.forall_mem_cons, List.forall_mem_singleton]
      exact ⟨not_fails_of_ok h, not_fails_of_ok hr⟩
    · intro hit hhit
      obtain ⟨x, -, -, hscore⟩ := hfound.scores hit hhit
      simp [hscore, hc]

/-- What a search comes to: it fails at its last call, or all calls are answered and the page is
the one that was asked for. -/
inductive Concludes (b : Backend) (q : Query) (c : Compiled) :
    List Call → Except Error Page → Prop where
  | failed {calls : List Call} (h : FailsLast b calls) : Concludes b q c calls (.error .searchFailed)
  | answered {calls : List Call} {page : Page} (h : ∀ call ∈ calls, ¬call.Fails b)
      (total : b.count c.filter = .ok page.total) (limit : page.limit = q.limit)
      (offset : page.offset = q.offset)
      (scores : ∀ x ∈ page.results,
        x.score.isSome = true ↔ q.sortMethod.effective = .comprehensive) :
      Concludes b q c calls (.ok page)

lemma concludes_shownPage {total : Int} {calls : List Call} {collected : List Int}
    {found : List (ThreadRecord × Option Float)} (h : b.count c.filter = .ok total)
    (hcalls : ∀ call ∈ calls, ¬call.Fails b)
    (hfound : ∀ hit ∈ found, hit.2.isSome = true ↔ q.sortMethod.effective = .comprehensive) :
    Concludes b q c calls (.ok (shownPage g q total found collected)) := by
  refine .answered hcalls h rfl rfl ?_
  intro x hx
  obtain ⟨hit, hhit, rfl⟩ := List.mem_map.mp hx
  exact hfound hit hhit

lemma Converses.concludes {calls : List Call} {answer : Except Error Page}
    (h : Converses b g q c now calls answer) : Concludes b q c calls answer := by
  cases h with
  | uncounted h => exact .failed (failsLast_singleton ⟨_, h⟩)
  | ended h hend =>
    refine .answered ?_ h rfl rfl (by simp)
    rw [List.forall_mem_singleton]
    exact not_fails_of_ok h
  | unfetched h hmore hf => exact .failed (hf.outcome.cons (not_fails_of_ok h))
  | unasked h hmore hf hnone =>
    obtain ⟨hcalls, hfound⟩ := hf.outcome
    exact concludes_shownPage h (List.forall_mem_cons.mpr ⟨not_fails_of_ok h, hcalls⟩) hfound
  | unmarked h hmore hf hv hne hids hr =>
    obtain ⟨hcalls, -⟩ := hf.outcome
    refine .failed ⟨_, _, rfl, ⟨_, hr⟩, ?_⟩
    exact List.forall_mem_cons.mpr ⟨not_fails_of_ok h, hcalls⟩
  | marked h hmore hf hv hne hids hr =>
    obtain ⟨hcalls, hfound⟩ := hf.outcome
    refine concludes_shownPage h ?_ hfound
    rw [List.forall_mem_append, List.forall_mem_cons, List.forall_mem_singleton]
    exact ⟨⟨not_fails_of_ok h, hcalls⟩, not_fails_of_ok hr⟩

/-- A refused request asks nothing. The search of an accepted one follows the conversation with its
backend, whatever the backend answers: it stops at the first call that fails and says no more than
that it failed, or else gives the page. -/
theorem run_conversation (b : Backend) (g : SearchSettings) (r : Request) (now : Instant) :
    match r.validate now with
    | .error cause => run b g r now = (.error (.invalid cause), [])
    | .ok q =>
      Converses b g q (q.compile g.tags) now (run b g r now).2 (run b g r now).1 ∧
        Concludes b q (q.compile g.tags) (run b g r now).2 (run b g r now).1 := by
  unfold run
  cases r.validate now with
  | error cause => rfl
  | ok q =>
    obtain ⟨calls, answer, hmakes, hconverses⟩ := makes_execute b g q (q.compile g.tags) now
    dsimp only
    rw [hmakes []]
    exact ⟨hconverses, hconverses.concludes⟩

end Search

end ForumSearch
