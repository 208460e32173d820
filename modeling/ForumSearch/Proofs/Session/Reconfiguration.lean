import ForumSearch.Proofs.Store.History
import ForumSearch.SharedSession

/-!
# Reconfiguration

The tags are rebuilt or replaced and the ranking is configured while others search and vote. What
fails of this leaves no trace: without it the run is the same, and what is in use is always what was
taken over last.
-/

namespace ForumSearch

lemma RankingConfig.validate_standard : (standard : RankingConfig Float).validate = .ok () :=
  validate_eq_ok_iff_fault?.mpr (by decide +kernel)

lemma RankingSettings.make_eq_ok_iff {c : RankingConfig Float} {s : RankingSettings Float} :
    make c = .ok s ↔ c.validate = .ok () ∧ s.current = c := by
  unfold make
  cases h : c.validate with
  | ok u =>
    cases s
    simp [Except.map, eq_comm]
  | error cause => simp [Except.map]

namespace SharedSession

/-- An act with its outcome. -/
structure Entry where
  act : Act
  outcome : Outcome

namespace Entry

/-- A rebuild that failed, or a configuration that was rejected. -/
def failed : Entry → Bool
  | ⟨.step (.rebuild _), .reply (.rebuildFailed _)⟩ => true
  | ⟨.step (.configure _), .reply (.failed _)⟩ => true
  | _ => false

/-- The configuration that was taken over. -/
def accepted : Entry → Option (RankingConfig Float)
  | ⟨.step (.configure c), .reply .done⟩ => some c
  | _ => none

/-- The list of tags that was taken over: it was loaded from the store, or given. -/
def taken (store : Store) : Entry → Option (List Tag)
  | ⟨.step (.rebuild _), .reply (.number _)⟩ => some store.loadTags
  | ⟨.step (.replaceTags tags), _⟩ => some tags
  | _ => none

def writes : Entry → List Write
  | ⟨.step x, _⟩ => x.writes
  | _ => []

/-- The lists of tags that were taken over, while the store changed. -/
def tagLists : Store → List Entry → List (List Tag)
  | _, [] => []
  | store, e :: entries =>
    (e.taken store).toList ++ tagLists (e.writes.foldl Store.write store) entries

end Entry

/-- The acts of a run with their outcomes. -/
def transcript (s : SharedSession) (acts : List Act) : List Entry :=
  acts.zipWith Entry.mk (s.run acts).1

def after (s : SharedSession) (acts : List Act) : SharedSession :=
  (s.run acts).2

/-- What was taken over last is in use: a configuration, which is a valid one, and the snapshot of a
list of tags. Before anything is taken over, these are given. -/
structure UsesLast (store : Store) (c : RankingConfig Float) (tags : List Tag)
    (entries : List Entry) (s : Session) : Prop where
  valid : s.ranking.current.validate = .ok ()
  ranking : s.ranking.current = (entries.filterMap Entry.accepted).getLast?.getD c
  snapshot : s.tags.current = .ofTags ((Entry.tagLists store entries).getLast?.getD tags)

section Act

variable (s : SharedSession) (a : Act)

/-- What failed has changed nothing. -/
lemma act_of_failed (h : Entry.failed ⟨a, (s.act a).1⟩ = true) : (s.act a).2 = s := by
  cases a with
  | hold => simp [Entry.failed] at h
  | ask place question => simp [act]
  | step x =>
    cases x with
    | rebuild failure =>
      cases failure with
      | none => simp [act, Session.step, TagResolver.rebuild, Entry.failed] at h
      | some reason => rfl
    | configure c =>
      cases hc : c.validate with
      | ok u => simp [act, Session.step, RankingSettings.update, hc, Entry.failed] at h
      | error cause => simp [act, Session.step, RankingSettings.update, hc]
    | _ => simp [Entry.failed] at h

lemma ranking_act :
    (s.act a).2.session.ranking.current =
      (Entry.accepted ⟨a, (s.act a).1⟩).getD s.session.ranking.current := by
  cases a with
  | hold => rfl
  | ask place question => rfl
  | step x =>
    cases x with
    | configure c =>
      cases hc : c.validate with
      | ok u => simp [act, Session.step, RankingSettings.update, hc, Entry.accepted]
      | error cause => simp [act, Session.step, RankingSettings.update, hc, Entry.accepted]
    | _ => rfl

variable {s a} in
lemma valid_of_accepted {c : RankingConfig Float} (h : Entry.accepted ⟨a, (s.act a).1⟩ = some c) :
    c.validate = .ok () := by
  unfold Entry.accepted at h
  split at h
  next c' hentry =>
    obtain ⟨rfl, houtcome⟩ := Entry.mk.inj hentry
    obtain rfl := Option.some.inj h
    cases hc : c'.validate with
    | ok u => rfl
    | error cause => simp [act, Session.step, RankingSettings.update, hc] at houtcome
  next => simp at h

lemma tags_act :
    (s.act a).2.session.tags.current =
      (Entry.taken s.session.store ⟨a, (s.act a).1⟩).elim s.session.tags.current .ofTags := by
  cases a with
  | hold => rfl
  | ask place question => rfl
  | step x =>
    cases x with
    | rebuild failure =>
      cases failure with
      | none => rfl
      | some reason => rfl
    | _ => rfl

lemma store_act :
    (s.act a).2.session.store =
      (Entry.writes ⟨a, (s.act a).1⟩).foldl Store.write s.session.store := by
  cases a with
  | hold => rfl
  | ask place question => rfl
  | step x => exact Session.store_step s.session x

variable {s} in
lemma act_ask {place : ℕ} {h : Held} (hplace : s.held[place]? = some h)
    (question : Held.Question) :
    s.act (.ask place question) = (.answer (h.answer question), s) := by
  rw [act, hplace]

/-- What is held is never let go or changed. -/
lemma held_act : s.held <+: (s.act a).2.held := by
  cases a with
  | hold => exact List.prefix_append _ _
  | ask place question => exact List.prefix_rfl
  | step x => exact List.prefix_rfl

end Act

section Run

variable (s : SharedSession) (acts : List Act)

lemma run_cons (a : Act) :
    s.run (a :: acts) =
      ((s.act a).1 :: ((s.act a).2.run acts).1, ((s.act a).2.run acts).2) := rfl

lemma transcript_cons (a : Act) :
    s.transcript (a :: acts) = ⟨a, (s.act a).1⟩ :: (s.act a).2.transcript acts := rfl

lemma after_cons (a : Act) : s.after (a :: acts) = (s.act a).2.after acts := rfl

lemma after_append (later : List Act) : s.after (acts ++ later) = (s.after acts).after later := by
  induction acts generalizing s with
  | nil => rfl
  | cons a acts ih => exact ih (s.act a).2

/-- The run without what failed in it. -/
lemma run_settled :
    let settled := (s.transcript acts).filter fun e => !e.failed
    s.run (settled.map Entry.act) = (settled.map Entry.outcome, s.after acts) := by
  induction acts generalizing s with
  | nil => rfl
  | cons a acts ih =>
    rw [transcript_cons, after_cons]
    cases h : Entry.failed ⟨a, (s.act a).1⟩ with
    | true =>
      have hrest := ih (s.act a).2
      rw [act_of_failed s a h] at hrest ⊢
      rw [List.filter_cons_of_neg (by simp [h])]
      exact hrest
    | false =>
      rw [List.filter_cons_of_pos (by simp [h])]
      simp only [List.map_cons, run_cons, ih (s.act a).2]

lemma held_after : s.held <+: (s.after acts).held := by
  induction acts generalizing s with
  | nil => exact List.prefix_rfl
  | cons a acts ih => exact (held_act s a).trans (ih (s.act a).2)

/-- What is taken hold of answers every question as it was when it was in use. -/
lemma ask_after_hold (question : Held.Question) :
    (((s.act .hold).2.after acts).act (.ask s.held.length question)).1 =
      .answer (s.session.inUse.answer question) := by
  have hplace : ((s.act .hold).2.after acts).held[s.held.length]? = some s.session.inUse := by
    obtain ⟨more, hmore⟩ := held_after (s.act .hold).2 acts
    rw [← hmore]
    simp [act]
  exact congrArg Prod.fst (act_ask hplace question)

variable {s} in
lemma usesLast_after {c : RankingConfig Float} {tags : List Tag} (hvalid : c.validate = .ok ())
    (hranking : s.session.ranking.current = c) (htags : s.session.tags.current = .ofTags tags) :
    UsesLast s.session.store c tags (s.transcript acts) (s.after acts).session := by
  induction acts generalizing s c tags with
  | nil => exact ⟨hranking ▸ hvalid, hranking, htags⟩
  | cons a acts ih =>
    set e : Entry := ⟨a, (s.act a).1⟩ with he
    have hvalid' : ((e.accepted).getD c).validate = .ok () := by
      cases h : e.accepted with
      | none => exact hvalid
      | some c' => exact valid_of_accepted h
    have htags' :
        (s.act a).2.session.tags.current = .ofTags ((e.taken s.session.store).getD tags) := by
      rw [tags_act]
      cases e.taken s.session.store with
      | none => exact htags
      | some taken => rfl
    have hlast := ih hvalid' (by rw [ranking_act, hranking]) htags'
    rw [transcript_cons, after_cons]
    refine ⟨hlast.valid, hlast.ranking.trans ?_, hlast.snapshot.trans ?_⟩
    · cases h : e.accepted with
      | none => rw [List.filterMap_cons_none h, Option.getD_none]
      | some c' => rw [List.filterMap_cons_some h, List.getLast?_cons]; rfl
    · rw [store_act, ← he, Entry.tagLists]
      cases h : e.taken s.session.store with
      | none => rfl
      | some taken => rw [Option.toList_some, List.singleton_append, List.getLast?_cons]; rfl

end Run

/-- Failed rebuilds and rejected configurations leave no trace in a session that began without tags
and with a configuration that was accepted. The run without them has the same outcomes otherwise and
ends in the same way. At every point what was taken over last is in use, and what was taken hold of
answers as it was then. -/
theorem failures_leave_no_trace (s : Session) {c : RankingConfig Float}
    (hranking : RankingSettings.make c = .ok s.ranking) (htags : s.tags = .empty)
    (acts : List Act) :
    let start : SharedSession := ⟨s, []⟩
    let settled := (start.transcript acts).filter fun e => !e.failed
    start.run (settled.map Entry.act) = (settled.map Entry.outcome, start.after acts) ∧
      (∀ earlier, earlier <+: acts →
        UsesLast s.store c [] (start.transcript earlier) (start.after earlier).session) ∧
      ∀ earlier later, acts = earlier ++ .hold :: later →
        ∃ place, ((start.after earlier).act .hold).1 = .held place ∧
          ∀ question, ((start.after acts).act (.ask place question)).1 =
            .answer ((start.after earlier).session.inUse.answer question) := by
  intro start settled
  refine ⟨run_settled start acts, ?_, ?_⟩
  · intro earlier _
    obtain ⟨hvalid, hcurrent⟩ := RankingSettings.make_eq_ok_iff.mp hranking
    have hsnapshot : s.tags.current = .ofTags [] := by
      rw [htags]
      rfl
    exact usesLast_after (s := start) earlier hvalid hcurrent hsnapshot
  · rintro earlier later rfl
    refine ⟨(start.after earlier).held.length, rfl, ?_⟩
    intro question
    rw [after_append, after_cons]
    exact ask_after_hold (start.after earlier) later question

/-- A rebuild fails and a configuration is rejected after a reader has taken hold of a snapshot,
which is replaced later on. -/
theorem failures_leave_no_trace_held :
    let idle : RankingConfig Float := { RankingConfig.standard with decayRate := Arithmetic.zero }
    let acts : List Act := [.step (.replaceTags [⟨1, ['a']⟩]), .hold,
      .step (.rebuild (some "locked")), .step (.configure idle), .step (.rebuild none),
      .step (.configure (.ofPreset .timeFocused))]
    let start : SharedSession := ⟨.start, []⟩
    let settled := (start.transcript acts).filter fun e => !e.failed
    RankingSettings.make .standard = .ok Session.start.ranking ∧ Session.start.tags = .empty ∧
      (start.transcript acts).map Entry.failed = [false, false, true, true, false, false] ∧
      start.run (settled.map Entry.act) = (settled.map Entry.outcome, start.after acts) ∧
      (start.after acts).session.tags.current.resolve ['a'] = [] ∧
      ((start.after acts).act (.ask 0 (.ids ['a']))).1 = .answer (.ids [1]) := by
  intro idle acts start settled
  have hranking : RankingSettings.make .standard = .ok Session.start.ranking :=
    RankingSettings.make_eq_ok_iff.mpr ⟨RankingConfig.validate_standard, rfl⟩
  obtain ⟨hrun, -, hheld⟩ := failures_leave_no_trace .start hranking rfl acts
  obtain ⟨place, hplace, hanswer⟩ := hheld [_] _ rfl
  obtain rfl := Outcome.held.inj hplace
  exact ⟨hranking, rfl, by decide +kernel, hrun, by decide +kernel, hanswer (.ids ['a'])⟩

end SharedSession

end ForumSearch
