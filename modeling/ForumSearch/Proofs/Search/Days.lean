import ForumSearch.Proofs.Calendar.Date
import ForumSearch.Proofs.Search.Candidates
import ForumSearch.Proofs.Store.ReadBack

/-!
# Bounds on days

The bounds on the times of a thread go by days of UTC. Bounds and times are both cut to whole
seconds before they are compared; what the comparisons come to is said here of the times that were
written and of the days that the texts of the bounds name.
-/

namespace ForumSearch

namespace Instant

/-- The date in UTC. -/
def date (t : Instant) : Date :=
  .ofDayNumber t.day

def Before (a b : Instant) : Prop :=
  a.seconds < b.seconds ∨ a.seconds = b.seconds ∧ a.nanos < b.nanos

lemma date_before_iff (t : Instant) {d : Date} (hd : d.Exists) :
    t.date.Before d ↔ t.day < d.dayNumber := by
  obtain ⟨hexists, hday⟩ := Date.dayNumber_ofDayNumber t.day
  rw [date, ← Date.dayNumber_lt_iff hexists hd, hday]

lemma before_date_iff (t : Instant) {d : Date} (hd : d.Exists) :
    d.Before t.date ↔ d.dayNumber < t.day := by
  obtain ⟨hexists, hday⟩ := Date.dayNumber_ofDayNumber t.day
  rw [date, ← Date.dayNumber_lt_iff hd hexists, hday]

lemma before_second_iff (t : Instant) (seconds : Int) :
    t.Before ⟨seconds, 0⟩ ↔ t.seconds < seconds := by
  simp [Before]

end Instant

namespace TimeBound

/-- What the text of a bound names: a day, and whether it is one to come. -/
structure Day where
  future : Bool
  date : Date

/-- The day of a text: the date that is written, or the one that lies some days before or after
now. -/
def Day.named? (text : Text) (now : Instant) : Option Day :=
  match readDate text with
  | some date => some ⟨false, date⟩
  | none => (readOffset text).map fun offset =>
    ⟨offset.future, .ofDayNumber
      (if offset.future then now.day + offset.days else now.dayBefore offset.days)⟩

/-- From a day on, or from the last second of a day to come. -/
def Day.AllowsAfter (d : Day) (t : Instant) : Prop :=
  if d.future then ¬t.Before ⟨d.date.dayNumber * 86400 + 86399, 0⟩ else ¬t.date.Before d.date

/-- Up to a day to come, or up to the first second of a day. -/
def Day.AllowsBefore (d : Day) (t : Instant) : Prop :=
  if d.future then ¬d.date.Before t.date else t.Before ⟨d.date.dayNumber * 86400 + 1, 0⟩

/-- What the text of a bound allows, if it is not blank. -/
def Allowed (allows : Day → Instant → Prop) (input : Option Text) (now t : Instant) : Prop :=
  ∀ text, input = some text → text.trim ≠ [] →
    ∃ d, Day.named? text.trim now = some d ∧ allows d t

/-- A bound compares whole seconds as its day asks. -/
structure Compares (bound : Instant) (d : Day) : Prop where
  after : ∀ t : Instant, bound.seconds ≤ t.seconds ↔ d.AllowsAfter t
  before : ∀ t : Instant, t.seconds ≤ bound.seconds ↔ d.AllowsBefore t

lemma compares_midnight {d : Date} (hd : d.Exists) :
    Compares (.midnight d.dayNumber) ⟨false, d⟩ := by
  have hseconds : (Instant.midnight d.dayNumber).seconds = d.dayNumber * 86400 := rfl
  refine ⟨fun t => ?_, fun t => ?_⟩
  · have hallows : (⟨false, d⟩ : Day).AllowsAfter t ↔ ¬t.date.Before d := Iff.rfl
    rw [hallows, t.date_before_iff hd, hseconds, Instant.day, Instant.secondsPerDay]
    omega
  · have hallows : (⟨false, d⟩ : Day).AllowsBefore t ↔ t.Before ⟨d.dayNumber * 86400 + 1, 0⟩ :=
      Iff.rfl
    rw [hallows, t.before_second_iff, hseconds]
    omega

lemma compares_endOfDay {d : Date} (hd : d.Exists) :
    Compares (.endOfDay d.dayNumber) ⟨true, d⟩ := by
  have hseconds : (Instant.endOfDay d.dayNumber).seconds = d.dayNumber * 86400 + 86399 := rfl
  refine ⟨fun t => ?_, fun t => ?_⟩
  · have hallows : (⟨true, d⟩ : Day).AllowsAfter t ↔
        ¬t.Before ⟨d.dayNumber * 86400 + 86399, 0⟩ := Iff.rfl
    rw [hallows, t.before_second_iff, hseconds]
    omega
  · have hallows : (⟨true, d⟩ : Day).AllowsBefore t ↔ ¬d.Before t.date := Iff.rfl
    rw [hallows, t.before_date_iff hd, hseconds, Instant.day, Instant.secondsPerDay]
    omega

lemma compares_resolve {offset : Offset} {now bound : Instant}
    (h : offset.resolve now = some bound) :
    Compares bound ⟨offset.future, .ofDayNumber
      (if offset.future then now.day + offset.days else now.dayBefore offset.days)⟩ := by
  obtain ⟨future, days⟩ := offset
  obtain ⟨-, hbound⟩ := Option.ite_none_right_eq_some.mp h
  obtain rfl := Option.some.inj hbound
  cases future with
  | true =>
    obtain ⟨hexists, hday⟩ := Date.dayNumber_ofDayNumber (now.day + days)
    have hcompares := compares_endOfDay hexists
    rwa [hday] at hcompares
  | false =>
    obtain ⟨hexists, hday⟩ := Date.dayNumber_ofDayNumber (now.dayBefore days)
    have hcompares := compares_midnight hexists
    rwa [hday] at hcompares

/-- A bound that is accepted is absent and its text blank, or it compares as the day that its text
names. -/
lemma parse_cases {input : Option Text} {now : Instant} {bound : Option Instant}
    (h : parse input now = .ok bound) :
    (bound = none ∧ ∀ text, input = some text → text.trim = []) ∨
      ∃ text d x, input = some text ∧ text.trim ≠ [] ∧ Day.named? text.trim now = some d ∧
        bound = some x ∧ Compares x d := by
  unfold parse at h
  cases hraw : (input.map Text.trim).filter fun s => !s.isEmpty with
  | none =>
    rw [hraw] at h
    obtain rfl := Except.ok.inj h
    refine .inl ⟨rfl, ?_⟩
    rintro text rfl
    simpa using hraw
  | some raw =>
    rw [hraw] at h
    -- A text that has the form of a date is not tried as an offset.
    obtain ⟨hmap, hne⟩ := Option.filter_eq_some_iff.mp hraw
    obtain ⟨text, rfl, rfl⟩ := Option.map_eq_some_iff.mp hmap
    dsimp only at h
    right
    cases hdate : readDate text.trim with
    | some date =>
      rw [hdate] at h
      dsimp only at h
      split_ifs at h with hexists
      obtain rfl := Except.ok.inj h
      exact ⟨text, ⟨false, date⟩, _, rfl, by simpa using hne, by rw [Day.named?, hdate], rfl,
        compares_midnight hexists⟩
    | none =>
      rw [hdate] at h
      dsimp only at h
      cases hresolve : (readOffset text.trim).bind fun offset => offset.resolve now with
      | none => rw [hresolve] at h; exact absurd h (by simp)
      | some x =>
        rw [hresolve] at h
        obtain rfl := Except.ok.inj h
        obtain ⟨offset, hoffset, hx⟩ := Option.bind_eq_some_iff.mp hresolve
        exact ⟨text, _, x, rfl, by simpa using hne, by rw [Day.named?, hdate, hoffset]; rfl, rfl,
          compares_resolve hx⟩

lemma allowed_iff {input : Option Text} {now : Instant} {bound : Option Instant}
    (h : parse input now = .ok bound) {allows : Day → Instant → Prop} {t : Instant}
    {restricts : Instant → Prop} (hcompares : ∀ x d, Compares x d → (restricts x ↔ allows d t)) :
    (∀ x, bound = some x → restricts x) ↔ Allowed allows input now t := by
  rcases parse_cases h with ⟨rfl, hblank⟩ | ⟨text, d, x, rfl, hne, hd, rfl, hx⟩
  · refine iff_of_true (fun x hx => absurd hx (by simp)) ?_
    intro text htext hne
    exact absurd (hblank text htext) hne
  · have hallowed : Allowed allows (some text) now t ↔ allows d t := by
      simp [Allowed, hne, hd]
    rw [hallowed, ← hcompares x d hx]
    simp

end TimeBound

open TimeBound

/-- A request without its bounds on times. -/
def Request.timeless (r : Request) : Request :=
  { r with createdAfter := none, createdBefore := none, activeAfter := none, activeBefore := none }

namespace Query

def timeless (q : Query) : Query :=
  { q with createdAfter := none, createdBefore := none, activeAfter := none, activeBefore := none }

lemma forall_mem_compile_timeless {P : Predicate → Prop} (q : Query) (tags : TagSnapshot) :
    (∀ p ∈ (q.compile tags).filter, P p) ↔
      (∀ p ∈ (q.timeless.compile tags).filter, P p) ∧
        (∀ p ∈ timePredicate .createdAt q.createdAfter q.createdBefore, P p) ∧
        ∀ p ∈ timePredicate .lastActiveAt q.activeAfter q.activeBefore, P p := by
  have hcreated : timePredicate .createdAt q.timeless.createdAfter q.timeless.createdBefore = [] :=
    rfl
  have hactive : timePredicate .lastActiveAt q.timeless.activeAfter q.timeless.activeBefore = [] :=
    rfl
  have hmem (p : Predicate) : p ∈ (q.compile tags).filter ↔
      p ∈ (q.timeless.compile tags).filter ∨
        p ∈ timePredicate .createdAt q.createdAfter q.createdBefore ∨
        p ∈ timePredicate .lastActiveAt q.activeAfter q.activeBefore := by
    unfold compile
    simp only [List.mem_append, hcreated, hactive, List.not_mem_nil, or_false]
    exact Iff.of_eq (by ac_rfl)
  simp only [hmem, or_imp, forall_and]

end Query

lemma Request.validate_timeless {r : Request} {now : Instant} {q : Query}
    (h : r.validate now = .ok q) : r.timeless.validate now = .ok q.timeless := by
  obtain ⟨hb, -, -, -, -, hrs, hrp, hq⟩ := validate_eq_ok_iff.mp h
  refine validate_eq_ok_iff.mpr
    ⟨⟨hb.one_le_limit, hb.limit_le, hb.offset_nonneg, hb.viewer⟩, rfl, rfl, rfl, rfl, hrs, hrp, ?_⟩
  rw [hq]
  rfl

namespace Store

lemma id_mem_candidates {history : List Write} {id : Int} {x : Thread × List Int}
    (h : lastThread? history id = some x) (filter : List Predicate) :
    id ∈ ((after history).candidates filter).map Thread.id ↔
      ∀ p ∈ filter, (after history).satisfies x.1.inSeconds p = true := by
  have hs : Sound (after history) := sound_after history
  have hid : x.1.inSeconds.id = id := lastThread?_id h
  -- The only stored thread with this id is the last one written, with its times cut.
  have hget : (after history).threads.get? id = some x.1.inSeconds := by
    rw [(recalls_after history).threads, h]
    rfl
  rw [List.mem_map]
  constructor
  · rintro ⟨t, ht, rfl⟩
    obtain ⟨hstored, hall⟩ := ((after history).mem_candidates t).mp ht
    rw [hs.mem_values_iff, hget] at hstored
    obtain rfl := Option.some.inj hstored
    exact hall
  · intro hall
    have hstored : x.1.inSeconds ∈ (after history).threads.values := by
      rw [hs.mem_values_iff, hid, hget]
    exact ⟨_, ((after history).mem_candidates _).mpr ⟨hstored, hall⟩, hid⟩

/-- The bounds of a request go by whole days of UTC, however the times of a thread were written and
whatever was written besides. A thread that the request without the bounds would find is found
exactly if each bound that is not blank names a day and allows the time of the thread, as it was
written, by this day. -/
theorem found_by_days (history : List Write) {id : Int} {t : Thread} {tagIds : List Int}
    (ht : lastThread? history id = some (t, tagIds)) {r : Request} {now : Instant} {q : Query}
    (h : r.validate now = .ok q) (tags : TagSnapshot) :
    ∃ q', r.timeless.validate now = .ok q' ∧
      (id ∈ ((after history).candidates (q.compile tags).filter).map Thread.id ↔
        id ∈ ((after history).candidates (q'.compile tags).filter).map Thread.id ∧
          Allowed Day.AllowsAfter r.createdAfter now t.createdAt ∧
          Allowed Day.AllowsBefore r.createdBefore now t.createdAt ∧
          Allowed Day.AllowsAfter r.activeAfter now t.lastActiveAt ∧
          Allowed Day.AllowsBefore r.activeBefore now t.lastActiveAt) := by
  refine ⟨q.timeless, Request.validate_timeless h, ?_⟩
  obtain ⟨-, hca, hcb, haa, hab, -⟩ := Request.validate_eq_ok_iff.mp h
  have hafter (time : Instant) (bound : Instant) (d : Day) (hd : Compares bound d) :
      bound.seconds ≤ time.seconds ↔ d.AllowsAfter time := hd.after time
  have hbefore (time : Instant) (bound : Instant) (d : Day) (hd : Compares bound d) :
      time.seconds ≤ bound.seconds ↔ d.AllowsBefore time := hd.before time
  rw [id_mem_candidates ht, id_mem_candidates ht, Query.forall_mem_compile_timeless,
    Query.forall_mem_timePredicate, Query.forall_mem_timePredicate,
    ← allowed_iff hca (hafter t.createdAt), ← allowed_iff hcb (hbefore t.createdAt),
    ← allowed_iff haa (hafter t.lastActiveAt), ← allowed_iff hab (hbefore t.lastActiveAt)]
  constructor
  · rintro ⟨hall, ⟨hcreatedAfter, hcreatedBefore⟩, hactiveAfter, hactiveBefore⟩
    exact ⟨hall, hcreatedAfter, hcreatedBefore, hactiveAfter, hactiveBefore⟩
  · rintro ⟨hall, hcreatedAfter, hcreatedBefore, hactiveAfter, hactiveBefore⟩
    exact ⟨hall, ⟨hcreatedAfter, hcreatedBefore⟩, hactiveAfter, hactiveBefore⟩

/-- A thread from half a second before 1970, which was active in the last second of the second day
of 1970. -/
theorem found_by_days_before_1970 :
    let t : Thread := ⟨1, 1, 5, ['x'], ⟨-1, 500000000⟩, ⟨172799, 7⟩, 0, 0, none, [], 0⟩
    let history : List Write := [.thread { t with createdAt := ⟨0, 0⟩ } [], .thread t [10]]
    let r : Request :=
      { createdAfter := some ['1', '9', '6', '9', '-', '1', '2', '-', '3', '1'],
        createdBefore := some [' ', '0', 'd'], activeAfter := some ['+', '1', 'd'],
        activeBefore := some ['+', ' ', '1', 'd', ' '] }
    let now : Instant := ⟨0, 0⟩
    ∃ q, lastThread? history 1 = some (t, [10]) ∧ r.validate now = .ok q ∧
      1 ∈ ((after history).candidates (q.compile .empty).filter).map Thread.id ∧
      Allowed Day.AllowsAfter r.createdAfter now t.createdAt ∧
      Allowed Day.AllowsBefore r.createdBefore now t.createdAt ∧
      Allowed Day.AllowsAfter r.activeAfter now t.lastActiveAt ∧
      Allowed Day.AllowsBefore r.activeBefore now t.lastActiveAt := by
  intro t history r now
  have hlast : lastThread? history 1 = some (t, [10]) := rfl
  have hq : r.validate now = .ok _ := rfl
  obtain ⟨_, -, hiff⟩ := found_by_days history hlast hq .empty
  have hfound := hiff.mp (by decide +kernel)
  exact ⟨_, hlast, hq, by decide +kernel, hfound.2⟩

end Store

end ForumSearch
