import ForumSearch.Calendar.Instant
import Mathlib

/-!
# Dates and day numbers

Day numbers count the dates of the calendar: each number is that of one date, and later dates have
greater numbers. Both are shown through years that begin in March, where a month starts on the same
day of every year.
-/

namespace ForumSearch.Date

/-- The order of the calendar. -/
def Before (a b : Date) : Prop :=
  a.year < b.year ∨ a.year = b.year ∧
    (a.month < b.month ∨ a.month = b.month ∧ a.day < b.day)

/-- The days before the March of a year, from the March of year 0. -/
def yearStart (year : Int) : Int :=
  365 * year + year / 4 - year / 100 + year / 400

/-- The days before a month, counted from March. -/
def monthStart (month : Nat) : Nat :=
  (153 * month + 2) / 5

def marchYear (d : Date) : Int :=
  if d.month ≤ 2 then d.year - 1 else d.year

def marchMonth (d : Date) : Nat :=
  (d.month + 9) % 12

lemma dayNumber_eq (d : Date) :
    d.dayNumber = yearStart d.marchYear + monthStart d.marchMonth + d.day - 719469 :=
  rfl

lemma yearStart_le {y y' : Int} (h : y ≤ y') : yearStart y ≤ yearStart y' := by
  unfold yearStart
  omega

/-- A year that begins in March ends with the leap day of the next one. -/
lemma yearStart_succ (y : Int) :
    yearStart (y + 1) = yearStart y + 365 + if isLeap (y + 1) then 1 else 0 := by
  have hleap : isLeap (y + 1) = true ↔
      (y + 1) % 4 = 0 ∧ ((y + 1) % 100 ≠ 0 ∨ (y + 1) % 400 = 0) := by
    simp [isLeap]
  unfold yearStart
  by_cases h : isLeap (y + 1) = true
  · rw [if_pos h]
    rw [hleap] at h
    omega
  · rw [if_neg h]
    rw [hleap] at h
    omega

/-- A month lasts to the next one, and February to the end of its year. -/
lemma daysInMonth_eq (year : Int) {month : Nat} (hfirst : 1 ≤ month) (hlast : month ≤ 12) :
    (daysInMonth year month : Int) =
      if month = 2 then yearStart year - yearStart (year - 1) - monthStart 11
      else monthStart ((month + 9) % 12 + 1) - monthStart ((month + 9) % 12) := by
  by_cases h : month = 2
  · have hlength := yearStart_succ (year - 1)
    rw [Int.sub_add_cancel] at hlength
    have hbefore : monthStart 11 = 337 := rfl
    subst h
    rw [if_pos rfl, hlength, daysInMonth, if_pos rfl, hbefore]
    split_ifs <;> omega
  · -- The other months have a length of their own, so each is looked at.
    rw [if_neg h]
    unfold daysInMonth monthStart
    interval_cases month <;> simp at h ⊢

variable {a b d : Date}

/-- A date lies in its month, and in its year if the month is February. -/
lemma day_le (h : d.Exists) :
    (d.month ≠ 2 → monthStart d.marchMonth + d.day ≤ monthStart (d.marchMonth + 1)) ∧
      (d.month = 2 → yearStart d.marchYear + monthStart d.marchMonth + d.day ≤
        yearStart (d.marchYear + 1)) := by
  obtain ⟨hfirst, hlast, -, hday⟩ := h
  have hdays := daysInMonth_eq d.year hfirst hlast
  unfold marchMonth marchYear
  constructor
  · intro hmonth
    rw [if_neg hmonth] at hdays
    omega
  · intro hmonth
    rw [if_pos hmonth] at hdays
    have hmarch : (2 + 9) % 12 = 11 := rfl
    rw [hmonth] at hday hdays
    rw [hmonth, if_pos le_rfl, Int.sub_add_cancel, hmarch]
    omega

lemma day_le_yearStart (h : d.Exists) :
    yearStart d.marchYear + monthStart d.marchMonth + d.day ≤ yearStart (d.marchYear + 1) := by
  by_cases hmonth : d.month = 2
  · exact (day_le h).2 hmonth
  · have hday := (day_le h).1 hmonth
    have hyear := yearStart_succ d.marchYear
    obtain ⟨hfirst, hlast, -⟩ := h
    have hmarch : d.marchMonth < 11 := by
      unfold marchMonth
      omega
    have hstart : monthStart (d.marchMonth + 1) ≤ 337 := by
      unfold monthStart
      omega
    split_ifs at hyear <;> omega

lemma dayNumber_lt_of_before (ha : a.Exists) (hb : b.Exists) (h : a.Before b) :
    a.dayNumber < b.dayNumber := by
  -- January and February become the last months of the year before, which keeps the order.
  have hyear : a.marchYear < b.marchYear ∨ a.marchYear = b.marchYear ∧
      (a.marchMonth < b.marchMonth ∨ a.marchMonth = b.marchMonth ∧ a.day < b.day) := by
    obtain ⟨ha1, ha12, -⟩ := ha
    obtain ⟨hb1, hb12, -⟩ := hb
    unfold Before at h
    unfold marchYear marchMonth
    split_ifs <;> omega
  have hday := hb.2.2.1
  rw [dayNumber_eq, dayNumber_eq]
  rcases hyear with hyear | ⟨hyear, hmonth | ⟨hmonth, hdays⟩⟩
  · have hend := day_le_yearStart ha
    have hstart : yearStart (a.marchYear + 1) ≤ yearStart b.marchYear := yearStart_le hyear
    omega
  · have hnot : a.month ≠ 2 := by
      obtain ⟨hb1, hb12, -⟩ := hb
      unfold marchMonth at hmonth
      omega
    have hend := (day_le ha).1 hnot
    have hstart : monthStart (a.marchMonth + 1) ≤ monthStart b.marchMonth := by
      unfold monthStart
      omega
    rw [hyear]
    omega
  · rw [hyear, hmonth]
    omega

theorem dayNumber_lt_iff (ha : a.Exists) (hb : b.Exists) :
    a.dayNumber < b.dayNumber ↔ a.Before b := by
  refine ⟨?_, dayNumber_lt_of_before ha hb⟩
  intro hlt
  by_contra hnot
  have hcases : b.Before a ∨ a = b := by
    obtain ⟨y, m, d⟩ := a
    obtain ⟨y', m', d'⟩ := b
    simp only [Before, Date.mk.injEq] at hnot ⊢
    omega
  rcases hcases with hbefore | rfl
  · exact absurd (dayNumber_lt_of_before hb ha hbefore) (by omega)
  · exact absurd hlt (lt_irrefl _)

section Years

lemma exists_year {n : Nat} (years : Nat) (hn : (n : Int) < yearStart years) :
    ∃ k < years, yearStart k ≤ n ∧ n < yearStart (k + 1) := by
  induction years with
  | zero => exact absurd hn (by simp [yearStart])
  | succ years ih =>
    by_cases hlast : yearStart years ≤ n
    · exact ⟨years, by omega, hlast, by exact_mod_cast hn⟩
    · obtain ⟨k, hk, hyear⟩ := ih (by omega)
      exact ⟨k, by omega, hyear⟩

/-- The year of a day is found by taking its leap days away. One day in four years, in a century and
at the end of the cycle may be counted too early, but not so early that the year would change. -/
lemma year_eq {k n : Nat} (hk : k < 400) (hn : yearStart k ≤ n) (hn' : n < yearStart (k + 1)) :
    (n - n / 1460 + n / 36524 - n / 146096) / 365 = k := by
  -- The year is r years after p times four years after c centuries.
  obtain ⟨c, p, r, hc, hp, hr, rfl⟩ : ∃ c p r, c < 4 ∧ p < 25 ∧ r < 4 ∧ k = 100 * c + 4 * p + r :=
    ⟨k / 100, k % 100 / 4, k % 4, by omega, by omega, by omega, by omega⟩
  have hstart : yearStart (100 * c + 4 * p + r : Nat) =
      (36524 * c + 1461 * p + 365 * r : Nat) := by
    unfold yearStart
    omega
  have hend : yearStart ((100 * c + 4 * p + r : Nat) + 1) =
      (36524 * c + 1461 * p + 365 * r + 365 : Nat) +
        if r < 3 ∨ p = 24 ∧ c < 3 then 0 else 1 := by
    unfold yearStart
    split_ifs <;> omega
  rw [hstart, Nat.cast_le] at hn
  rw [hend] at hn'
  have hlength : n < 36524 * c + 1461 * p + 365 * r + 366 ∧
      (n < 36524 * c + 1461 * p + 365 * r + 365 ∨ r = 3) := by
    split_ifs at hn' <;> omega
  have hfour : n / 1460 ≤ 25 * c + p + 1 ∧ 25 * c + p ≤ n / 1460 + 1 := by omega
  have hcentury : n / 36524 = c + n / 146096 := by
    by_cases hlast : n = 146096
    · subst hlast
      split_ifs at hn' <;> omega
    · have hn : n / 36524 = c := by split_ifs at hn' <;> omega
      omega
  clear hstart hend hn'
  refine Nat.div_eq_of_lt_le ?_ ?_
  · omega
  · omega

end Years

/-- The date after some days of a year that begins in March. -/
def ofMarchYear (year : Int) (days : Nat) : Date :=
  let m := (5 * days + 2) / 153
  let month := if m < 10 then m + 3 else m - 9
  ⟨if month ≤ 2 then year + 1 else year, month, days - (153 * m + 2) / 5 + 1⟩

section MarchYear

variable (year : Int) {days : Nat}

lemma marchYear_ofMarchYear (days : Nat) : (ofMarchYear year days).marchYear = year := by
  unfold marchYear ofMarchYear
  dsimp only
  split_ifs <;> omega

lemma marchMonth_ofMarchYear (hdays : days ≤ 365) :
    (ofMarchYear year days).marchMonth = (5 * days + 2) / 153 := by
  unfold marchMonth ofMarchYear
  dsimp only
  split_ifs <;> omega

lemma dayNumber_ofMarchYear (hdays : days ≤ 365) :
    (ofMarchYear year days).dayNumber = yearStart year + days - 719468 := by
  have hday : (ofMarchYear year days).day = days - monthStart ((5 * days + 2) / 153) + 1 := rfl
  have hstart : monthStart ((5 * days + 2) / 153) ≤ days := by
    unfold monthStart
    omega
  rw [dayNumber_eq, marchYear_ofMarchYear, marchMonth_ofMarchYear year hdays, hday]
  omega

lemma exists_ofMarchYear (h : yearStart year + days < yearStart (year + 1)) (hdays : days ≤ 365) :
    (ofMarchYear year days).Exists := by
  have hfirst : 1 ≤ (ofMarchYear year days).month := by
    unfold ofMarchYear
    dsimp only
    split_ifs <;> omega
  have hlast : (ofMarchYear year days).month ≤ 12 := by
    unfold ofMarchYear
    dsimp only
    split_ifs <;> omega
  have hmonth := daysInMonth_eq (ofMarchYear year days).year hfirst hlast
  have hmarch := marchMonth_ofMarchYear year hdays
  have hyear := marchYear_ofMarchYear year days
  have hday : (ofMarchYear year days).day = days - monthStart ((5 * days + 2) / 153) + 1 := rfl
  refine ⟨hfirst, hlast, by rw [hday]; omega, ?_⟩
  unfold marchMonth at hmarch
  unfold marchYear at hyear
  by_cases hfebruary : (ofMarchYear year days).month = 2
  · have hnext : (ofMarchYear year days).year = year + 1 := by
      rw [if_pos (by omega)] at hyear
      omega
    have hbefore : (5 * days + 2) / 153 = 11 := by omega
    rw [if_pos hfebruary, hnext, Int.add_sub_cancel] at hmonth
    have hstart : monthStart 11 = 337 := rfl
    rw [hday, hnext, hbefore]
    omega
  · have hend : days < monthStart ((5 * days + 2) / 153 + 1) := by
      unfold monthStart
      omega
    have hstart : monthStart ((5 * days + 2) / 153) ≤ days := by
      unfold monthStart
      omega
    rw [if_neg hfebruary, hmarch] at hmonth
    rw [hday]
    omega

end MarchYear

/-- Each day number is that of a date. -/
theorem dayNumber_ofDayNumber (n : Int) :
    (ofDayNumber n).Exists ∧ (ofDayNumber n).dayNumber = n := by
  -- After four centuries the calendar repeats, so the day is looked for in one such cycle.
  obtain ⟨era, day, hday, hn⟩ : ∃ (era : Int) (day : Nat), day < 146097 ∧
      n + 719468 = 146097 * era + day :=
    ⟨(n + 719468) / 146097, ((n + 719468) % 146097).toNat, by omega, by omega⟩
  have hcycleEnd : (day : Int) < yearStart (400 : Nat) := by
    have hlength : yearStart (400 : Nat) = 146097 := rfl
    omega
  obtain ⟨k, hk, hstart, hend⟩ := exists_year 400 hcycleEnd
  have hcycle (k : Int) : yearStart (k + era * 400) = yearStart k + 146097 * era := by
    unfold yearStart
    omega
  have hleap : yearStart k = (365 * k + k / 4 - k / 100 : Nat) := by
    unfold yearStart
    omega
  have hdate : ofDayNumber n =
      ofMarchYear (k + era * 400) (day - (365 * k + k / 4 - k / 100)) := by
    have hera : (n + 719468) / 146097 = era := by omega
    have hdoe : ((n + 719468) % 146097).toNat = day := by omega
    simp only [ofDayNumber, hera, hdoe, year_eq hk hstart hend]
    rfl
  rw [hdate]
  have hlength := yearStart_succ k
  have hdays : day - (365 * k + k / 4 - k / 100) ≤ 365 := by
    split_ifs at hlength <;> omega
  have hnext : yearStart (k + era * 400 + 1) = yearStart (k + 1) + 146097 * era := by
    rw [add_right_comm, hcycle]
  refine ⟨exists_ofMarchYear _ ?_ hdays, ?_⟩
  · rw [hcycle, hnext]
    omega
  · rw [dayNumber_ofMarchYear _ hdays, hcycle]
    omega

end ForumSearch.Date
