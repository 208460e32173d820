import ForumSearch.Proofs.Calendar.Date
import ForumSearch.Proofs.Index.Segmentation
import ForumSearch.Proofs.Text.Integer
import ForumSearch.Query.TimeBound

/-!
# Bounds on times

The text of a bound has one of three shapes, or none. No text has two, so what a text means does
not depend on the order in which the shapes are tried, and each of the ways in which an offset can
be too large is refused.
-/

namespace ForumSearch.TimeBound

section Shape

/-- The names of the units, in lower case, with their days. -/
def units : List (Text × Int) :=
  [(['d'], 1), (['d', 'a', 'y'], 1), (['天'], 1), (['w'], 7), (['w', 'e', 'e', 'k'], 7), (['周'], 7),
    (['星', '期'], 7), (['y'], 365), (['y', 'e', 'a', 'r'], 365), (['年'], 365)]

/-- What a text is written for: no bound, a date, or a number of units before or after today. -/
inductive Shape where
  | blank
  | date (date : Date)
  | offset (future : Bool) (amount : Nat) (unit : Int)

/-- An optional sign, and whether it points to the future. -/
inductive Sign : Text → Bool → Prop where
  | none : Sign [] false
  | minus : Sign ['-'] false
  | plus : Sign ['+'] true

/-- The shape of a trimmed text. -/
inductive Fits : Text → Shape → Prop where
  | blank : Fits [] .blank
  | date {y m d : Text} (hy : y.length = 4) (hm : 1 ≤ m.length ∧ m.length ≤ 2)
      (hd : 1 ≤ d.length ∧ d.length ≤ 2) (hdigits : ∀ c ∈ y ++ (m ++ d), Text.isDigit c = true) :
      Fits (y ++ '-' :: (m ++ '-' :: d))
        (.date ⟨Text.digitsValue y, Text.digitsValue m, Text.digitsValue d⟩)
  | offset {sign blanks digits blanks' name : Text} {future : Bool} {unit : Int}
      (hsign : Sign sign future) (hblanks : ∀ c ∈ blanks, Text.isBlank c = true)
      (hdigits : Text.Digits digits) (hblanks' : ∀ c ∈ blanks', Text.isBlank c = true)
      (hname : (name.lowercase, unit) ∈ units) :
      Fits (sign ++ (blanks ++ (digits ++ (blanks' ++ name))))
        (.offset future (Text.digitsValue digits) unit)

/-- The days of the calendar. -/
def InCalendar (day : Int) : Prop :=
  Date.minDayNumber ≤ day ∧ day ≤ Date.maxDayNumber

instance (day : Int) : Decidable (InCalendar day) :=
  inferInstanceAs (Decidable (_ ∧ _))

/-- The day from which days are counted back: that of now, or the next one if now is in a leap second
that ends its day. -/
def startOfCount (now : Instant) (days : Int) : Int :=
  if 0 < days ∧ now.inLeapSecond ∧ now.clock = 86399 then now.day + 1 else now.day

/-- The bound at a number of units from now, if none of the numbers on the way is too large. -/
def offsetBound (now : Instant) (future : Bool) (amount : Nat) (unit : Int) : Option Instant :=
  let days := amount * unit
  let day := if future then now.day + days else startOfCount now days - days
  if Text.isInt64 amount ∧ Text.isInt64 days ∧ InCalendar day then
    some (if future then .endOfDay day else .midnight day)
  else none

/-- What a text of a shape means. -/
def Shape.meaning (now : Instant) (text : Text) : Shape → Except Invalid (Option Instant)
  | .blank => .ok none
  | .date d => if d.Exists then .ok (some (.midnight d.dayNumber)) else .error (.date text)
  | .offset future amount unit =>
    match offsetBound now future amount unit with
    | some bound => .ok (some bound)
    | none => .error (.time text)

end Shape

section Date

lemma not_isDigit_dash {s : Text} (h : ∀ c ∈ s, Text.isDigit c = true) :
    ∀ c ∈ s, decide (c = '-') = false := by
  intro c hc
  refine decide_eq_false ?_
  rintro rfl
  exact absurd (h _ hc) (by decide)

lemma splitAtEach_dash_eq_iff {raw y m d : Text} (hy : ∀ c ∈ y, Text.isDigit c = true)
    (hm : ∀ c ∈ m, Text.isDigit c = true) (hd : ∀ c ∈ d, Text.isDigit c = true) :
    Text.splitAtEach (· = '-') raw = [y, m, d] ↔ raw = y ++ '-' :: (m ++ '-' :: d) := by
  constructor
  · intro h
    obtain ⟨hnil, -⟩ | ⟨c, rest, rfl, hc, hrest⟩ := Text.eq_or_eq_append_cons_of_splitAtEach h
    · exact absurd hnil (by simp)
    obtain ⟨hnil, -⟩ | ⟨c', rest', rfl, hc', hrest'⟩ :=
      Text.eq_or_eq_append_cons_of_splitAtEach hrest
    · exact absurd hnil (by simp)
    obtain ⟨-, rfl⟩ | ⟨_, _, _, _, hnil⟩ := Text.eq_or_eq_append_cons_of_splitAtEach hrest'
    · rw [of_decide_eq_true hc, of_decide_eq_true hc']
    · exact absurd hnil (Text.splitAtEach_ne_nil _ _)
  · rintro rfl
    rw [Text.splitAtEach_append_cons (by simp), Text.splitAtEach_append_cons (by simp),
      Text.splitAtEach_of_forall (not_isDigit_dash hy),
      Text.splitAtEach_of_forall (not_isDigit_dash hm),
      Text.splitAtEach_of_forall (not_isDigit_dash hd)]
    rfl

lemma readDate_eq_some_iff {raw : Text} {date : Date} :
    readDate raw = some date ↔ Fits raw (.date date) := by
  constructor
  · intro h
    unfold readDate at h
    split at h
    case h_1 y m d hsplit =>
      obtain ⟨⟨hy, hm1, hm2, hd1, hd2, hyd, hmd, hdd⟩, hdate⟩ := Option.ite_none_right_eq_some.mp h
      obtain rfl := Option.some.inj hdate
      simp only [List.all_eq_true] at hyd hmd hdd
      rw [splitAtEach_dash_eq_iff hyd hmd hdd] at hsplit
      subst hsplit
      exact .date hy ⟨hm1, hm2⟩ ⟨hd1, hd2⟩
        (List.forall_mem_append.mpr ⟨hyd, List.forall_mem_append.mpr ⟨hmd, hdd⟩⟩)
    case h_2 => exact absurd h (by simp)
  · rintro (_ | @⟨y, m, d, hy, hm, hd, hdigits⟩)
    simp only [List.forall_mem_append] at hdigits
    obtain ⟨hyd, hmd, hdd⟩ := hdigits
    rw [readDate, (splitAtEach_dash_eq_iff hyd hmd hdd).mpr rfl]
    simp only [List.all_eq_true]
    exact if_pos ⟨hy, hm.1, hm.2, hd.1, hd.2, hyd, hmd, hdd⟩

end Date

section Offset

lemma unitDays_eq_some_iff {name : Text} {unit : Int} :
    unitDays name = some unit ↔ (name, unit) ∈ units := by
  constructor
  · intro h
    unfold unitDays at h
    split_ifs at h with hname hname hname
    all_goals
      obtain rfl := Option.some.inj h
      revert name
      simp [units]
  · have hall : ∀ u ∈ units, unitDays u.1 = some u.2 := by simp [units, unitDays]
    exact hall (name, unit)

/-- A character that is its own lower-case form and stands in no name of a unit. -/
def IsApart (c : Char) : Prop :=
  Text.isBlank c = true ∨ Text.isDigit c = true ∨ c = '-'

lemma IsApart.lowercase {c : Char} (hc : IsApart c) : Text.lowercase [c] = [c] := by
  have hcodes : ∀ n ∈ Index.blankCodes ++ List.range' 48 10,
      Text.lowercase [Char.ofNat n] = [Char.ofNat n] := by decide +kernel
  have hlower (hmem : c.toNat ∈ Index.blankCodes ++ List.range' 48 10) :
      Text.lowercase [c] = [c] := by
    have hself := hcodes _ hmem
    rwa [Char.ofNat_toNat] at hself
  rcases hc with hblank | hdigit | rfl
  · exact hlower (List.mem_append_left _ (Index.toNat_mem_blankCodes hblank))
  · have hbounds : 48 ≤ c.toNat ∧ c.toNat ≤ 57 := by
      simpa [Text.isDigit, Char.le_def, UInt32.le_iff_toNat_le] using hdigit
    exact hlower (List.mem_append_right _ (List.mem_range'_1.mpr ⟨hbounds.1, by omega⟩))
  · rfl

lemma not_isApart_of_mem_unit {name : Text} {unit : Int} (h : (name.lowercase, unit) ∈ units) :
    name ≠ [] ∧ ∀ c ∈ name, ¬IsApart c := by
  have hunits : ∀ u ∈ units, u.1 ≠ [] ∧ ∀ c ∈ u.1, ¬IsApart c := by
    simp [units, IsApart, Text.isBlank, Text.inRanges, Text.isDigit]
  obtain ⟨hne, hletters⟩ := hunits _ h
  refine ⟨fun hnil => hne (by rw [hnil]; rfl), fun c hc hapart => hletters c ?_ hapart⟩
  have hself := hapart.lowercase
  rw [Text.lowercase, List.flatMap_singleton] at hself
  exact List.mem_flatMap.mpr ⟨c, hc, by rw [hself]; exact List.mem_cons_self⟩

/-- The parts in which an offset is read: whether it points to the future, its digits, and the name of
its unit. -/
def offsetParts (raw : Text) : Bool × Text × Text :=
  let rest := (splitSign raw).2.trimStart
  ((splitSign raw).1, rest.takeWhile Text.isDigit, Text.trim (rest.dropWhile Text.isDigit))

lemma readOffset_eq (raw : Text) : readOffset raw =
    (Text.readInt64 (offsetParts raw).2.1).bind fun amount =>
      (unitDays (offsetParts raw).2.2.lowercase).map fun unit =>
        ⟨(offsetParts raw).1, amount * unit⟩ := by
  rw [readOffset]
  refine congrArg (Option.bind _) (funext fun amount => ?_)
  rw [Option.map_eq_bind]
  rfl

lemma exists_sign (raw : Text) :
    ∃ sign, raw = sign ++ (splitSign raw).2 ∧ Sign sign (splitSign raw).1 := by
  unfold splitSign
  split
  · exact ⟨['+'], rfl, .plus⟩
  · exact ⟨['-'], rfl, .minus⟩
  · exact ⟨[], rfl, .none⟩

lemma splitSign_append {sign body : Text} {future : Bool} (h : Sign sign future)
    (hbody : ∀ c ∈ body.head?, Text.isBlank c = true ∨ Text.isDigit c = true) :
    splitSign (sign ++ body) = (future, body) := by
  cases h with
  | minus => rfl
  | plus => rfl
  | none =>
    rw [List.nil_append]
    unfold splitSign
    split
    · exact absurd (hbody '+' rfl) (by decide)
    · exact absurd (hbody '-' rfl) (by decide)
    · rfl

lemma span_digits {digits rest : Text} (hdigits : ∀ c ∈ digits, Text.isDigit c = true)
    (hrest : ∀ c ∈ rest.head?, Text.isDigit c = false) :
    (digits ++ rest).takeWhile Text.isDigit = digits ∧
      (digits ++ rest).dropWhile Text.isDigit = rest := by
  rw [List.takeWhile_append_of_pos hdigits, List.dropWhile_append_of_pos hdigits]
  cases rest with
  | nil => simp
  | cons c rest => simp [hrest c rfl]

lemma offsetParts_of_fits {raw : Text} {future : Bool} {amount : Nat} {unit : Int}
    (h : Fits raw (.offset future amount unit)) :
    ∃ digits name, offsetParts raw = (future, digits, name) ∧ Text.Digits digits ∧
      Text.digitsValue digits = amount ∧ (name.lowercase, unit) ∈ units := by
  obtain _ | _ | @⟨sign, blanks, digits, blanks', name, _, _, hsign, hblanks, hdigits, hblanks',
    hname⟩ := h
  refine ⟨digits, name, ?_, hdigits, rfl, hname⟩
  obtain ⟨hne, hletters⟩ := not_isApart_of_mem_unit hname
  have hbody : ∀ c ∈ (blanks ++ (digits ++ (blanks' ++ name))).head?,
      Text.isBlank c = true ∨ Text.isDigit c = true := by
    cases blanks with
    | nil => exact fun c hc => .inr (hdigits.head_append _ c hc)
    | cons b blanks => simp [hblanks b List.mem_cons_self]
  have hstart : Text.trimStart (blanks ++ (digits ++ (blanks' ++ name))) =
      digits ++ (blanks' ++ name) := by
    rw [Text.trimStart, List.dropWhile_append_of_pos hblanks]
    exact hdigits.trimStart_append _
  have hrest : ∀ c ∈ (blanks' ++ name).head?, Text.isDigit c = false := by
    intro c hc
    rcases List.mem_append.mp (List.mem_of_head? hc) with hc | hc
    · by_contra hdigit
      have hblank := Text.isBlank_of_isDigit (by simpa using hdigit)
      exact absurd (hblanks' c hc) (by simp [hblank])
    · exact Bool.eq_false_of_not_eq_true fun hdigit => hletters c hc (.inr (.inl hdigit))
  have htight : Text.Tight name := .of_forall hne fun c hc =>
    Bool.eq_false_of_not_eq_true fun hblank => hletters c hc (.inl hblank)
  obtain ⟨htake, hdrop⟩ := span_digits hdigits.2 hrest
  rw [offsetParts, splitSign_append hsign hbody]
  simp only [hstart, htake, hdrop]
  rw [Text.trim_blanks_append hblanks', htight.trim_eq]

lemma fits_of_offsetParts {raw digits name : Text} {future : Bool} {unit : Int}
    (htrim : raw.trim = raw) (hparts : offsetParts raw = (future, digits, name))
    (hdigits : Text.Digits digits) (hname : (name.lowercase, unit) ∈ units) :
    Fits raw (.offset future (Text.digitsValue digits) unit) := by
  obtain ⟨sign, hraw, hsign⟩ := exists_sign raw
  simp only [offsetParts, Prod.mk.injEq] at hparts
  obtain ⟨rfl, hdigitsEq, hnameEq⟩ := hparts
  set body := (splitSign raw).2
  have hbody : body = body.takeWhile Text.isBlank ++ body.trimStart :=
    List.takeWhile_append_dropWhile.symm
  have hrest : body.trimStart = digits ++ body.trimStart.dropWhile Text.isDigit := by
    rw [← hdigitsEq, List.takeWhile_append_dropWhile]
  obtain ⟨left, right, hafter, hleft, hright⟩ :=
    Text.exists_trim (body.trimStart.dropWhile Text.isDigit)
  rw [hnameEq] at hafter
  have hwhole : raw = sign ++ (body.takeWhile Text.isBlank ++ (digits ++ (left ++ name))) ++
      right := by
    conv_lhs => rw [hraw, hbody, hrest, hafter]
    simp
  -- The text is trimmed, so nothing follows the name of the unit.
  have hnil : right = [] := Text.eq_nil_of_trim_append (by rwa [← hwhole]) hright
  rw [hnil, List.append_nil] at hwhole
  rw [hwhole]
  exact .offset (by rwa [← hwhole]) (fun c hc => List.mem_takeWhile_imp hc) hdigits hleft hname

end Offset

section Unique

variable {text : Text} {shape shape' : Shape}

lemma Fits.eq_nil_iff (h : Fits text shape) : text = [] ↔ shape = .blank := by
  cases h with
  | blank => simp
  | date => simp
  | offset _ _ hdigits => simp [hdigits.1]

/-- Behind the first digits of a date stands a dash, which is in no name of a unit. -/
lemma not_fits_date_of_fits_offset {future : Bool} {amount : Nat} {unit : Int}
    (h : Fits text (.offset future amount unit)) (date : Date) : ¬Fits text (.date date) := by
  rintro (_ | @⟨y, m, d, hy, -, -, hdigits⟩)
  obtain ⟨digits, name, hparts, -, -, hname⟩ := offsetParts_of_fits h
  have hyd : ∀ c ∈ y, Text.isDigit c = true := (List.forall_mem_append.mp hdigits).1
  have hydigits : Text.Digits y := ⟨by rintro rfl; simp at hy, hyd⟩
  have hstart := hydigits.trimStart_append ('-' :: (m ++ '-' :: d))
  have hsign : splitSign (y ++ '-' :: (m ++ '-' :: d)) = (false, y ++ '-' :: (m ++ '-' :: d)) :=
    splitSign_append .none fun c hc => .inr (hydigits.head_append _ c hc)
  simp only [offsetParts, hsign, hstart, Prod.mk.injEq] at hparts
  rw [(span_digits hyd (by simp; decide)).2] at hparts
  have hdash : '-' ∈ (Text.trim ('-' :: (m ++ '-' :: d))).filter (!Text.isBlank ·) := by
    rw [Text.filter_trim]
    exact List.mem_filter.mpr ⟨List.mem_cons_self, by decide⟩
  rw [hparts.2.2] at hdash
  exact (not_isApart_of_mem_unit hname).2 '-' (List.mem_filter.mp hdash).1 (.inr (.inr rfl))

lemma Fits.unique (h : Fits text shape) (h' : Fits text shape') : shape = shape' := by
  cases shape with
  | blank => exact (h'.eq_nil_iff.mp (h.eq_nil_iff.mpr rfl)).symm
  | date d =>
    cases shape' with
    | blank => exact h.eq_nil_iff.mp (h'.eq_nil_iff.mpr rfl)
    | date d' =>
      rw [← readDate_eq_some_iff] at h h'
      rw [Option.some.inj (h.symm.trans h')]
    | offset => exact absurd h (not_fits_date_of_fits_offset h' d)
  | offset future amount unit =>
    cases shape' with
    | blank => exact h.eq_nil_iff.mp (h'.eq_nil_iff.mpr rfl)
    | date d => exact absurd h' (not_fits_date_of_fits_offset h d)
    | offset future' amount' unit' =>
      obtain ⟨digits, name, hparts, -, rfl, hname⟩ := offsetParts_of_fits h
      obtain ⟨digits', name', hparts', -, rfl, hname'⟩ := offsetParts_of_fits h'
      obtain ⟨rfl, rfl, rfl⟩ : future = future' ∧ digits = digits' ∧ name = name' := by
        simpa using hparts.symm.trans hparts'
      rw [← unitDays_eq_some_iff] at hname hname'
      rw [Option.some.inj (hname.symm.trans hname')]

end Unique

section Meaning

variable {raw : Text} {now : Instant} {future : Bool} {amount : Nat} {unit : Int}

lemma readOffset_of_fits (h : Fits raw (.offset future amount unit)) :
    readOffset raw =
      if Text.isInt64 amount then some ⟨future, amount * unit⟩ else none := by
  obtain ⟨digits, name, hparts, hdigits, rfl, hname⟩ := offsetParts_of_fits h
  have hread : Text.readInt digits = some (Text.digitsValue digits : Int) :=
    Text.readInt_eq_some_iff.mpr (.unsigned hdigits)
  rw [readOffset_eq, hparts, Text.readInt64, hread, Option.filter_some]
  dsimp only
  rw [unitDays_eq_some_iff.mpr hname]
  split_ifs <;> rfl

lemma exists_fits_of_readOffset (htrim : raw.trim = raw) {offset : Offset}
    (h : readOffset raw = some offset) : ∃ shape, Fits raw shape := by
  rw [readOffset_eq] at h
  obtain ⟨amount, hamount, hunit⟩ := Option.bind_eq_some_iff.mp h
  obtain ⟨unit, hunit, -⟩ := Option.map_eq_some_iff.mp hunit
  obtain ⟨hnumeral, -⟩ := Text.readInt64_eq_some_iff.mp hamount
  have hdigits : Text.Digits (offsetParts raw).2.1 := by
    refine ⟨hnumeral.tight.ne_nil, fun c hc => ?_⟩
    have hkept := List.mem_takeWhile_imp hc
    exact hkept
  exact ⟨_, fits_of_offsetParts htrim rfl hdigits (unitDays_eq_some_iff.mp hunit)⟩

lemma dayBefore_eq (now : Instant) (days : Int) :
    now.dayBefore days = startOfCount now days - days := by
  have hday : now.day = now.seconds / 86400 := rfl
  have hclock : now.clock = now.seconds % 86400 := rfl
  have hlength : Instant.secondsPerDay = 86400 := rfl
  unfold Instant.dayBefore startOfCount
  by_cases hleap : 0 < days ∧ now.inLeapSecond = true
  · by_cases hlast : now.clock = 86399
    · rw [if_pos hleap, if_pos ⟨hleap.1, hleap.2, hlast⟩, hlength]
      omega
    · rw [if_pos hleap, if_neg fun h => hlast h.2.2, hlength]
      omega
  · rw [if_neg hleap, if_neg fun h => hleap ⟨h.1, h.2.1⟩]

lemma startOfCount_bounds (now : Instant) (days : Int) :
    now.day ≤ startOfCount now days ∧ startOfCount now days ≤ now.day + 1 := by
  unfold startOfCount
  split_ifs <;> omega

/-- An offset that leads to a day of the calendar is a small number, so the product of the amount and
the days of its unit cannot overflow where the day is in range. -/
lemma isInt64_of_inCalendar {days : Int} (hnow : InCalendar now.day)
    (h : InCalendar (now.day + days) ∨ InCalendar (startOfCount now days - days)) :
    Text.isInt64 days = true := by
  have hmin : Date.minDayNumber = -96465292 := rfl
  have hmax : Date.maxDayNumber = 95026236 := rfl
  obtain ⟨hstart, hstart'⟩ := startOfCount_bounds now days
  unfold InCalendar at h hnow
  have hleast : Text.minInt64 = -9223372036854775808 := rfl
  have hgreatest : Text.maxInt64 = 9223372036854775807 := rfl
  rw [Text.isInt64_iff]
  omega

lemma resolve_of_fits (hnow : InCalendar now.day) (h : Fits raw (.offset future amount unit)) :
    ((readOffset raw).bind fun offset => offset.resolve now) =
      offsetBound now future amount unit := by
  rw [readOffset_of_fits h, offsetBound]
  by_cases hamount : Text.isInt64 (amount : Int) = true
  · have hproduct : InCalendar (if future then now.day + amount * unit
        else startOfCount now (amount * unit) - amount * unit) →
        Text.isInt64 (amount * unit) = true := by
      intro hday
      cases future with
      | true => exact isInt64_of_inCalendar hnow (.inl hday)
      | false => exact isInt64_of_inCalendar hnow (.inr hday)
    rw [if_pos hamount, Option.bind_some, Offset.resolve]
    dsimp only
    rw [dayBefore_eq]
    exact if_congr ⟨fun hday => ⟨hamount, hproduct hday, hday⟩, fun h => h.2.2⟩ rfl rfl
  · simp [hamount]

lemma given_eq (input : Option Text) :
    ((input.map Text.trim).filter fun s => !s.isEmpty) =
      if (input.getD []).trim = [] then none else some (input.getD []).trim := by
  cases input with
  | none => rfl
  | some s =>
    rw [Option.map_some, Option.getD_some, Option.filter_some]
    cases s.trim <;> simp

end Meaning

/-- Every text has at most one shape, and the shape says what the text means, by every clock; a text of
no shape is refused. The bound at a number of units from today is the first instant of a day back or the
last microsecond of a day ahead, and an offset is refused where the amount or the days do not fit in 64
bits or the day is not in the calendar. Only inside a leap second that ends its day is one of the days
counted back already over. -/
theorem parse_meaning (input : Option Text) (now : Instant) (hnow : InCalendar now.day) :
    let text := (input.getD []).trim
    (∀ shape, Fits text shape → parse input now = shape.meaning now text) ∧
      ((¬∃ shape, Fits text shape) → parse input now = .error (.time text)) ∧
        ∀ shape shape', Fits text shape → Fits text shape' → shape = shape' := by
  intro text
  have htrim : text.trim = text := Text.trim_trim _
  refine ⟨fun shape hshape => ?_, fun hnone => ?_, fun _ _ => Fits.unique⟩
  · cases shape with
    | blank =>
      have hnil : text = [] := hshape.eq_nil_iff.mpr rfl
      rw [parse, given_eq, if_pos hnil]
      rfl
    | date d =>
      have hne : text ≠ [] := fun hnil => by simpa using hshape.eq_nil_iff.mp hnil
      rw [parse, given_eq, if_neg hne]
      dsimp only
      rw [readDate_eq_some_iff.mpr hshape]
      rfl
    | offset future amount unit =>
      have hne : text ≠ [] := fun hnil => by simpa using hshape.eq_nil_iff.mp hnil
      have hdate : readDate text = none := Option.eq_none_iff_forall_ne_some.mpr fun d hd =>
        not_fits_date_of_fits_offset hshape d (readDate_eq_some_iff.mp hd)
      rw [parse, given_eq, if_neg hne]
      dsimp only
      rw [hdate, resolve_of_fits hnow hshape]
      rfl
  · have hne : text ≠ [] := fun hnil => hnone ⟨.blank, hnil ▸ .blank⟩
    have hdate : readDate text = none := Option.eq_none_iff_forall_ne_some.mpr fun d hd =>
      hnone ⟨_, readDate_eq_some_iff.mp hd⟩
    have hoffset : readOffset text = none := Option.eq_none_iff_forall_ne_some.mpr fun _ h =>
      hnone (exists_fits_of_readOffset htrim h)
    rw [parse, given_eq, if_neg hne]
    dsimp only
    rw [hdate, hoffset]
    rfl

/-- Two weeks ahead of the last day of February in a leap year. -/
theorem parse_meaning_two_weeks :
    InCalendar (Instant.day ⟨1709200800, 0⟩) ∧
      Fits ['+', '2', ' ', 'W', 'e', 'e', 'k'] (.offset true 2 7) ∧
        parse (some [' ', '+', '2', ' ', 'W', 'e', 'e', 'k']) ⟨1709200800, 0⟩ =
          .ok (some (.endOfDay (Date.dayNumber ⟨2024, 3, 14⟩))) := by
  have hdigits : Text.Digits ['2'] := ⟨by simp, by simp [Text.isDigit]⟩
  have hblanks : ∀ c ∈ [' '], Text.isBlank c = true := by simp [Text.isBlank, Text.inRanges]
  have hunit : (Text.lowercase ['W', 'e', 'e', 'k'], (7 : Int)) ∈ units := by decide +kernel
  have hfits : Fits ['+', '2', ' ', 'W', 'e', 'e', 'k'] (.offset true 2 7) :=
    .offset .plus (List.forall_mem_nil _) hdigits hblanks hunit
  have hnow : InCalendar (Instant.day ⟨1709200800, 0⟩) := by decide +kernel
  refine ⟨hnow, hfits, ?_⟩
  have h := (parse_meaning (some [' ', '+', '2', ' ', 'W', 'e', 'e', 'k']) _ hnow).1 _ hfits
  rw [h]
  decide +kernel

/-- One day before the leap second that ended the year 2016 is the start of its own day. -/
theorem leap_second_counts_from_its_end :
    Fits ['-', '1', 'd'] (.offset false 1 1) ∧
      parse (some ['-', '1', 'd']) ⟨1483228799, 1000000000⟩ =
        .ok (some (.midnight (Instant.day ⟨1483228799, 1000000000⟩))) ∧
      parse (some ['-', '1', 'd']) ⟨1483228799, 1000000000⟩ ≠
        .ok (some (.midnight (Instant.day ⟨1483228799, 1000000000⟩ - 1))) := by
  have hdigits : Text.Digits ['1'] := ⟨by simp, by simp [Text.isDigit]⟩
  have hunit : (Text.lowercase ['d'], (1 : Int)) ∈ units := by decide +kernel
  refine ⟨?_, by decide +kernel, by decide +kernel⟩
  exact .offset .minus (List.forall_mem_nil _) hdigits (List.forall_mem_nil _) hunit

end ForumSearch.TimeBound
