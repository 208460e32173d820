import ForumSearch.Proofs.Text.Integer
import ForumSearch.Query.Interval

/-!
# Intervals in bracket notation

An interval is read exactly from the texts that have its form. What has no such form is refused as
it stands, and what has it with the ends in the wrong order is refused with these ends. So every
way of printing an interval, in brackets and with a comma of any width, is read back.
-/

namespace ForumSearch.Interval

section Form

/-- A bracket that begins an interval, and whether the lower end belongs to it. -/
inductive Opens : Char → Bool → Prop where
  | square : Opens '[' true
  | wideSquare : Opens '【' true
  | round : Opens '(' false
  | wideRound : Opens '（' false

/-- A bracket that ends an interval, and whether the upper end belongs to it. -/
inductive Closes : Char → Bool → Prop where
  | square : Closes ']' true
  | wideSquare : Closes '】' true
  | round : Closes ')' false
  | wideRound : Closes '）' false

lemma Opens.isBlank {c : Char} {included : Bool} (h : Opens c included) :
    Text.isBlank c = false := by
  cases h <;> decide

lemma Closes.isBlank {c : Char} {included : Bool} (h : Closes c included) :
    Text.isBlank c = false := by
  cases h <;> decide

/-- An integer with blanks around it. -/
def Padded (s : Text) (n : Int) : Prop :=
  ∃ left numeral right, s = left ++ (numeral ++ right) ∧ (∀ c ∈ left, Text.isBlank c = true) ∧
    (∀ c ∈ right, Text.isBlank c = true) ∧ Text.Numeral numeral n

/-- Two integers with a comma between them, in brackets. -/
def Written (s : Text) (r : Interval) : Prop :=
  ∃ first lower comma upper last, s = first :: (lower ++ comma :: upper ++ [last]) ∧
    Opens first r.lowerIncluded ∧ Padded lower r.lower ∧ (comma = ',' ∨ comma = '，') ∧
    Padded upper r.upper ∧ Closes last r.upperIncluded

/-- A text has the form of an interval, whose ends are integers of 64 bits in any order. -/
def Reads (s : Text) (r : Interval) : Prop :=
  Written s.trim r ∧ Text.isInt64 r.lower = true ∧ Text.isInt64 r.upper = true

end Form

section Width

lemma halfWidth_eq_iff (c : Char) :
    (halfWidth c = ',' ↔ c = ',' ∨ c = '，') ∧ (halfWidth c = '(' ↔ c = '(' ∨ c = '（') ∧
      (halfWidth c = ')' ↔ c = ')' ∨ c = '）') ∧ (halfWidth c = '[' ↔ c = '[' ∨ c = '【') ∧
      (halfWidth c = ']' ↔ c = ']' ∨ c = '】') := by
  unfold halfWidth
  split_ifs <;> simp_all

lemma opening_eq_some_iff {c : Char} {included : Bool} :
    opening c = some included ↔ c = '[' ∧ included = true ∨ c = '(' ∧ included = false := by
  unfold opening
  split <;> simp_all [eq_comm]

lemma closing_eq_some_iff {c : Char} {included : Bool} :
    closing c = some included ↔ c = ']' ∧ included = true ∨ c = ')' ∧ included = false := by
  unfold closing
  split <;> simp_all [eq_comm]

lemma opening_halfWidth_iff {c : Char} {included : Bool} :
    opening (halfWidth c) = some included ↔ Opens c included := by
  obtain ⟨-, hround, -, hsquare, -⟩ := halfWidth_eq_iff c
  rw [opening_eq_some_iff, hsquare, hround]
  constructor
  · rintro (⟨rfl | rfl, rfl⟩ | ⟨rfl | rfl, rfl⟩) <;> constructor
  · rintro (_ | _ | _ | _) <;> simp

lemma closing_halfWidth_iff {c : Char} {included : Bool} :
    closing (halfWidth c) = some included ↔ Closes c included := by
  obtain ⟨-, -, hround, -, hsquare⟩ := halfWidth_eq_iff c
  rw [closing_eq_some_iff, hsquare, hround]
  constructor
  · rintro (⟨rfl | rfl, rfl⟩ | ⟨rfl | rfl, rfl⟩) <;> constructor
  · rintro (_ | _ | _ | _) <;> simp

/-- The brackets and commas of both widths. -/
def marks : List Char :=
  [',', '，', '(', '（', ')', '）', '[', '【', ']', '】']

lemma not_number_of_mem_marks {c : Char} (hc : c ∈ marks) :
    Text.isBlank c = false ∧ Text.isDigit c = false ∧ c ≠ '+' ∧ c ≠ '-' := by
  revert c
  simp [marks, Text.isBlank, Text.inRanges, Text.isDigit]

lemma Padded.not_mem {s : Text} {n : Int} (h : Padded s n) {c : Char} (hc : c ∈ marks) :
    c ∉ s := by
  obtain ⟨left, numeral, right, rfl, hleft, hright, hnumeral⟩ := h
  obtain ⟨hblank, hdigit, hplus, hminus⟩ := not_number_of_mem_marks hc
  simp only [List.mem_append, not_or]
  refine ⟨fun hmem => ?_, fun hmem => ?_, fun hmem => ?_⟩
  · exact absurd (hleft c hmem) (by simp [hblank])
  · exact absurd (hnumeral.mem hmem) (by simp [hdigit, hplus, hminus])
  · exact absurd (hright c hmem) (by simp [hblank])

/-- A number and its blanks have the same form in any width. -/
lemma padded_map_halfWidth_iff {s : Text} {n : Int} :
    Padded (s.map halfWidth) n ↔ Padded s n := by
  have hsame (h : ∀ c ∈ s, halfWidth c = c) : s.map halfWidth = s := by
    rw [List.map_congr_left h, List.map_id']
  have hmarks (c : Char) : halfWidth c = c ∨ c ∈ marks ∧ halfWidth c ∈ marks := by
    unfold halfWidth
    split_ifs <;> simp_all [marks]
  constructor
  · intro h
    rwa [hsame fun c hc => (hmarks c).resolve_right fun hmark =>
      h.not_mem hmark.2 (List.mem_map_of_mem hc)] at h
  · intro h
    rwa [hsame fun c hc => (hmarks c).resolve_right fun hmark => h.not_mem hmark.1 hc]

lemma readInt64_trim_iff {s : Text} {n : Int} :
    Text.readInt64 s.trim = some n ↔ Padded s n ∧ Text.isInt64 n = true := by
  rw [Text.readInt64_eq_some_iff]
  refine and_congr_left fun _ => ⟨fun h => ?_, ?_⟩
  · obtain ⟨left, right, hs, hleft, hright⟩ := Text.exists_trim s
    exact ⟨left, s.trim, right, hs, hleft, hright, h⟩
  · rintro ⟨left, numeral, right, rfl, hleft, hright, hnumeral⟩
    rwa [hnumeral.tight.trim_around hleft hright]

end Width

lemma read_eq_some_iff {s : Text} {r : Interval} : read s = some r ↔ Reads s r := by
  unfold read Reads Written
  generalize s.trim = t
  simp only [Option.bind_eq_bind, Option.bind_eq_some_iff, List.head?_map, Option.map_eq_some_iff,
    ← List.map_tail, List.getLast?_map, ← List.map_dropLast, Text.splitFirst_eq_some_iff,
    Prod.exists, readInt64_trim_iff]
  constructor
  · rintro ⟨_, ⟨first, hfirst, rfl⟩, i, hi, _, ⟨last, hlast, rfl⟩, j, hj, a, b, ⟨hinner, hcomma⟩,
      lower, ⟨hlower, hlower64⟩, upper, ⟨hupper, hupper64⟩, hr⟩
    obtain rfl := Option.some.inj hr
    obtain ⟨cs, rfl⟩ := List.head?_eq_some_iff.mp hfirst
    obtain ⟨inner, hcs⟩ := List.getLast?_eq_some_iff.mp hlast
    rw [List.tail_cons] at hinner hcs
    subst hcs
    rw [List.dropLast_concat, List.map_eq_append_iff] at hinner
    obtain ⟨lowerText, rest, rfl, rfl, hrest⟩ := hinner
    obtain ⟨comma, upperText, rfl, hc, rfl⟩ := List.map_eq_cons_iff.mp hrest
    exact ⟨⟨first, lowerText, comma, upperText, last, rfl, opening_halfWidth_iff.mp hi,
      padded_map_halfWidth_iff.mp hlower, (halfWidth_eq_iff comma).1.mp hc,
      padded_map_halfWidth_iff.mp hupper, closing_halfWidth_iff.mp hj⟩, hlower64, hupper64⟩
  · rintro ⟨⟨first, lowerText, comma, upperText, last, rfl, hi, hlower, hc, hupper, hj⟩, hlower64,
      hupper64⟩
    have hlower := padded_map_halfWidth_iff.mpr hlower
    have hupper := padded_map_halfWidth_iff.mpr hupper
    refine ⟨_, ⟨first, rfl, rfl⟩, _, opening_halfWidth_iff.mpr hi, _, ⟨last, List.getLast?_concat, rfl⟩, _,
      closing_halfWidth_iff.mpr hj, _, _, ⟨?_, hlower.not_mem (by simp [marks])⟩, _,
      ⟨hlower, hlower64⟩, _, ⟨hupper, hupper64⟩, rfl⟩
    rw [List.tail_cons, List.dropLast_concat, List.map_append, List.map_cons,
      (halfWidth_eq_iff comma).1.mpr hc]

lemma parse_of_reads {s : Text} {r : Interval} (h : Reads s r) :
    parse s = if r.lower ≤ r.upper then .ok r else .error (.emptyInterval r.lower r.upper) := by
  rw [parse, read_eq_some_iff.mpr h]

lemma parse_of_not_reads {s : Text} (h : ¬∃ r, Reads s r) : parse s = .error (.interval s) := by
  have hnone : read s = none :=
    Option.eq_none_iff_forall_ne_some.mpr fun r hr => h ⟨r, read_eq_some_iff.mp hr⟩
  rw [parse, hnone]

section Print

/-- A text of blanks only. -/
structure Blanks where
  text : Text
  blank : ∀ c ∈ text, Text.isBlank c = true

/-- A way to print intervals: the marks that are wide, and the blanks around every part. -/
structure Style where
  wideOpening : Bool
  wideComma : Bool
  wideClosing : Bool
  before : Blanks
  afterOpening : Blanks
  beforeComma : Blanks
  afterComma : Blanks
  beforeClosing : Blanks
  after : Blanks

namespace Style

def opening (style : Style) (included : Bool) : Char :=
  if style.wideOpening then if included then '【' else '（' else if included then '[' else '('

def comma (style : Style) : Char :=
  if style.wideComma then '，' else ','

def closing (style : Style) (included : Bool) : Char :=
  if style.wideClosing then if included then '】' else '）' else if included then ']' else ')'

/-- An interval between its brackets. -/
def inner (style : Style) (r : Interval) : Text :=
  style.opening r.lowerIncluded ::
    ((style.afterOpening.text ++ (Text.ofInt r.lower ++ style.beforeComma.text)) ++ style.comma ::
      (style.afterComma.text ++ (Text.ofInt r.upper ++ style.beforeClosing.text)) ++
        [style.closing r.upperIncluded])

def print (style : Style) (r : Interval) : Text :=
  style.before.text ++ (style.inner r ++ style.after.text)

lemma opens_opening (style : Style) (included : Bool) :
    Opens (style.opening included) included := by
  unfold opening
  cases included <;> cases style.wideOpening <;> constructor

lemma closes_closing (style : Style) (included : Bool) :
    Closes (style.closing included) included := by
  unfold closing
  cases included <;> cases style.wideClosing <;> constructor

lemma written_inner (style : Style) (r : Interval) : Written (style.inner r) r := by
  have hcomma : style.comma = ',' ∨ style.comma = '，' := by
    unfold comma
    cases style.wideComma <;> simp
  exact ⟨_, _, _, _, _, rfl, style.opens_opening _,
    ⟨_, _, _, rfl, style.afterOpening.blank, style.beforeComma.blank, Text.numeral_ofInt _⟩, hcomma,
    ⟨_, _, _, rfl, style.afterComma.blank, style.beforeClosing.blank, Text.numeral_ofInt _⟩,
    style.closes_closing _⟩

lemma tight_inner (style : Style) (r : Interval) : Text.Tight (style.inner r) where
  ne_nil := List.cons_ne_nil _ _
  first c hc := by
    obtain rfl := Option.some.inj hc
    exact (style.opens_opening _).isBlank
  last c hc := by
    have hlast : (style.inner r).getLast? = some (style.closing r.upperIncluded) := by
      rw [inner, List.getLast?_cons, List.getLast?_concat]
      rfl
    rw [hlast] at hc
    obtain rfl := Option.some.inj hc
    exact (style.closes_closing _).isBlank

lemma reads_print (style : Style) {r : Interval} (hlower : Text.isInt64 r.lower = true)
    (hupper : Text.isInt64 r.upper = true) : Reads (style.print r) r := by
  refine ⟨?_, hlower, hupper⟩
  rw [print, (style.tight_inner r).trim_around style.before.blank style.after.blank]
  exact style.written_inner r

end Style

end Print

/-- A text is an interval exactly if it has the form of one, with the ends in order. All other texts
are refused, those of the form with their ends; and an interval that is printed in any style is
read back. -/
theorem parse_reads (s : Text) :
    (∀ r, parse s = .ok r ↔ Reads s r ∧ r.lower ≤ r.upper) ∧
      (∀ cause, parse s = .error cause ↔ (¬∃ r, Reads s r) ∧ cause = .interval s ∨
        ∃ r, Reads s r ∧ r.upper < r.lower ∧ cause = .emptyInterval r.lower r.upper) ∧
      ∀ (style : Style) (r : Interval), s = style.print r → Text.isInt64 r.lower = true →
        Text.isInt64 r.upper = true → r.lower ≤ r.upper → parse s = .ok r := by
  have haccepted (r : Interval) : parse s = .ok r ↔ Reads s r ∧ r.lower ≤ r.upper := by
    constructor
    · intro h
      by_cases hread : ∃ r, Reads s r
      · obtain ⟨r', hr'⟩ := hread
        rw [parse_of_reads hr'] at h
        split_ifs at h with horder
        obtain rfl := Except.ok.inj h
        exact ⟨hr', horder⟩
      · rw [parse_of_not_reads hread] at h
        exact absurd h (by simp)
    · rintro ⟨hr, horder⟩
      rw [parse_of_reads hr, if_pos horder]
  refine ⟨haccepted, fun cause => ⟨fun h => ?_, ?_⟩, ?_⟩
  · by_cases hread : ∃ r, Reads s r
    · obtain ⟨r, hr⟩ := hread
      rw [parse_of_reads hr] at h
      split_ifs at h with horder
      exact .inr ⟨r, hr, by omega, (Except.error.inj h).symm⟩
    · rw [parse_of_not_reads hread] at h
      exact .inl ⟨hread, (Except.error.inj h).symm⟩
  · rintro (⟨hread, rfl⟩ | ⟨r, hr, horder, rfl⟩)
    · exact parse_of_not_reads hread
    · rw [parse_of_reads hr, if_neg (by omega)]
  · rintro style r rfl hlower hupper horder
    exact (haccepted r).mpr ⟨style.reads_print hlower hupper, horder⟩

/-- A wide bracket, a wide comma and a half-width bracket, with an ideographic space in between, and
the least of all ends. -/
theorem parse_reads_mixed_width :
    let space : Blanks := ⟨['\u3000', '\t'], by simp [Text.isBlank, Text.inRanges]⟩
    let nothing : Blanks := ⟨[], by simp⟩
    let style : Style := ⟨true, true, false, nothing, space, nothing, space, nothing, space⟩
    let r : Interval := ⟨Text.minInt64, -20, false, true⟩
    style.print r = "（\u3000\t-9223372036854775808，\u3000\t-20]\u3000\t".toList ∧
      Text.isInt64 r.lower = true ∧ Text.isInt64 r.upper = true ∧ r.lower ≤ r.upper ∧
      parse (style.print r) = .ok r := by
  intro space nothing style r
  have hlower : Text.isInt64 r.lower = true := by decide
  have hupper : Text.isInt64 r.upper = true := by decide
  have horder : r.lower ≤ r.upper := by decide
  exact ⟨by decide +kernel, hlower, hupper, horder,
    (parse_reads _).2.2 style r rfl hlower hupper horder⟩

end ForumSearch.Interval
