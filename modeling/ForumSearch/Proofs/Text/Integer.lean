import ForumSearch.Proofs.Text.Trim
import ForumSearch.Text.Integer

/-!
# Decimal integers

A numeral has at least one digit and maybe a sign. Reading takes numerals and nothing else, and the
shortest form of an integer is one of its numerals.
-/

namespace ForumSearch.Text

lemma isDigit_digitChar {d : Nat} (hd : d < 10) :
    isDigit (digitChar d) = true ∧ digitValue (digitChar d) = d := by
  have hall : ∀ d : Fin 10, isDigit (digitChar d) = true ∧ digitValue (digitChar d) = d := by
    decide
  exact hall ⟨d, hd⟩

lemma digitsValue_ofNat (n : Nat) :
    (∀ c ∈ ofNat n, isDigit c = true) ∧ digitsValue (ofNat n) = n := by
  induction n using Nat.strongRecOn with
  | ind n ih =>
    rw [ofNat]
    by_cases hn : n < 10
    · obtain ⟨hdigit, hvalue⟩ := isDigit_digitChar hn
      rw [if_pos hn]
      exact ⟨by simpa using hdigit, by simpa [digitsValue] using hvalue⟩
    · obtain ⟨hdigits, hrest⟩ := ih (n / 10) (by omega)
      obtain ⟨hdigit, hvalue⟩ := isDigit_digitChar (Nat.mod_lt n (by decide : 0 < 10))
      rw [if_neg hn]
      constructor
      · intro c hc
        rcases List.mem_append.mp hc with hc | hc
        · exact hdigits c hc
        · rw [List.mem_singleton.mp hc]
          exact hdigit
      · unfold digitsValue at hrest ⊢
        rw [List.foldl_append, hrest]
        simp only [List.foldl_cons, List.foldl_nil, hvalue]
        omega

lemma ofNat_ne_nil (n : Nat) : ofNat n ≠ [] := by
  rw [ofNat]
  by_cases hn : n < 10
  · simp [hn]
  · simp [hn]

/-- Decimal digits, at least one. -/
def Digits (s : Text) : Prop :=
  s ≠ [] ∧ ∀ c ∈ s, isDigit c = true

/-- The written forms of an integer. -/
inductive Numeral : Text → Int → Prop where
  | unsigned {digits : Text} (h : Digits digits) : Numeral digits (digitsValue digits)
  | plus {digits : Text} (h : Digits digits) : Numeral ('+' :: digits) (digitsValue digits)
  | minus {digits : Text} (h : Digits digits) : Numeral ('-' :: digits) (-(digitsValue digits : Int))

lemma readNat_eq_some_iff {s : Text} {n : Nat} :
    readNat s = some n ↔ Digits s ∧ digitsValue s = n := by
  rw [readNat, Option.ite_none_right_eq_some]
  simp [Digits]

lemma Digits.ne_cons {s t : Text} {c : Char} (h : Digits s) (hc : isDigit c = false) :
    s ≠ c :: t := by
  rintro rfl
  rw [h.2 c List.mem_cons_self] at hc
  exact absurd hc (by decide)

lemma Digits.head_append {s : Text} (h : Digits s) (rest : Text) :
    ∀ c ∈ (s ++ rest).head?, isDigit c = true := by
  rw [List.head?_append_of_ne_nil _ h.1]
  exact fun c hc => h.2 c (List.mem_of_head? hc)

lemma readInt_eq_some_iff {s : Text} {n : Int} : readInt s = some n ↔ Numeral s n := by
  constructor
  · intro h
    unfold readInt at h
    split at h
    all_goals
      obtain ⟨m, hm, rfl⟩ := Option.map_eq_some_iff.mp h
      obtain ⟨value, hvalue, hcast⟩ := Option.bind_eq_some_iff.mp hm
      obtain rfl := Option.some.inj hcast
      obtain ⟨hdigits, rfl⟩ := readNat_eq_some_iff.mp hvalue
    · exact .minus hdigits
    · exact .plus hdigits
    · exact .unsigned hdigits
  · intro h
    cases h with
    | unsigned h =>
      rw [readInt, readNat_eq_some_iff.mpr ⟨h, rfl⟩]
      · rfl
      · exact fun _ => h.ne_cons (by decide)
      · exact fun _ => h.ne_cons (by decide)
    | plus h =>
      rw [readInt, readNat_eq_some_iff.mpr ⟨h, rfl⟩]
      rfl
    | minus h =>
      rw [readInt, readNat_eq_some_iff.mpr ⟨h, rfl⟩]
      rfl

lemma isInt64_iff {n : Int} : isInt64 n = true ↔ minInt64 ≤ n ∧ n ≤ maxInt64 := by
  rw [isInt64, Bool.and_eq_true, decide_eq_true_eq, decide_eq_true_eq]

lemma readInt64_eq_some_iff {s : Text} {n : Int} :
    readInt64 s = some n ↔ Numeral s n ∧ isInt64 n = true := by
  rw [readInt64, Option.filter_eq_some_iff, readInt_eq_some_iff]

lemma numeral_ofInt (n : Int) : Numeral (ofInt n) n := by
  obtain ⟨hdigits, hvalue⟩ := digitsValue_ofNat n.natAbs
  have h : Digits (ofNat n.natAbs) := ⟨ofNat_ne_nil _, hdigits⟩
  rw [ofInt]
  split_ifs with hn
  · have hminus := Numeral.minus h
    rw [hvalue] at hminus
    rwa [show -(n.natAbs : Int) = n by omega] at hminus
  · have hunsigned := Numeral.unsigned h
    rw [hvalue] at hunsigned
    rwa [show (n.natAbs : Int) = n by omega] at hunsigned

lemma isBlank_of_isDigit {c : Char} (hc : isDigit c = true) : isBlank c = false := by
  have hbounds : 48 ≤ c.toNat ∧ c.toNat ≤ 57 := by
    simpa [isDigit, Char.le_def, UInt32.le_iff_toNat_le] using hc
  simp only [isBlank, inRanges]
  grind

lemma Digits.trimStart_append {s : Text} (h : Digits s) (rest : Text) :
    trimStart (s ++ rest) = s ++ rest := by
  have hhead := h.head_append rest
  cases hs : s ++ rest with
  | nil => rfl
  | cons c t =>
    rw [hs] at hhead
    exact List.dropWhile_cons_of_neg (by simp [isBlank_of_isDigit (hhead c rfl)])

lemma Numeral.mem {s : Text} {n : Int} (h : Numeral s n) {c : Char} (hc : c ∈ s) :
    isDigit c = true ∨ c = '+' ∨ c = '-' := by
  cases h with
  | unsigned h => exact .inl (h.2 c hc)
  | plus h =>
    rcases List.mem_cons.mp hc with rfl | hc
    · exact .inr (.inl rfl)
    · exact .inl (h.2 c hc)
  | minus h =>
    rcases List.mem_cons.mp hc with rfl | hc
    · exact .inr (.inr rfl)
    · exact .inl (h.2 c hc)

lemma Numeral.tight {s : Text} {n : Int} (h : Numeral s n) : Tight s := by
  refine Tight.of_forall ?_ fun c hc => ?_
  · cases h with
    | unsigned h => exact h.1
    | plus => exact List.cons_ne_nil _ _
    | minus => exact List.cons_ne_nil _ _
  · rcases h.mem hc with hdigit | rfl | rfl
    · exact isBlank_of_isDigit hdigit
    · decide
    · decide

end ForumSearch.Text
