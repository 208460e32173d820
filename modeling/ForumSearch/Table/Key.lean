import ForumSearch.Text.Basic

/-!
Keys: strict total orders with a decidable test, on integers, characters, pairs and lists.
Texts are compared by code points. Lists of keys sort into increasing lists without repeats.
-/

namespace ForumSearch

class Key (κ : Type) where
  lt : κ → κ → Bool
  lt_irrefl : ∀ a, lt a a = false
  lt_trans : ∀ {a b c}, lt a b = true → lt b c = true → lt a c = true
  lt_or_eq : ∀ a b, lt a b = true ∨ a = b ∨ lt b a = true

namespace Key

instance : Key Int where
  lt a b := a < b
  lt_irrefl a := by simp
  lt_trans := by simp only [decide_eq_true_eq]; omega
  lt_or_eq a b := by simp only [decide_eq_true_eq]; omega

instance : Key Char where
  lt a b := a.toNat < b.toNat
  lt_irrefl a := by simp
  lt_trans := by simp only [decide_eq_true_eq]; omega
  lt_or_eq a b := by
    simp only [decide_eq_true_eq]
    rcases Nat.lt_trichotomy a.toNat b.toNat with h | h | h
    · exact .inl h
    · exact .inr (.inl (Char.toNat_inj.mp h))
    · exact .inr (.inr h)

section Pair

variable {α β : Type} [DecidableEq α] [Key α] [Key β]

def pairLt (a b : α × β) : Bool :=
  lt a.1 b.1 || (a.1 = b.1 && lt a.2 b.2)

theorem pairLt_iff {a b : α × β} :
    pairLt a b = true ↔ lt a.1 b.1 = true ∨ a.1 = b.1 ∧ lt a.2 b.2 = true := by
  simp [pairLt]

instance : Key (α × β) where
  lt := pairLt
  lt_irrefl a := by simp [pairLt, lt_irrefl]
  lt_trans {a b c} h₁ h₂ := by
    rw [pairLt_iff] at *
    rcases h₁ with h₁ | ⟨e₁, h₁⟩ <;> rcases h₂ with h₂ | ⟨e₂, h₂⟩
    · exact .inl (lt_trans h₁ h₂)
    · exact .inl (e₂ ▸ h₁)
    · exact .inl (e₁ ▸ h₂)
    · exact .inr ⟨e₁.trans e₂, lt_trans h₁ h₂⟩
  lt_or_eq a b := by
    simp only [pairLt_iff]
    rcases lt_or_eq a.1 b.1 with h | h | h
    · exact .inl (.inl h)
    · rcases lt_or_eq a.2 b.2 with h' | h' | h'
      · exact .inl (.inr ⟨h, h'⟩)
      · exact .inr (.inl (Prod.ext h h'))
      · exact .inr (.inr (.inr ⟨h.symm, h'⟩))
    · exact .inr (.inr (.inl h))

end Pair

section Lists

variable {α : Type} [DecidableEq α] [Key α]

def listLt : List α → List α → Bool
  | [], [] => false
  | [], _ :: _ => true
  | _ :: _, [] => false
  | a :: as, b :: bs => lt a b || (a = b && listLt as bs)

attribute [local simp] listLt

theorem listLt_cons {a b : α} {as bs : List α} :
    listLt (a :: as) (b :: bs) = true ↔ lt a b = true ∨ a = b ∧ listLt as bs = true := by
  simp

theorem listLt_irrefl (as : List α) : listLt as as = false := by
  induction as with
  | nil => rfl
  | cons a as ih => simp [lt_irrefl, ih]

theorem listLt_trans {as bs cs : List α} (h₁ : listLt as bs = true) (h₂ : listLt bs cs = true) :
    listLt as cs = true := by
  induction as generalizing bs cs with
  | nil => cases cs <;> cases bs <;> simp_all
  | cons a as ih =>
    cases bs with
    | nil => simp at h₁
    | cons b bs =>
      cases cs with
      | nil => simp at h₂
      | cons c cs =>
        rw [listLt_cons] at *
        rcases h₁ with h₁ | ⟨e₁, h₁⟩ <;> rcases h₂ with h₂ | ⟨e₂, h₂⟩
        · exact .inl (lt_trans h₁ h₂)
        · exact .inl (e₂ ▸ h₁)
        · exact .inl (e₁ ▸ h₂)
        · exact .inr ⟨e₁.trans e₂, ih h₁ h₂⟩

theorem listLt_or_eq (as bs : List α) :
    listLt as bs = true ∨ as = bs ∨ listLt bs as = true := by
  induction as generalizing bs with
  | nil => cases bs <;> simp
  | cons a as ih =>
    cases bs with
    | nil => simp
    | cons b bs =>
      simp only [listLt_cons]
      rcases lt_or_eq a b with h | h | h
      · exact .inl (.inl h)
      · rcases ih bs with h' | h' | h'
        · exact .inl (.inr ⟨h, h'⟩)
        · exact .inr (.inl (by rw [h, h']))
        · exact .inr (.inr (.inr ⟨h.symm, h'⟩))
      · exact .inr (.inr (.inl h))

instance : Key (List α) where
  lt := listLt
  lt_irrefl := listLt_irrefl
  lt_trans := listLt_trans
  lt_or_eq := listLt_or_eq

/-- Puts a key into an increasing list, unless it is there. -/
def insertSorted (a : α) : List α → List α
  | [] => [a]
  | b :: bs =>
    if lt a b then a :: b :: bs
    else if a = b then b :: bs
    else b :: insertSorted a bs

attribute [local simp] insertSorted

def sortDistinct (as : List α) : List α :=
  as.foldr insertSorted []

theorem mem_insertSorted {a x : α} {bs : List α} :
    x ∈ insertSorted a bs ↔ x = a ∨ x ∈ bs := by
  induction bs with
  | nil => simp
  | cons b bs ih =>
    simp only [insertSorted]
    split
    · simp
    · split
      · subst_vars; simp
      · simp [ih, or_left_comm]

theorem pairwise_insertSorted {a : α} {bs : List α} (h : bs.Pairwise fun x y => lt x y = true) :
    (insertSorted a bs).Pairwise fun x y => lt x y = true := by
  induction bs with
  | nil => simp
  | cons b bs ih =>
    obtain ⟨hb, hs⟩ := List.pairwise_cons.mp h
    simp only [insertSorted]
    split
    next hab =>
      exact List.pairwise_cons.mpr
        ⟨fun x hx => (List.mem_cons.mp hx).elim (· ▸ hab) fun hx => lt_trans hab (hb x hx), h⟩
    next hab =>
      split
      · exact h
      next hne =>
        refine List.pairwise_cons.mpr ⟨fun x hx => ?_, ih hs⟩
        rcases mem_insertSorted.mp hx with rfl | hx
        · rcases lt_or_eq b x with h' | h' | h'
          · exact h'
          · exact absurd h'.symm hne
          · exact absurd h' hab
        · exact hb x hx

theorem mem_sortDistinct {x : α} {as : List α} : x ∈ sortDistinct as ↔ x ∈ as := by
  induction as with
  | nil => simp [sortDistinct]
  | cons a as ih =>
    change x ∈ insertSorted a (sortDistinct as) ↔ _
    rw [mem_insertSorted, ih, List.mem_cons]

theorem pairwise_sortDistinct (as : List α) :
    (sortDistinct as).Pairwise fun x y => lt x y = true := by
  induction as with
  | nil => exact .nil
  | cons a as ih => exact pairwise_insertSorted ih

end Lists

end Key

end ForumSearch
