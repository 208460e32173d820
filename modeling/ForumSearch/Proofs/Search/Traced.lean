import ForumSearch.Store.Engine
import Mathlib

/-!
# Calls of a computation

A computation makes its calls one after the other and makes no more after one that fails. If the
answers come from a store, an engine decides only how far the computation gets: all its calls are
answered and it ends with its value, or it ends at the first call that fails.
-/

namespace ForumSearch

namespace Engine

variable (e : Engine)

/-- None of some calls fails. -/
def Answers (calls : List Call) : Prop :=
  ∀ call ∈ calls, e call = none

instance (calls : List Call) : Decidable (e.Answers calls) :=
  inferInstanceAs (Decidable (∀ call ∈ calls, e call = none))

/-- The calls up to the first that fails. -/
def made : List Call → List Call
  | [] => []
  | call :: calls => call :: if e call = none then made calls else []

/-- How some calls end. -/
def ending {α : Type} (calls : List Call) (a : α) : Except String α :=
  match calls.findSome? e with
  | some reason => .error reason
  | none => .ok a

/-- A page if all calls are answered, and the calls that are made for it. -/
def reply (calls : List Call) (page : Page) : Except Error Page × List Call :=
  (if e.Answers calls then .ok page else .error .searchFailed, e.made calls)

variable {e : Engine} {calls calls' : List Call}

lemma findSome?_eq_none : calls.findSome? e = none ↔ e.Answers calls :=
  List.findSome?_eq_none_iff

lemma made_append (h : e.Answers calls) : e.made (calls ++ calls') = calls ++ e.made calls' := by
  induction calls with
  | nil => rfl
  | cons call calls ih =>
    obtain ⟨hcall, hcalls⟩ := List.forall_mem_cons.mp h
    rw [List.cons_append, made, if_pos hcall, ih hcalls]
    rfl

lemma made_of_answers (h : e.Answers calls) : e.made calls = calls := by
  have hmade : e.made (calls ++ []) = calls ++ e.made [] := made_append h
  rwa [List.append_nil, made, List.append_nil] at hmade

/-- What would have been called after a failure is not. -/
lemma made_append_of_fails (h : ¬e.Answers calls) : e.made (calls ++ calls') = e.made calls := by
  induction calls with
  | nil => exact absurd (List.forall_mem_nil _) h
  | cons call calls ih =>
    rw [List.cons_append, made, made]
    by_cases hcall : e call = none
    · rw [if_pos hcall, if_pos hcall, ih fun hcalls => h (List.forall_mem_cons.mpr ⟨hcall, hcalls⟩)]
    · rw [if_neg hcall, if_neg hcall]

/-- The reason of a failure is not in the reply. -/
lemma reply_eq (page : Page) :
    e.reply calls page = ((e.ending calls page).mapError fun _ => .searchFailed, e.made calls) := by
  unfold reply ending
  by_cases h : e.Answers calls
  · rw [if_pos h, findSome?_eq_none.mpr h]
    rfl
  · obtain ⟨reason, hreason⟩ := Option.ne_none_iff_exists'.mp (mt findSome?_eq_none.mp h)
    rw [if_neg h, hreason]
    rfl

lemma reply_of_answers (h : e.Answers calls) (page : Page) :
    e.reply calls page = (.ok page, calls) := by
  rw [reply, if_pos h, made_of_answers h]

/-- Over all engines, calls and page are determined by the reply. -/
lemma eq_of_replies {page page' : Page}
    (h : ∀ e : Engine, e.reply calls page = e.reply calls' page') :
    calls = calls' ∧ page = page' := by
  have hanswers (calls : List Call) : Answers (fun _ => none) calls := fun _ _ => rfl
  have hreply := h fun _ => none
  rw [reply_of_answers (hanswers _), reply_of_answers (hanswers _)] at hreply
  obtain ⟨hpage, hcalls⟩ := Prod.mk.inj hreply
  exact ⟨hcalls, Except.ok.inj hpage⟩

lemma eq_of_reply {page page' : Page} (h : (e.reply calls page).1 = .ok page') : page' = page := by
  unfold reply at h
  by_cases hcalls : e.Answers calls
  · rw [if_pos hcalls] at h
    exact (Except.ok.inj h).symm
  · rw [if_neg hcalls] at h
    cases h

end Engine

namespace Traced

variable {α β : Type}

/-- A computation that makes some calls, whatever calls were made before it, and then ends. -/
def Makes (m : Traced α) (calls : List Call) (answer : Except String α) : Prop :=
  ∀ before, m.run.run before = (answer, before ++ calls)

lemma makes_pure (a : α) : Makes (pure a) [] (.ok a) := by
  intro before
  rw [List.append_nil]
  rfl

lemma makes_ask (call : Call) (answer : Except String α) :
    Makes (ask call answer) [call] answer := by
  intro before
  cases answer with
  | ok a => rfl
  | error reason => rfl

section Bind

variable {m : Traced α} {f : α → Traced β} {calls calls' : List Call}

lemma Makes.bind {a : α} {answer : Except String β} (hm : Makes m calls (.ok a))
    (hf : Makes (f a) calls' answer) : Makes (m >>= f) (calls ++ calls') answer := by
  intro before
  rw [ExceptT.run_bind]
  change StateT.run (_ >>= _) before = _
  rw [StateT.run_bind, hm, ← List.append_assoc]
  exact hf _

/-- Nothing is asked after a failure. -/
lemma Makes.bind_error {reason : String} (hm : Makes m calls (.error reason)) :
    Makes (m >>= f) calls (.error reason) := by
  intro before
  rw [ExceptT.run_bind]
  change StateT.run (_ >>= _) before = _
  rw [StateT.run_bind, hm]
  rfl

lemma Makes.map {answer : Except String α} (hm : Makes m calls answer) (h : α → β) :
    Makes (m >>= fun a => pure (h a)) calls (answer.map h) := by
  cases answer with
  | ok a =>
    have hbind := hm.bind (f := fun a => pure (h a)) (makes_pure (h a))
    rw [List.append_nil] at hbind
    exact hbind
  | error reason => exact hm.bind_error

end Bind

/-- A computation that comes to a value by some calls, if its engine answers them. -/
def Yields (e : Engine) (m : Traced α) (calls : List Call) (a : α) : Prop :=
  Makes m (e.made calls) (e.ending calls a)

variable {e : Engine}

lemma yields_pure (a : α) : Yields e (pure a) [] a :=
  makes_pure a

lemma yields_ask (call : Call) (a : α) : Yields e (ask call (e.answer call a)) [call] a := by
  have hasks := makes_ask call (e.answer call a)
  have hanswer : e.answer call a = e.ending [call] a := by
    unfold Engine.answer Engine.ending
    cases h : e call with
    | none => rw [List.findSome?_singleton, h]
    | some reason => rw [List.findSome?_singleton, h]
  have hmade : e.made [call] = [call] := by
    unfold Engine.made
    split_ifs <;> rfl
  rw [hanswer] at hasks ⊢
  rw [Yields, hmade]
  exact hasks

lemma Yields.bind {m : Traced α} {f : α → Traced β} {calls calls' : List Call} {a : α} {b : β}
    (hm : Yields e m calls a) (hf : Yields e (f a) calls' b) :
    Yields e (m >>= f) (calls ++ calls') b := by
  unfold Yields at hm hf ⊢
  unfold Engine.ending at *
  rw [List.findSome?_append]
  cases h : calls.findSome? e with
  | none =>
    have hanswers : e.Answers calls := Engine.findSome?_eq_none.mp h
    rw [h, Engine.made_of_answers hanswers] at hm
    rw [Engine.made_append hanswers]
    exact hm.bind hf
  | some reason =>
    have hfails : ¬e.Answers calls := by
      rw [← Engine.findSome?_eq_none, h]
      exact Option.some_ne_none reason
    rw [h] at hm
    rw [Engine.made_append_of_fails hfails]
    exact hm.bind_error

lemma Yields.map {m : Traced α} {calls : List Call} {a : α} (hm : Yields e m calls a)
    (h : α → β) : Yields e (m >>= fun a => pure (h a)) calls (h a) := by
  have hbind := hm.bind (f := fun a => pure (h a)) (yields_pure (h a))
  rwa [List.append_nil] at hbind

end Traced

end ForumSearch
