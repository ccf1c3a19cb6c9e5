/-
What can be written.

The text of a term is put together from the texts of its parts, and of these only a numeral can
fail.  So a term can be written exactly if none of its integers has too many digits, and the message
of an error if all the terms in it can.

`WrittenIf` says of a text under which condition it is there.  It goes through every way of putting
texts together, the condition for the whole being that of all its parts.
-/
import Mathlib.Algebra.Order.Ring.Int
import TypedLambda.Eval

namespace TypedLambda

/-! ### Conditions for a text -/

/-- The text is there if the condition holds, and otherwise an integer in it is too long. -/
inductive WrittenIf {α : Type} (P : Prop) : Except Fault α → Prop where
  | written (h : P) (a : α) : WrittenIf P (.ok a)
  | tooLong (h : ¬ P) : WrittenIf P (.error .integerTooLong)

namespace WrittenIf

variable {α β : Type} {P Q : Prop} {x : Except Fault α}

theorem always (a : α) : WrittenIf True (.ok a) := .written trivial a

theorem congr (h : WrittenIf P x) (hPQ : P ↔ Q) : WrittenIf Q x := by
  cases h with
  | written h a => exact .written (hPQ.mp h) a
  | tooLong h => exact .tooLong (mt hPQ.mpr h)

theorem bind {f : α → Except Fault β} (hx : WrittenIf P x) (hf : ∀ a, WrittenIf Q (f a)) :
    WrittenIf (P ∧ Q) (x >>= f) := by
  cases hx with
  | written h a => exact (hf a).congr (and_iff_right h).symm
  | tooLong h => exact .tooLong (mt And.left h)

/-- What is set around a text can be written in any case. -/
theorem around (hx : WrittenIf P x) (f : α → β) : WrittenIf P (x >>= fun a => pure (f a)) :=
  (hx.bind fun a => .always (f a)).congr (and_iff_left trivial)

theorem exists_eq_ok (hx : WrittenIf P x) (h : P) : ∃ a, x = .ok a := by
  cases hx with
  | written _ a => exact ⟨a, rfl⟩
  | tooLong hnot => exact absurd h hnot

theorem eq_error (hx : WrittenIf P x) (h : ¬ P) : x = .error .integerTooLong := by
  cases hx with
  | written hP _ => exact absurd hP h
  | tooLong _ => rfl

end WrittenIf

/-! ### Terms -/

namespace Term

mutual

/-- The integers in a term. -/
def integers : Term → List Int
  | int n => [n]
  | bool _ | var _ | stray _ => []
  | ite c t e => integers c ++ (integers t ++ integers e)
  | prim _ ts => integersAll ts
  | fn _ b | fix _ _ b => integers b
  | letIn _ v b => integers v ++ integers b
  | app f ts => integers f ++ integersAll ts

def integersAll : List Term → List Int
  | [] => []
  | t :: ts => integers t ++ integersAll ts

end

/-- No integer in the term has more digits than are written. -/
def Writable (t : Term) : Prop := ∀ n ∈ t.integers, n.natAbs < 10 ^ maxDigits

theorem writable_int {n : Int} : (int n).Writable ↔ n.natAbs < 10 ^ maxDigits :=
  List.forall_mem_singleton

theorem writtenIf_renderInt (n : Int) : WrittenIf (n.natAbs < 10 ^ maxDigits) (renderInt n) := by
  have hdigits : (Nat.toDigits 10 n.natAbs).length ≤ maxDigits ↔ n.natAbs < 10 ^ maxDigits :=
    Nat.length_toDigits_le_iff (by decide) (by decide)
  rw [renderInt, ← hdigits]
  by_cases h : (Nat.toDigits 10 n.natAbs).length ≤ maxDigits
  · rw [if_pos h]
    exact .written h _
  · rw [if_neg h]
    exact .tooLong h

theorem writtenIf_renderAll {ts : List Term} (h : ∀ t ∈ ts, WrittenIf t.Writable t.render) :
    WrittenIf (∀ t ∈ ts, t.Writable) (renderAll ts) := by
  induction ts with
  | nil => exact .written (List.forall_mem_nil _) []
  | cons t ts ih =>
      obtain ⟨ht, hts⟩ := List.forall_mem_cons.mp h
      rw [List.forall_mem_cons, renderAll]
      exact ht.bind fun text => (ih hts).around _

theorem forall_mem_integersAll {ts : List Term} {P : Int → Prop} :
    (∀ n ∈ integersAll ts, P n) ↔ ∀ t ∈ ts, ∀ n ∈ t.integers, P n := by
  induction ts with
  | nil => simp [integersAll]
  | cons t ts ih => rw [integersAll, List.forall_mem_append, List.forall_mem_cons, ih]

/-- **A term can be written exactly if none of its integers is too long.** -/
theorem writtenIf_render (t : Term) : WrittenIf t.Writable t.render := by
  induction t using Term.induction with
  | int n =>
      rw [writable_int, render]
      exact writtenIf_renderInt n
  | bool | var | stray => exact .written (List.forall_mem_nil _) _
  | ite c t e hc ht he =>
      rw [Writable, integers, List.forall_mem_append, List.forall_mem_append, render]
      exact hc.bind fun _ => ht.bind fun _ => he.around _
  | prim op ts hts =>
      rw [Writable, integers, forall_mem_integersAll, render]
      exact (writtenIf_renderAll hts).around _
  | fn ps b hb =>
      rw [render]
      exact hb.around _
  | fix f τ b hb =>
      rw [render]
      exact hb.around _
  | letIn x v b hv hb =>
      rw [Writable, integers, List.forall_mem_append, render]
      exact hv.bind fun _ => hb.around _
  | app f ts hf hts =>
      rw [Writable, integers, List.forall_mem_append, forall_mem_integersAll, render]
      exact hf.bind fun _ => (writtenIf_renderAll hts).around _

end Term

/-! ### Errors -/

namespace EvalError

/-- The terms an error carries. -/
def terms : EvalError → List Term
  | .badOperands _ vs => vs
  | .conditionNotBool v | .notAFunction v => [v]
  | .freeVariable _ | .arityMismatch .. => []

/-- No integer in the terms has more digits than are written. -/
def Writable (e : EvalError) : Prop := ∀ v ∈ e.terms, v.Writable

theorem writtenIf_message (e : EvalError) : WrittenIf e.Writable e.message := by
  cases e with
  | freeVariable | arityMismatch => exact .written (List.forall_mem_nil _) _
  | badOperands op vs =>
      exact (Term.writtenIf_renderAll fun v _ => v.writtenIf_render).around _
  | conditionNotBool v | notAFunction v =>
      rw [Writable, terms, List.forall_mem_singleton]
      exact v.writtenIf_render.around _

theorem not_writable_of_mem {e : EvalError} {v : Term} (hv : v ∈ e.terms) (h : ¬ v.Writable) :
    ¬ e.Writable := fun hwritable => h (hwritable v hv)

/-- **An evaluation stops with an error exactly if the error can be written.** -/
theorem stop_of_writable {e : EvalError} (h : e.Writable) : e.stop = .error e := by
  obtain ⟨text, htext⟩ := e.writtenIf_message.exists_eq_ok h
  rw [stop, htext]

theorem stop_of_not_writable {e : EvalError} (h : ¬ e.Writable) :
    e.stop = .fault .integerTooLong := by
  rw [stop, e.writtenIf_message.eq_error h]

theorem stop_eq_error_iff {e e' : EvalError} : e.stop = .error e' ↔ e = e' ∧ e.Writable := by
  by_cases h : e.Writable
  · rw [stop_of_writable h, Stop.error.injEq, and_iff_left h]
  · rw [stop_of_not_writable h]
    constructor
    · intro hstop
      cases hstop
    · intro ⟨_, hwritable⟩
      exact absurd hwritable h

theorem stop_eq_fault_iff {e : EvalError} {f : Fault} :
    e.stop = .fault f ↔ f = .integerTooLong ∧ ¬ e.Writable := by
  by_cases h : e.Writable
  · rw [stop_of_writable h]
    constructor
    · intro hstop
      cases hstop
    · intro ⟨_, hnot⟩
      exact absurd h hnot
  · rw [stop_of_not_writable h, Stop.fault.injEq, and_iff_left h, eq_comm]

theorem stop_ne_outOfBudget (e : EvalError) : e.stop ≠ .outOfBudget := by
  by_cases h : e.Writable
  · rw [stop_of_writable h]
    exact nofun
  · rw [stop_of_not_writable h]
    exact nofun

end EvalError

/-! ### A number that is too long -/

namespace Term

/-- Two numbers that can be written, and a product that has one digit too many. -/
def longProduct : Term :=
  prim .times [int (10 ^ (maxDigits / 2)), int (10 ^ (maxDigits / 2))]

/-- What the product comes to. -/
def longNumber : Term := int (10 ^ (maxDigits / 2) * 10 ^ (maxDigits / 2))

theorem natAbs_ten_pow (k : Nat) : (10 ^ k : Int).natAbs = 10 ^ k := by
  have hten : (10 : Int).natAbs = 10 := rfl
  rw [Int.natAbs_pow, hten]

theorem not_writable_longNumber : ¬ longNumber.Writable := by
  have hdigits : maxDigits / 2 + maxDigits / 2 = maxDigits := rfl
  rw [longNumber, writable_int, ← pow_add, hdigits, natAbs_ten_pow]
  exact Nat.lt_irrefl _

end Term

end TypedLambda
