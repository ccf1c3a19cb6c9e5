/-
The factorial program computes the factorial.

The program calls a recursive binding.  When the call is run, the binding is unfolded once and the
argument put in: what is left (`factorialAt`) asks whether the argument is zero, and else multiplies
it with another call of the same binding.  So running a call with some budget is running a call for
one number less with a budget that is smaller by three, and both halves of the statement are
inductions along that chain of calls.  From a number that is not negative the chain gets to zero, and
the budget is counted on the way.  From a negative number it never does: each call needs another one,
and the induction is on the budget, which therefore runs out however large it was.

The argument of a further call is a subtraction that has not been made yet, so what is said of a call
is said for every argument that comes to the number.
-/
import Mathlib.Data.Nat.Factorial.Basic
import TypedLambda.Proofs.Reduce
import TypedLambda.Proofs.Typing
import TypedLambda.Samples

namespace TypedLambda.Sample

open Term
open scoped Nat

/-- The recursive binding. -/
def factorialFix : Term :=
  .fix "f" (.arrow [.int] .int)
    (.fn [("x", .int)]
      (.ite (.prim .equals [.var "x", .int 0])
        (.int 1)
        (.prim .times [.var "x", .app (.var "f") [.prim .minus [.var "x", .int 1]]])))

def factorialCall (t : Term) : Term := .app factorialFix [t]

theorem factorial_eq (n : Int) : factorial n = factorialCall (.int n) := rfl

/-- The body of the function, with the binding and a value for the parameter put in. -/
def factorialAt (v : Term) : Term :=
  .ite (.prim .equals [v, .int 0]) (.int 1)
    (.prim .times [v, factorialCall (.prim .minus [v, .int 1])])

/-! ### One call -/

theorem reduce_factorialCall (k : Nat) (t : Term) :
    (factorialCall t).reduce (k + 3) =
      t.reduce (k + 2) >>= fun v => (factorialAt v).reduce (k + 2) := by
  have hfix : factorialFix.reduce (k + 2) =
      .ok (.fn [("x", .int)] (factorialAt (.var "x"))) := rfl
  rw [factorialCall, reduce, hfix]
  show ([t].mapM (reduce (k + 2)) >>= _ : Except Stop Term) = _
  rw [List.mapM_cons, List.mapM_nil]
  cases t.reduce (k + 2) with
  | error e => rfl
  | ok v => rfl

theorem reduce_factorialAt_zero (k : Nat) : (factorialAt (.int 0)).reduce (k + 3) = .ok (.int 1) :=
  rfl

/-- The operands are the number and the further call. -/
theorem reduce_factorialAt {n : Int} (hn : n ≠ 0) (k : Nat) :
    (factorialAt (.int n)).reduce (k + 3) =
      (factorialCall (.prim .minus [.int n, .int 1])).reduce (k + 1) >>= fun v =>
        match Prim.times.apply? [.int n, v] with
        | some w => .ok w
        | none => .error (EvalError.badOperands .times [.int n, v]).stop := by
  have hcond : (Term.prim .equals [.int n, .int 0]).reduce (k + 2) = .ok (.bool (n == 0)) := rfl
  have hzero : (n == 0) = false := by simpa using hn
  rw [factorialAt, reduce, hcond, hzero]
  show (Term.prim .times _).reduce (k + 2) = _
  rw [reduce, List.mapM_cons, List.mapM_cons, List.mapM_nil]
  show ((reduce (k + 1) _ >>= _) >>= _ : Except Stop Term) = _
  cases (factorialCall (.prim .minus [.int n, .int 1])).reduce (k + 1) with
  | error e => rfl
  | ok v => rfl

/-! ### The chain of calls -/

/-- The term comes to the number with every budget that allows for a subtraction. -/
def ComesTo (t : Term) (n : Int) : Prop := ∀ k, t.reduce (k + 2) = .ok (.int n)

theorem comesTo_int (n : Int) : ComesTo (.int n) n := fun _ => rfl

theorem comesTo_pred (n : Int) : ComesTo (.prim .minus [.int n, .int 1]) (n - 1) := fun _ => rfl

theorem reduce_factorialCall_nat (n : Nat) {t : Term} (ht : ComesTo t n) :
    (factorialCall t).reduce (3 * n + 4) = .ok (.int n !) := by
  induction n generalizing t with
  | zero =>
      rw [reduce_factorialCall, ht]
      exact reduce_factorialAt_zero 0
  | succ n ih =>
      have hpred : ComesTo (.prim .minus [.int ((n + 1 : Nat) : Int), .int 1]) n := by
        have h := comesTo_pred ((n + 1 : Nat) : Int)
        rwa [show ((n + 1 : Nat) : Int) - 1 = n from by omega] at h
      have hfact : ((n + 1 : Nat) : Int) * (n ! : Nat) = ((n + 1)! : Nat) := by
        rw [Nat.factorial_succ, Int.natCast_mul]
      have hcall : (factorialCall (.prim .minus [.int ((n + 1 : Nat) : Int), .int 1])).reduce
          (3 * n + 3 + 1) = .ok (.int n !) := ih hpred
      have hunfolded : (factorialAt (.int ((n + 1 : Nat) : Int))).reduce (3 * n + 3 + 3) =
          .ok (.int (n + 1)!) := by
        rw [reduce_factorialAt (by omega), hcall, ← hfact]
        rfl
      rw [show 3 * (n + 1) + 4 = 3 * n + 4 + 3 from by omega, reduce_factorialCall, ht]
      exact hunfolded

theorem reduce_factorialCall_neg (budget : Nat) {n : Int} (hn : n < 0) {t : Term}
    (ht : ComesTo t n) : (factorialCall t).reduce budget = .error .outOfBudget := by
  induction budget using Nat.strongRecOn generalizing n t with
  | ind budget ih =>
      match budget with
      | 0 | 1 | 2 => rfl
      | 3 =>
          rw [reduce_factorialCall, ht]
          rfl
      | k + 4 =>
          have hcall := ih (k + 1) (by omega) (by omega : n - 1 < 0) (comesTo_pred n)
          rw [reduce_factorialCall, ht]
          show (factorialAt (.int n)).reduce (k + 3) = _
          rw [reduce_factorialAt (by omega), hcall]
          rfl

/-! ### The program -/

theorem infer_factorial (n : Int) : (factorial n).infer .standard .empty = .ok .int := rfl

theorem run_evaluate_factorial (n : Int) (budget : Nat) (names : Naming) :
    names.run ((factorial n).evaluate budget) = ((factorialCall (.int n)).reduce budget, names) := by
  have hw : (factorial n).WellFormed := by
    simp [factorial, WellFormed, WellFormedAll]
  rw [run_evaluate (closed_of_infer (infer_factorial n)) hw, factorial_eq]

/--
**The factorial program has the type of integers, comes to the factorial of every number that is not
negative, and for a negative one never ends.**  A budget of three for each call, and one more,
suffices; the names drawn before do not matter.
-/
theorem evaluate_factorial (budget : Nat) (names : Naming) :
    (∀ n : Int, (factorial n).infer .standard .empty = .ok .int) ∧
      (∀ n : Nat, 3 * n + 4 ≤ budget →
        names.run ((factorial n).evaluate budget) = (.ok (.int n !), names)) ∧
      ∀ n : Int, n < 0 →
        names.run ((factorial n).evaluate budget) = (.error .outOfBudget, names) := by
  refine ⟨infer_factorial, ?_, ?_⟩
  · intro n hbudget
    rw [run_evaluate_factorial]
    rw [reduce_mono hbudget (reduce_factorialCall_nat n (comesTo_int n))]
  · intro n hn
    rw [run_evaluate_factorial, reduce_factorialCall_neg budget hn (comesTo_int n)]

/-- With a budget of 19 five is within reach, and what is before zero is not. -/
theorem evaluate_factorial_five :
    let later : Naming := { supply := ⟨7⟩, renamed := [⟨"x", "x_6"⟩] }
    (3 * 5 + 4 ≤ 19 ∧ later.run ((factorial 5).evaluate 19) = (.ok (.int 120), later)) ∧
      ((-1 : Int) < 0 ∧ later.run ((factorial (-1)).evaluate 19) = (.error .outOfBudget, later)) := by
  intro later
  obtain ⟨-, hnat, hneg⟩ := evaluate_factorial 19 later
  exact ⟨⟨by decide, hnat 5 (by decide)⟩, by decide, hneg (-1) (by decide)⟩

end TypedLambda.Sample
