/-
Running a term.

There is no environment: every binder is eliminated by replacing its name by the value
it is bound to before the body is run.  A recursive binding is replaced by itself, as
a whole and not evaluated, so each use of its name unfolds it once more; that is the
only way in which a well typed term can go on for ever.

Evaluation is given a budget, the number of evaluations that may be nested.  Running
out of it is told apart from every error, and a larger budget never changes an outcome
that was reached.  Names are drawn by the substitutions alone, and those drawn before
an error stay drawn.

The message of an error is written when the evaluation stops with it, and it shows the
terms that the error is about.
-/
import TypedLambda.Term.Subst

namespace TypedLambda

/-! ### What can go wrong -/

inductive EvalError where
  /-- A variable was reached, which happens in open terms only. -/
  | freeVariable (name : String)
  /-- The operands are too many, too few, or not integers. -/
  | badOperands (op : Prim) (operands : List Term)
  | conditionNotBool (value : Term)
  | arityMismatch (expected actual : Nat)
  | notAFunction (value : Term)
  deriving DecidableEq

/-- The word for the kind of error. -/
def EvalError.kind : EvalError → String
  | .freeVariable _ => "FreeVariable"
  | .badOperands .. => "BadPrimopArgs"
  | .conditionNotBool _ => "IfNonTrueFalse"
  | .arityMismatch .. => "ArityMismatch"
  | .notAFunction _ => "ApplyNonFn"

def EvalError.message : EvalError → Except Fault String
  | .freeVariable x => return "Free variable during evaluation: " ++ x
  | .badOperands op vs => do
    return "Bad arguments to primitive " ++ op.name ++ ": ["
      ++ Text.commaSeparated (← Term.renderAll vs) ++ "]"
  | .conditionNotBool v => return "Condition evaluated to non-boolean " ++ (← v.render)
  | .arityMismatch m n =>
    return "Function expects " ++ m.repr ++ " argument(s), but got " ++ n.repr
  | .notAFunction v => return "Cannot apply non-function value " ++ (← v.render)

/-- Why an evaluation stopped short of a value. -/
inductive Stop where
  | error (e : EvalError)
  | fault (f : Fault)
  | outOfBudget
  deriving DecidableEq

/-- Stopping with an error.  If its message cannot be written there is only that fault. -/
def EvalError.stop (e : EvalError) : Stop :=
  match e.message with
  | .ok _ => .error e
  | .error f => .fault f

/-- An evaluation draws names, and what it has drawn outlives a stop. -/
abbrev EvalM := ExceptT Stop (StateM Naming)

/-- An operation on terms as a step of an evaluation. -/
def NamingM.toEval {α : Type} (x : NamingM α) : EvalM α :=
  ExceptT.adapt .fault x

/-! ### Evaluation -/

/-- The result of an operation, if its operands are as many integers as it takes. -/
def Prim.apply? : Prim → List Term → Option Term
  | .equals, [.int m, .int n] => some (.bool (m == n))
  | .lessThan, [.int m, .int n] => some (.bool (m < n))
  | .plus, [.int m, .int n] => some (.int (m + n))
  | .minus, [.int m, .int n] => some (.int (m - n))
  | .times, [.int m, .int n] => some (.int (m * n))
  | .negate, [.int n] => some (.int (-n))
  | _, _ => none

namespace Term

/--
Reduces a term to a value.  Operands and arguments are evaluated from left to right, the
function before them; that it is a function is asked before its arguments are evaluated,
and their number after.
-/
def evaluate : Nat → Term → EvalM Term
  | 0, _ => throw .outOfBudget
  | budget + 1, t => do
    match t with
    | .int _ | .bool _ | .fn .. => return t
    | .var x => throw (EvalError.freeVariable x).stop
    | .prim op ts =>
      let vs ← ts.mapM (evaluate budget)
      match op.apply? vs with
      | some v => return v
      | none => throw (EvalError.badOperands op vs).stop
    | .ite c a b =>
      match ← evaluate budget c with
      | .bool true => evaluate budget a
      | .bool false => evaluate budget b
      | v => throw (EvalError.conditionNotBool v).stop
    | .letIn x v b =>
      let v ← evaluate budget v
      evaluate budget (← (subst v x b).toEval)
    | .fix f _ b =>
      evaluate budget (← (subst t f b).toEval)
    | .app f ts =>
      match ← evaluate budget f with
      | .fn ps b =>
        let vs ← ts.mapM (evaluate budget)
        if vs.length ≠ ps.length then
          throw (EvalError.arityMismatch ps.length vs.length).stop
        let ss := List.zipWith (fun p v => Substitution.mk v p.1) ps vs
        evaluate budget (← (Substitution.applyAll ss b).toEval)
      | v => throw (EvalError.notAFunction v).stop
    | .stray s => throw (.fault (.unknownTerm s))

/-- How many evaluations may be nested when nothing else is asked for. -/
def defaultBudget : Nat := 5000

end Term

end TypedLambda
