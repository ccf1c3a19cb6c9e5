/-
The terms of the language.

Variables are referenced by name and scope is resolved by replacing names, so no
binder carries an index or an environment.  Every binder is annotated, a `let`
excepted, whose type is the type of its value.

A term is built by hand, so a text may stand where a term belongs.  Such a stray text
renders as itself and equals only the same text; every operation that reaches it
stops with a fault.  Another fault is a function literal that names a parameter
twice, which is refused when it is built.  The last one is met in writing a term: there
is a limit to the digits of an integer that is written, though none to the integers.
-/
import TypedLambda.Ty
import TypedLambda.Text.Quoted

namespace TypedLambda

/-- The primitive operations. -/
inductive Prim where
  | equals
  | lessThan
  | plus
  | minus
  | times
  | negate
  deriving DecidableEq, Inhabited

namespace Prim

def all : List Prim := [equals, lessThan, plus, minus, times, negate]

/-- What is written between or before the operands. -/
def symbol : Prim → String
  | equals => "=="
  | lessThan => "<"
  | plus => "+"
  | minus => "-"
  | times => "*"
  | negate => "~"

/-- The word for the operation, as messages write it. -/
def name : Prim → String
  | equals => "EQUALS"
  | lessThan => "LESS_THAN"
  | plus => "PLUS"
  | minus => "MINUS"
  | times => "TIMES"
  | negate => "NEGATE"

/-- The word for the operation where it is written like a function. -/
def functionName : Prim → String
  | equals => "equals"
  | lessThan => "less_than"
  | plus => "plus"
  | minus => "minus"
  | times => "times"
  | negate => "negate"

end Prim

inductive Term where
  | int (value : Int)
  | bool (value : Bool)
  | var (name : String)
  | ite (cond thenBranch elseBranch : Term)
  | prim (op : Prim) (operands : List Term)
  | fn (params : List (String × Ty)) (body : Term)
  /-- The name stands for the whole construct inside the body. -/
  | fix (name : String) (type : Ty) (body : Term)
  | letIn (name : String) (value body : Term)
  | app (func : Term) (args : List Term)
  /-- A text where a term belongs. -/
  | stray (text : String)
  deriving Inhabited

/-! ### Faults -/

/-- The most digits that an integer is written with, its sign not counted. -/
def maxDigits : Nat := 4300

/-- What stops an operation on terms, apart from the errors of the language. -/
inductive Fault where
  | unknownTerm (text : String)
  | duplicateParams (names : List String)
  /-- An integer has more digits than are written. -/
  | integerTooLong
  deriving DecidableEq

def Fault.message : Fault → String
  | .unknownTerm text => "Unknown term: " ++ text
  | .duplicateParams names =>
    "Duplicate parameter names in function literal: " ++ Text.quotedList names
  | .integerTooLong =>
    "Exceeds the limit (" ++ maxDigits.repr ++ " digits) for integer string conversion; "
      ++ "use sys.set_int_max_str_digits() to increase the limit"

namespace Term

/-- A function literal, if its parameters have distinct names. -/
def fn? (params : List (String × Ty)) (body : Term) : Except Fault Term :=
  let names := params.map (·.1)
  if names.Nodup then .ok (.fn params body) else .error (.duplicateParams names)

/-- Integers, booleans and function literals are values. -/
def isValue : Term → Bool
  | int _ | bool _ | fn .. => true
  | _ => false

/-! ### Induction

Operands and arguments are terms too, so a property of all terms may be assumed of each
of them.
-/

@[elab_as_elim]
theorem induction {P : Term → Prop} (int : ∀ n, P (.int n)) (bool : ∀ b, P (.bool b))
    (var : ∀ x, P (.var x)) (ite : ∀ c t e, P c → P t → P e → P (.ite c t e))
    (prim : ∀ op ts, (∀ t ∈ ts, P t) → P (.prim op ts)) (fn : ∀ ps b, P b → P (.fn ps b))
    (fix : ∀ f τ b, P b → P (.fix f τ b)) (letIn : ∀ x v b, P v → P b → P (.letIn x v b))
    (app : ∀ f ts, P f → (∀ t ∈ ts, P t) → P (.app f ts)) (stray : ∀ s, P (.stray s))
    (t : Term) : P t :=
  @Term.rec P (fun ts => ∀ t ∈ ts, P t) int bool var ite prim fn fix letIn app stray
    (fun _ h => nomatch h)
    (fun _ _ ht hts u hu => (List.mem_cons.1 hu).elim (fun h => h ▸ ht) (hts u)) t

/-! ### Equality -/

mutual

/-- Whether two terms are the same, the names of binders included. -/
def beq : Term → Term → Bool
  | int m, int n => m == n
  | bool a, bool b => a == b
  | var x, var y => x == y
  | ite c t e, ite c' t' e' => beq c c' && beq t t' && beq e e'
  | prim op ts, prim op' ts' => op == op' && beqAll ts ts'
  | fn ps b, fn ps' b' => ps == ps' && beq b b'
  | fix f τ b, fix f' τ' b' => f == f' && τ == τ' && beq b b'
  | letIn x v b, letIn x' v' b' => x == x' && beq v v' && beq b b'
  | app f ts, app f' ts' => beq f f' && beqAll ts ts'
  | stray s, stray s' => s == s'
  | _, _ => false

/-- Whether two lists of terms agree in length and at every place. -/
def beqAll : List Term → List Term → Bool
  | [], [] => true
  | t :: ts, u :: us => beq t u && beqAll ts us
  | _, _ => false

end

mutual

theorem beq_iff (t u : Term) : beq t u = true ↔ t = u := by
  cases t <;> cases u <;> simp [beq]
  case ite.ite c t e c' t' e' => simp [beq_iff c c', beq_iff t t', beq_iff e e', and_assoc]
  case prim.prim ts _ us => simp [beqAll_iff ts us]
  case fn.fn b _ b' => simp [beq_iff b b']
  case fix.fix b _ _ b' => simp [beq_iff b b', and_assoc]
  case letIn.letIn v b _ v' b' => simp [beq_iff v v', beq_iff b b', and_assoc]
  case app.app f ts f' ts' => simp [beq_iff f f', beqAll_iff ts ts']

theorem beqAll_iff (ts us : List Term) : beqAll ts us = true ↔ ts = us := by
  cases ts <;> cases us <;> simp [beqAll]
  case cons.cons t ts u us => simp [beq_iff t u, beqAll_iff ts us]

end

instance : DecidableEq Term := fun t u => decidable_of_iff _ (beq_iff t u)

end Term

end TypedLambda
