/-
The types of the language.

A type is `Int`, `Bool`, or the type of functions with a list of parameters, which
may be empty.  Functions of several parameters are not curried: `(Int, Bool) -> Int`
and `Int -> Bool -> Int` are two types.  Types are compared as they stand, so
equality is decided by walking both in step.
-/
import TypedLambda.Text.Separated

namespace TypedLambda

inductive Ty where
  | int
  | bool
  | arrow (params : List Ty) (result : Ty)
  deriving Inhabited

namespace Ty

/-! ### Induction

The parameters of a function type are types too, so a property of all types may be
assumed of each of them.
-/

@[elab_as_elim]
theorem induction {P : Ty → Prop} (int : P int) (bool : P bool)
    (arrow : ∀ ps r, (∀ p ∈ ps, P p) → P r → P (arrow ps r)) (τ : Ty) : P τ :=
  @Ty.rec P (fun ps => ∀ p ∈ ps, P p) int bool arrow (fun _ h => nomatch h)
    (fun _ _ hp hps q hq => (List.mem_cons.1 hq).elim (fun h => h ▸ hp) (hps q)) τ

/-! ### Equality -/

mutual

/-- Whether two types are the same, parameter by parameter. -/
def beq : Ty → Ty → Bool
  | int, int => true
  | bool, bool => true
  | arrow ps r, arrow qs s => beqAll ps qs && beq r s
  | _, _ => false

/-- Whether two lists of types agree in length and at every place. -/
def beqAll : List Ty → List Ty → Bool
  | [], [] => true
  | p :: ps, q :: qs => beq p q && beqAll ps qs
  | _, _ => false

end

mutual

theorem beq_iff (s t : Ty) : beq s t = true ↔ s = t := by
  cases s <;> cases t <;> simp [beq]
  case arrow.arrow ps r qs s => simp [beqAll_iff ps qs, beq_iff r s]

theorem beqAll_iff (ps qs : List Ty) : beqAll ps qs = true ↔ ps = qs := by
  cases ps <;> cases qs <;> simp [beqAll]
  case cons.cons p ps q qs => simp [beq_iff p q, beqAll_iff ps qs]

end

instance : DecidableEq Ty := fun s t => decidable_of_iff _ (beq_iff s t)

/-! ### Rendering

The arrow associates to the right, so a result is never bracketed.  A single
parameter is written bare unless it is itself a function type; any other number of
parameters, none included, stands in brackets.
-/

/-- The parameters of a function type, given their texts. -/
def layoutParams : List Ty → List String → String
  | [.arrow ..], texts => "(" ++ Text.commaSeparated texts ++ ")"
  | [_], texts => Text.commaSeparated texts
  | _, texts => "(" ++ Text.commaSeparated texts ++ ")"

mutual

def render : Ty → String
  | int => "Int"
  | bool => "Bool"
  | arrow ps r => layoutParams ps (renderAll ps) ++ " -> " ++ render r

def renderAll : List Ty → List String
  | [] => []
  | p :: ps => render p :: renderAll ps

end

end Ty

end TypedLambda
