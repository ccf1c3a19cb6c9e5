/-
Monotypes: curried types with variables, for unification.

They stand apart from the types of terms.  A function has one parameter here, and a
variable is the index of a cell, so two variables are the same only if they are the
same cell, whatever they look like when written.  What a cell is bound to is kept in a
store; a monotype by itself binds nothing.

As with terms, a stray text may stand where a type belongs.
-/
import TypedLambda.Text.Quoted

namespace TypedLambda

inductive MonoTy where
  | int
  | bool
  | arrow (arg ret : MonoTy)
  | var (cell : Nat)
  /-- A text where a type belongs. -/
  | stray (text : String)
  deriving DecidableEq, Inhabited

namespace MonoTy

/-- The number of constructors. -/
def size : MonoTy → Nat
  | arrow a r => a.size + r.size + 1
  | _ => 1

/-- The cells a type mentions, each as often as it does, from left to right. -/
def cells : MonoTy → List Nat
  | arrow a r => a.cells ++ r.cells
  | var i => [i]
  | _ => []

end MonoTy

end TypedLambda
