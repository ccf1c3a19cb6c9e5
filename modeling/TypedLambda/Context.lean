/-
Typing contexts.

A context is the list of its bindings, the most recent first, and a name has the type
of its first binding.  An earlier binding that is shadowed stays in the list: it is
counted and shown, and two contexts are equal only if it is in both.
-/
import TypedLambda.Ty

namespace TypedLambda

structure Context where
  /-- The most recent binding comes first. -/
  bindings : List (String × Ty) := []
  deriving DecidableEq, Inhabited

namespace Context

def empty : Context := {}

def lookup? (Γ : Context) (x : String) : Option Ty :=
  Γ.bindings.lookup x

/-- A binding in front of the others, which shadows them. -/
def extend (Γ : Context) (x : String) (τ : Ty) : Context :=
  ⟨(x, τ) :: Γ.bindings⟩

@[simp]
theorem lookup?_extend_self (Γ : Context) (x : String) (τ : Ty) :
    (Γ.extend x τ).lookup? x = some τ := by
  simp [extend, lookup?]

theorem lookup?_extend_of_ne (Γ : Context) {x y : String} (τ : Ty) (h : y ≠ x) :
    (Γ.extend x τ).lookup? y = Γ.lookup? y := by
  have : (y == x) = false := by simpa using h
  simp [extend, lookup?, List.lookup_cons, this]

/-- Several bindings, added from left to right. -/
def extendMany (Γ : Context) (bs : List (String × Ty)) : Context :=
  bs.foldl (fun Γ b => Γ.extend b.1 b.2) Γ

def contains (Γ : Context) (x : String) : Bool :=
  Γ.bindings.any (·.1 == x)

/-- The number of bindings, shadowed ones included. -/
def size (Γ : Context) : Nat :=
  Γ.bindings.length

def render (Γ : Context) : String :=
  "Context([" ++ Text.commaSeparated (Γ.bindings.map fun b => b.1 ++ ":" ++ b.2.render) ++ "])"

end Context

end TypedLambda
