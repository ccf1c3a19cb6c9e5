/-
Named sample programs.

A registry keeps its samples in the order in which they were first added, and adding
one under a name that is taken replaces the sample in its place.  The standard samples
are closed; one of them is ill typed on purpose.
-/
import TypedLambda.Term

namespace TypedLambda

/-- A program with a short description. -/
structure Sample where
  name : String
  description : String
  term : Term
  deriving DecidableEq, Inhabited

namespace Sample

open Term

/-- The factorial of `n`, through a recursive binding. -/
def factorial (n : Int) : Term :=
  .app
    (.fix "f" (.arrow [.int] .int)
      (.fn [("x", .int)]
        (.ite (.prim .equals [.var "x", .int 0])
          (.int 1)
          (.prim .times [.var "x", .app (.var "f") [.prim .minus [.var "x", .int 1]]]))))
    [.int n]

def letArith : Term :=
  .letIn "x" (.int 1) (.prim .plus [.var "x", .int 5])

def shadowing : Term :=
  .letIn "x" (.int 1)
    (.letIn "x" (.prim .plus [.var "x", .int 10]) (.prim .times [.var "x", .int 2]))

def curried : Term :=
  .app (.app (.fn [("y", .int)] (.fn [("z", .int)] (.var "y"))) [.int 7]) [.int 0]

def higherOrder : Term :=
  .app
    (.fn [("g", .arrow [.int] .int), ("v", .int)]
      (.app (.var "g") [.app (.var "g") [.var "v"]]))
    [.fn [("n", .int)] (.prim .negate [.var "n"]), .int 21]

def sumTo : Term :=
  .app
    (.fix "loop" (.arrow [.int, .int] .int)
      (.fn [("n", .int), ("acc", .int)]
        (.ite (.prim .lessThan [.var "n", .int 1])
          (.var "acc")
          (.app (.var "loop")
            [.prim .minus [.var "n", .int 1], .prim .plus [.var "acc", .var "n"]]))))
    [.int 100, .int 0]

def nullary : Term :=
  .app (.fn [] (.ite (.bool true) (.int 42) (.int 0))) []

def illTyped : Term :=
  .app (.fn [("x", .int), ("y", .int)] (.prim .plus [.var "x", .var "y"])) [.int 3]

end Sample

/-! ### Registries -/

/-- Samples by name, in the order in which the names were added. -/
structure Registry where
  samples : List Sample := []
  deriving Inhabited

namespace Registry

def find? (R : Registry) (name : String) : Option Sample :=
  R.samples.find? (·.name == name)

def names (R : Registry) : List String :=
  R.samples.map (·.name)

/-- Adds a sample at the end, or in the place of the one with its name. -/
def insert (R : Registry) (s : Sample) : Registry :=
  if s.name ∈ R.names then ⟨R.samples.map fun r => if r.name = s.name then s else r⟩
  else ⟨R.samples ++ [s]⟩

def standard : Registry where
  samples := [
    ⟨"let-arith", "let x = 1 in x + 5", Sample.letArith⟩,
    ⟨"factorial", "factorial of 5 through a recursive binding", Sample.factorial 5⟩,
    ⟨"shadowing", "an inner let shadows an outer one", Sample.shadowing⟩,
    ⟨"curried", "a curried function returning its first argument", Sample.curried⟩,
    ⟨"higher-order", "a function applied twice through a parameter", Sample.higherOrder⟩,
    ⟨"sum-to", "tail-recursive sum of 1..100 with two parameters", Sample.sumTo⟩,
    ⟨"nullary", "a function of zero parameters", Sample.nullary⟩,
    ⟨"ill-typed", "a two-parameter function applied to one argument", Sample.illTyped⟩]

end Registry

end TypedLambda
