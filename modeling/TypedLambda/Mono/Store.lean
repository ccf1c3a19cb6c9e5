/-
Cells, and what they are bound to.

A store is a trail of bindings, the newest first, and a cell is bound to the type of
its newest binding.  Binding puts an entry in front and takes nothing away, so of two
stores of one run the later is the earlier with entries in front, and those entries are
what was bound in between.

Every operation here follows bindings.  If no cell reaches itself through them, a path
from a type meets each binding at most once, and then a walk goes no deeper than the
type and all bindings are large together (`Store.weight`); that is the bound these
recursions start with.

Cells carry a number for display.  It need not tell cells apart.
-/
import TypedLambda.Mono

namespace TypedLambda

structure Store where
  /-- The bindings, the newest first. -/
  trail : List (Nat × MonoTy) := []
  /-- The display number of each cell, by index. -/
  labels : List Int := []
  /-- The number the next cell without one of its own will show. -/
  nextLabel : Nat := 0
  deriving DecidableEq, Inhabited

namespace Store

/-- A further cell, unbound, with a display number of its own or the next one. -/
def addCell (S : Store) : Option Int → Store
  | some label => { S with labels := S.labels ++ [label] }
  | none => { S with labels := S.labels ++ [(S.nextLabel : Int)], nextLabel := S.nextLabel + 1 }

def lookup? (S : Store) (i : Nat) : Option MonoTy :=
  S.trail.lookup i

def isBound (S : Store) (i : Nat) : Bool :=
  (S.lookup? i).isSome

def bind (S : Store) (i : Nat) (t : MonoTy) : Store :=
  { S with trail := (i, t) :: S.trail }

/-- How large all bindings of a trail are together, a cell counted for each. -/
def trailWeight : List (Nat × MonoTy) → Nat
  | [] => 0
  | b :: trail => b.2.size + 1 + trailWeight trail

/-- How large a type and all bindings are together. -/
def weight (S : Store) (t : MonoTy) : Nat :=
  t.size + trailWeight S.trail

@[simp]
theorem lookup?_bind_self (S : Store) (i : Nat) (t : MonoTy) : (S.bind i t).lookup? i = some t := by
  simp [bind, lookup?]

theorem lookup?_bind_of_ne (S : Store) {i j : Nat} (t : MonoTy) (h : j ≠ i) :
    (S.bind i t).lookup? j = S.lookup? j := by
  have : (j == i) = false := by simpa using h
  simp [bind, lookup?, List.lookup_cons, this]

/-- The bindings a store has beyond those of an earlier one, oldest first. -/
def bindingsSince (S earlier : Store) : List (Nat × MonoTy) :=
  (S.trail.take (S.trail.length - earlier.trail.length)).reverse

/-! ### Resolving -/

/-- Resolving to a bounded depth. -/
def resolveWithin (S : Store) : Nat → MonoTy → MonoTy
  | 0, t => t
  | n + 1, t =>
    match t with
    | .var i =>
      match S.lookup? i with
      | some u => resolveWithin S n u
      | none => t
    | .arrow a r => .arrow (resolveWithin S n a) (resolveWithin S n r)
    | _ => t

/-- The type with every bound cell replaced by what it is bound to. -/
def resolve (S : Store) (t : MonoTy) : MonoTy :=
  S.resolveWithin (S.weight t) t

/-! ### Rendering

An arrow in the position of an argument is bracketed.  Brackets are decided by the type
as it stands: a cell there is written without them, even if it is bound to an arrow.
-/

/-- The display number of a cell. -/
def label (S : Store) (i : Nat) : String :=
  toString (S.labels.getD i i)

/-- The text of a cell that is not bound. -/
def renderCell (S : Store) (i : Nat) : String :=
  "'t" ++ S.label i

/-- Rendering to a bounded depth. -/
def renderWithin (S : Store) : Nat → MonoTy → String
  | 0, _ => ""
  | n + 1, t =>
    match t with
    | .int => "Int"
    | .bool => "Bool"
    | .arrow (.arrow a r) r' =>
      "(" ++ renderWithin S n (.arrow a r) ++ ") -> " ++ renderWithin S n r'
    | .arrow a r => renderWithin S n a ++ " -> " ++ renderWithin S n r
    | .var i =>
      match S.lookup? i with
      | some u => renderWithin S n u
      | none => S.renderCell i
    | .stray s => s

def render (S : Store) (t : MonoTy) : String :=
  S.renderWithin (S.weight t) t

/-- Rendering constructor by constructor, to a bounded depth. -/
def describeWithin (S : Store) : Nat → MonoTy → String
  | 0, _ => ""
  | n + 1, t =>
    match t with
    | .int => "UInt()"
    | .bool => "UBool()"
    | .arrow a r =>
      "UArrow(arg=" ++ describeWithin S n a ++ ", ret=" ++ describeWithin S n r ++ ")"
    | .var i =>
      let binding := match S.lookup? i with
        | some u => describeWithin S n u
        | none => "None"
      "UVar(id=" ++ S.label i ++ ", binding=" ++ binding ++ ")"
    | .stray s => Text.quoted s

/-- A type written constructor by constructor, each cell with its binding inside it. -/
def describe (S : Store) (t : MonoTy) : String :=
  S.describeWithin (S.weight t) t

end Store

end TypedLambda
