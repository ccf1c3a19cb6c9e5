/-
Making two monotypes equal by binding cells.

Unification walks both types in step and follows bindings on either side before it
looks at a shape.  An unbound cell is bound to what stands on the other side, unless
the cell occurs in it, which would make an infinite type.  A binding is never undone:
when a later part fails, the cells bound before it stay bound.

Of two function types that do not agree the failure cites the function types
themselves, and keeps the failure of the part that did not agree as its cause.  A
failed occurs check is passed on as it is.

Recursion is on a bound.  On a store in which no cell reaches itself, each step goes
down on one side or the other, swaps the sides, or binds a cell; there are no more
cells to bind than the types and the store mention, and between two bindings the depth
is limited by the weight of the store at that time.  `Store.unifyBound` is a
polynomial above all of that.
-/
import TypedLambda.Mono.Store

namespace TypedLambda

/-! ### What can go wrong -/

/-- Why two types were not made equal. -/
inductive UnifyFailure where
  /--
  Two types of different shapes.  The causes are the parts that did not agree, the outermost
  first, each a part of the one before.
  -/
  | mismatch (left right : MonoTy) (causes : List (MonoTy × MonoTy))
  | occurs (cell : Nat) (type : MonoTy)
  /-- A stray text was searched for a cell. -/
  | unknownType (text : String)
  | outOfBound
  deriving DecidableEq

namespace UnifyFailure

/-- A mismatch inside two function types is a mismatch of those, with the other as its cause. -/
def within (left right : MonoTy) : UnifyFailure → UnifyFailure
  | mismatch l r causes => mismatch left right ((l, r) :: causes)
  | failure => failure

/-- The word for the kind of failure. -/
def kind : UnifyFailure → String
  | mismatch .. => "UnifyMismatch"
  | occurs .. => "OccursCheckError"
  | unknownType _ => "TypeError"
  | outOfBound => "RecursionError"

def mismatchMessage (S : Store) (left right : MonoTy) : String :=
  "Cannot unify " ++ S.render left ++ " with " ++ S.render right

/--
The message, with the types as the store shows them.  No cell is bound between a failure
and its report, so the store is the one the failed run leaves.
-/
def message (S : Store) : UnifyFailure → String
  | mismatch l r _ => mismatchMessage S l r
  | occurs i t => "Occurs check failed: " ++ S.render (.var i) ++ " occurs in " ++ S.render t
  | unknownType s => "Unknown type: " ++ s
  | outOfBound => "Unification went deeper than its bound"

/-- The messages of the causes, the outermost first. -/
def causeMessages (S : Store) : UnifyFailure → List String
  | mismatch _ _ causes => causes.map fun c => mismatchMessage S c.1 c.2
  | _ => []

end UnifyFailure

/-- A run of the unifier; what it has bound outlives a failure. -/
abbrev UnifyM := ExceptT UnifyFailure (StateM Store)

namespace Store

/-! ### The occurs check -/

/-- The occurs check to a bounded depth. -/
def occursWithin (S : Store) (i : Nat) : Nat → MonoTy → Except UnifyFailure Bool
  | 0, _ => .ok false
  | n + 1, t =>
    match t with
    | .int | .bool => .ok false
    | .arrow a r => do
      if ← occursWithin S i n a then return true else occursWithin S i n r
    | .var j =>
      if j = i then .ok true
      else
        match S.lookup? j with
        | some u => occursWithin S i n u
        | none => .ok false
    | .stray s => .error (.unknownType s)

/--
Whether a cell is met when the arrows and bindings of a type are followed.  A stray text
met before the cell is refused.
-/
def occurs (S : Store) (i : Nat) (t : MonoTy) : Except UnifyFailure Bool :=
  S.occursWithin i (S.weight t) t

/-! ### Unification -/

/-- Binds an unbound cell to a type that is no cell, if the cell does not occur in it. -/
def bindChecked (i : Nat) (t : MonoTy) : UnifyM Unit := do
  let S ← get
  if ← liftExcept (S.occurs i t) then throw (.occurs i t) else set (S.bind i t)

/-- Unification to a bounded depth. -/
def unifyWithin : Nat → MonoTy → MonoTy → UnifyM Unit
  | 0, _, _ => throw .outOfBound
  | n + 1, t, u => do
    match t, u with
    | .int, .int | .bool, .bool => return
    | .arrow a r, .arrow a' r' =>
      ExceptT.adapt (.within t u) do
        unifyWithin n a a'
        unifyWithin n r r'
    | .var i, u =>
      match (← get).lookup? i with
      | some t => unifyWithin n t u
      | none =>
        match u with
        | .var j =>
          match (← get).lookup? j with
          | some u => unifyWithin n (.var i) u
          | none => if i = j then return else modify (·.bind i (.var j))
        | u => bindChecked i u
    | t, .var j => unifyWithin n (.var j) t
    | t, u => throw (.mismatch t u [])

/-- A bound on the depth of unification, from how much there is to walk. -/
def unifyBound (S : Store) (t u : MonoTy) : Nat :=
  let w := S.weight t + u.size + 2
  4 * (w * w * w)

/-- Makes two types equal. -/
def unify (t u : MonoTy) : UnifyM Unit := do
  unifyWithin ((← get).unifyBound t u) t u

/-- Makes a cell equal to a type. -/
def unifyVar (i : Nat) (t : MonoTy) : UnifyM Unit :=
  unify (.var i) t

end Store

end TypedLambda
