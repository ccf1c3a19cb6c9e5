/-
Replacing the free occurrences of a name by a term.

A binder for the target shadows it, so nothing below such a binder is touched.  A
binder whose name is free in the replacement would capture, so it is renamed first:
a fresh name is drawn that is free neither in the replacement nor in the body and that
no sibling parameter has, and the body is changed by replacing the old name by the
new one.  That renaming is a replacement like any other, made in full before the
replacement goes on below the binder, and it may itself have to rename binders further
inside.

Renaming keeps the height of a body, so recursion is on a bound for the height, and
`Term.subst` starts with one that suffices.  Names are drawn in reading order, and the
supply moves on even when a later part turns out to be a stray text.
-/
import TypedLambda.Supply
import TypedLambda.Term.FreeNames
import TypedLambda.Term.Render

namespace TypedLambda

/-- A binder that was renamed. -/
structure Renaming where
  binder : String
  fresh : String
  deriving DecidableEq, Inhabited

/-- The names an operation has used so far. -/
structure Naming where
  supply : Supply := {}
  /-- The binders renamed so far, newest first. -/
  renamed : List Renaming := []
  deriving DecidableEq, Inhabited

/-- Operations that may draw names and may meet a fault; a fault keeps the names drawn. -/
abbrev NamingM := ExceptT Fault (StateM Naming)

/-- Draws a name for a binder, outside `avoid`. -/
def Naming.freshBinder (binder : String) (avoid : List String) : NamingM String :=
  modifyGet fun names =>
    let (fresh, supply) := names.supply.freshOutside binder avoid
    (fresh, { supply, renamed := ⟨binder, fresh⟩ :: names.renamed })

namespace Term

mutual

/-- The number of terms on a longest path from the root. -/
def height : Term → Nat
  | int _ | bool _ | var _ | stray _ => 1
  | ite c t e => max (height c) (max (height t) (height e)) + 1
  | prim _ ts => heightAll ts + 1
  | fn _ b | fix _ _ b => height b + 1
  | letIn _ v b => max (height v) (height b) + 1
  | app f ts => max (height f) (heightAll ts) + 1

def heightAll : List Term → Nat
  | [] => 0
  | t :: ts => max (height t) (heightAll ts)

end

theorem height_pos (t : Term) : 0 < t.height := by
  cases t <;> simp [height]

theorem height_le_heightAll {t : Term} {ts : List Term} (h : t ∈ ts) :
    t.height ≤ heightAll ts := by
  induction ts with
  | nil => simp at h
  | cons u ts ih =>
    rcases List.mem_cons.1 h with rfl | h
    · exact Nat.le_max_left ..
    · exact Nat.le_trans (ih h) (Nat.le_max_right ..)

/-! ### Renaming a binder out of the way

`rename new old b` stands for the replacement of one name by another in a body; these
steps do not depend on how it is made.
-/

/--
The name of a binder and its body after the binder has been kept from capturing.  It is
renamed only if its name is one of the dangerous ones.
-/
def avoidCapture (rename : String → String → Term → NamingM Term) (dangerous taken : List String)
    (binder : String) (body : Term) : NamingM (String × Term) := do
  if binder ∈ dangerous then
    let inBody ← liftExcept body.freeNames?
    let fresh ← Naming.freshBinder binder (dangerous ++ inBody ++ taken)
    return (fresh, ← rename fresh binder body)
  else
    return (binder, body)

/-- Parameters are kept from capturing one after another; each new name is taken for the rest. -/
def avoidCaptures (rename : String → String → Term → NamingM Term) (dangerous : List String) :
    List String → List (String × Ty) → Term → NamingM (List (String × Ty) × Term)
  | _, [], body => return ([], body)
  | taken, (x, τ) :: params, body => do
    let (y, body) ← avoidCapture rename dangerous taken x body
    let (params, body) ← avoidCaptures rename dangerous (y :: taken) params body
    return ((y, τ) :: params, body)

/-! ### Substitution -/

/-- Substitution in a term lower than the bound. -/
def substWithin : Nat → Term → String → Term → NamingM Term
  | 0, _, _, t => return t
  | n + 1, r, x, t => do
    let rename := fun new old body => substWithin n (.var new) old body
    match t with
    | .int _ | .bool _ => return t
    | .var y => return if y = x then r else t
    | .ite c a b =>
      return .ite (← substWithin n r x c) (← substWithin n r x a) (← substWithin n r x b)
    | .prim op ts => return .prim op (← ts.mapM (substWithin n r x))
    | .app f ts => return .app (← substWithin n r x f) (← ts.mapM (substWithin n r x))
    | .letIn y v b =>
      let v ← substWithin n r x v
      if y = x then
        return .letIn y v b
      else
        let (y, b) ← avoidCapture rename (← liftExcept r.freeNames?) [] y b
        return .letIn y v (← substWithin n r x b)
    | .fix f τ b =>
      if f = x then
        return t
      else
        let (f, b) ← avoidCapture rename (← liftExcept r.freeNames?) [] f b
        return .fix f τ (← substWithin n r x b)
    | .fn ps b =>
      if x ∈ ps.map (·.1) then
        return t
      else
        let (ps, b) ← avoidCaptures rename (← liftExcept r.freeNames?) (ps.map (·.1)) ps b
        liftExcept (fn? ps (← substWithin n r x b))
    | .stray s => throw (.unknownTerm s)

/-- `subst r x t` is `t` with `r` in place of every free `x`. -/
def subst (r : Term) (x : String) (t : Term) : NamingM Term :=
  substWithin t.height r x t

end Term

/-! ### Substitutions as values -/

structure Substitution where
  replacement : Term
  target : String
  deriving DecidableEq

namespace Substitution

def apply (s : Substitution) (t : Term) : NamingM Term :=
  Term.subst s.replacement s.target t

/-- Substitutions one after another, each in the result of the one before. -/
def applyAll (ss : List Substitution) (t : Term) : NamingM Term :=
  ss.foldlM (fun t s => s.apply t) t

def render (s : Substitution) : Except Fault String :=
  return "[" ++ (← s.replacement.render) ++ "/" ++ s.target ++ "]"

end Substitution

end TypedLambda
