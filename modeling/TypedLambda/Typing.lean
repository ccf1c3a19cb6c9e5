/-
The type of a term.

Every binder says its type, so the type of a term is read off from the inside out and
exactly one rule applies to each form.  Nothing is unified or generalised: a type is
what is expected only if it is the same type.

The first thing found wrong is reported.  Parts are checked in reading order and
before the term they belong to; of operands and arguments the number is compared
before the types, and the types from left to right.  The table of signatures may be
partial, and a primitive without a signature is refused before its operands are looked
at.
-/
import TypedLambda.Context
import TypedLambda.Term

namespace TypedLambda

/-! ### What can go wrong -/

inductive TypeError where
  | undefinedVariable (name : String)
  /-- The type of what is applied is not a function type. -/
  | applyNonArrow (actual : Ty)
  | arityMismatch (expected actual : Nat)
  | mismatch (expected actual : Ty)
  deriving DecidableEq

/-- The word for the kind of error. -/
def TypeError.kind : TypeError → String
  | .undefinedVariable _ => "UndefinedVariable"
  | .applyNonArrow _ => "ApplyNonArrow"
  | .arityMismatch .. => "ArityMismatch"
  | .mismatch .. => "TypeMismatch"

def TypeError.message : TypeError → String
  | .undefinedVariable x => "Undefined variable: " ++ x
  | .applyNonArrow τ => "Cannot apply a term of non-function type " ++ τ.render
  | .arityMismatch m n => "Expected " ++ m.repr ++ " argument(s), but got " ++ n.repr
  | .mismatch σ τ => "Expected type " ++ σ.render ++ ", but got " ++ τ.render

/-- Why a term was given no type. -/
inductive Untyped where
  | error (e : TypeError)
  | missingSignature (op : Prim)
  | fault (f : Fault)
  deriving DecidableEq

/-! ### Signatures -/

/-- The types of the operands of a primitive operation, and of its result. -/
structure Signature where
  params : List Ty
  result : Ty
  deriving DecidableEq

def Signature.toTy (s : Signature) : Ty := .arrow s.params s.result

/-- What is known about the primitive operations. -/
abbrev Signatures := Prim → Option Signature

/-- Comparisons give a boolean; everything else is about integers alone. -/
def Prim.signature : Prim → Signature
  | .equals | .lessThan => ⟨[.int, .int], .bool⟩
  | .plus | .minus | .times => ⟨[.int, .int], .int⟩
  | .negate => ⟨[.int], .int⟩

def Signatures.standard : Signatures := fun op => some op.signature

/-! ### Inference -/

/-- The first place at which two lists of types differ. -/
def firstDifference? : List Ty → List Ty → Option (Ty × Ty)
  | σ :: σs, τ :: τs => if σ = τ then firstDifference? σs τs else some (σ, τ)
  | _, _ => none

/-- Compares the number of arguments with the number of parameters, then their types. -/
def checkArgs (expected actual : List Ty) : Except Untyped Unit :=
  if expected.length ≠ actual.length then
    .error (.error (.arityMismatch expected.length actual.length))
  else
    match firstDifference? expected actual with
    | some (σ, τ) => .error (.error (.mismatch σ τ))
    | none => .ok ()

/-- Compares the type that was found with the one that is required. -/
def checkSame (expected actual : Ty) : Except Untyped Unit :=
  if expected = actual then .ok () else .error (.error (.mismatch expected actual))

namespace Term

mutual

def infer (Δ : Signatures) : Context → Term → Except Untyped Ty
  | _, int _ => .ok .int
  | _, bool _ => .ok .bool
  | Γ, var x =>
    match Γ.lookup? x with
    | some τ => .ok τ
    | none => .error (.error (.undefinedVariable x))
  | Γ, prim op ts =>
    match Δ op with
    | none => .error (.missingSignature op)
    | some s => do
      let τs ← inferAll Δ Γ ts
      checkArgs s.params τs
      return s.result
  | Γ, ite c a b => do
    let γ ← infer Δ Γ c
    checkSame .bool γ
    let α ← infer Δ Γ a
    let β ← infer Δ Γ b
    checkSame α β
    return α
  | Γ, letIn x v b => do
    let τ ← infer Δ Γ v
    infer Δ (Γ.extend x τ) b
  | Γ, fix f τ b => do
    let β ← infer Δ (Γ.extend f τ) b
    checkSame τ β
    return τ
  | Γ, fn ps b => do
    let β ← infer Δ (Γ.extendMany ps) b
    return .arrow (ps.map (·.2)) β
  | Γ, app f ts => do
    match ← infer Δ Γ f with
    | .arrow σs β =>
      let τs ← inferAll Δ Γ ts
      checkArgs σs τs
      return β
    | τ => .error (.error (.applyNonArrow τ))
  | _, stray s => .error (.fault (.unknownTerm s))

def inferAll (Δ : Signatures) : Context → List Term → Except Untyped (List Ty)
  | _, [] => .ok []
  | Γ, t :: ts => do
    let τ ← infer Δ Γ t
    let τs ← inferAll Δ Γ ts
    return τ :: τs

end

end Term

end TypedLambda
