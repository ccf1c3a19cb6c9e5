/-
Running a term in an environment.

This is the other way to run a term: nothing is ever put in the place of a name.  What a name
stands for is looked up when it is reached, in an environment that every binder adds to.  The
value of a function literal is a closure, the literal together with the environment it was
reached in, and a recursive binding is entered as it stands, with its environment, to be run
anew at each use.  Parts are run in the order in which evaluation runs them, and errors are
found in the same places.

An environment is read back as a valuation, each name with the term that stands for it, and a
closure as its literal with that valuation put in.  Where every name that is free in a closure
has an entry in its environment, all these terms are closed.  Then it makes no difference
whether they are put in all at once or by the program's own substitution, one after another.
-/
import TypedLambda.Proofs.Reduce
import TypedLambda.Proofs.Scope

namespace TypedLambda.Environment

mutual

inductive Value where
  | int (n : Int)
  | bool (b : Bool)
  | closure (params : List (String × Ty)) (body : Term) (env : Env)

/-- What a name stands for. -/
inductive Binding where
  | value (v : Value)
  /-- A recursive binding, to be run at each use. -/
  | suspended (name : String) (type : Ty) (body : Term) (env : Env)

/-- The newest entry is outermost. -/
inductive Env where
  | empty
  | bind (name : String) (binding : Binding) (env : Env)

end

namespace Env

/-- The newest entry for a name. -/
def lookup? : Env → String → Option Binding
  | empty, _ => none
  | bind y b env, x => if x = y then some b else lookup? env x

/-- Arguments for parameters, in order. -/
def bindAll (env : Env) : List (String × Ty) → List Value → Env
  | p :: ps, v :: vs => (bindAll env ps vs).bind p.1 (.value v)
  | _, _ => env

end Env

/-! ### The interpreter -/

inductive Failure where
  | freeVariable (name : String)
  | badOperands (op : Prim) (operands : List Value)
  | conditionNotBool (value : Value)
  | arityMismatch (expected actual : Nat)
  | notAFunction (value : Value)

/-- Why a run stopped short of a value. -/
inductive Halt where
  | failure (e : Failure)
  | unknownTerm (text : String)
  | outOfBudget

/-- The result of an operation, if its operands are as many integers as it takes. -/
def result? : Prim → List Value → Option Value
  | .equals, [.int m, .int n] => some (.bool (m == n))
  | .lessThan, [.int m, .int n] => some (.bool (m < n))
  | .plus, [.int m, .int n] => some (.int (m + n))
  | .minus, [.int m, .int n] => some (.int (m - n))
  | .times, [.int m, .int n] => some (.int (m * n))
  | .negate, [.int n] => some (.int (-n))
  | _, _ => none

/-- Runs a term in an environment; the budget is the number of runs that may be nested. -/
def interpret : Nat → Env → Term → Except Halt Value
  | 0, _, _ => throw .outOfBudget
  | budget + 1, env, t => do
    match t with
    | .int n => return .int n
    | .bool b => return .bool b
    | .fn ps b => return .closure ps b env
    | .var x =>
      match env.lookup? x with
      | some (.value v) => return v
      | some (.suspended f τ b env') => interpret budget (env'.bind f (.suspended f τ b env')) b
      | none => throw (.failure (.freeVariable x))
    | .prim op ts =>
      let vs ← ts.mapM (interpret budget env)
      match result? op vs with
      | some v => return v
      | none => throw (.failure (.badOperands op vs))
    | .ite c a b =>
      match ← interpret budget env c with
      | .bool true => interpret budget env a
      | .bool false => interpret budget env b
      | v => throw (.failure (.conditionNotBool v))
    | .letIn x v b =>
      let v ← interpret budget env v
      interpret budget (env.bind x (.value v)) b
    | .fix f τ b => interpret budget (env.bind f (.suspended f τ b env)) b
    | .app f ts =>
      match ← interpret budget env f with
      | .closure ps b env' =>
        let vs ← ts.mapM (interpret budget env)
        if vs.length ≠ ps.length then
          throw (.failure (.arityMismatch ps.length vs.length))
        interpret budget (env'.bindAll ps vs) b
      | v => throw (.failure (.notAFunction v))
    | .stray s => throw (.unknownTerm s)

/-! ### Reading back -/

mutual

/-- The term that a value stands for. -/
def Value.readBack : Value → Term
  | .int n => .int n
  | .bool b => .bool b
  | .closure ps b env => (Term.fn ps b).instantiate env.valuation

def Binding.readBack : Binding → Term
  | .value v => v.readBack
  | .suspended f τ b env => (Term.fix f τ b).instantiate env.valuation

/-- The term that each name stands for. -/
def Env.valuation : Env → Valuation
  | .empty => .empty
  | .bind x b env => (Valuation.single x b.readBack).or env.valuation

end

def Failure.readBack : Failure → EvalError
  | .freeVariable x => .freeVariable x
  | .badOperands op vs => .badOperands op (vs.map Value.readBack)
  | .conditionNotBool v => .conditionNotBool v.readBack
  | .arityMismatch m n => .arityMismatch m n
  | .notAFunction v => .notAFunction v.readBack

/-- A failure is read back as what evaluation stops with, which has to be written. -/
def Halt.readBack : Halt → Stop
  | .failure e => e.readBack.stop
  | .unknownTerm s => .fault (.unknownTerm s)
  | .outOfBudget => .outOfBudget

theorem Env.valuation_eq_map_lookup? (env : Env) (x : String) :
    env.valuation x = (env.lookup? x).map Binding.readBack := by
  match env with
  | .empty => rfl
  | .bind y b env =>
      have ih := valuation_eq_map_lookup? env x
      rw [valuation, lookup?, Valuation.or, Valuation.single]
      by_cases hx : x = y
      · rw [if_pos hx, if_pos hx]
        rfl
      · rw [if_neg hx, if_neg hx]
        exact ih

/-! ### Environments with an entry for every free name -/

/-- The names with an entry. -/
def Env.Has (env : Env) (x : String) : Prop := env.lookup? x ≠ none

theorem Env.Has.valuation_ne_none {env : Env} {x : String} (h : env.Has x) :
    env.valuation x ≠ none := by
  rw [env.valuation_eq_map_lookup?, Ne, Option.map_eq_none_iff]
  exact h

theorem Env.has_bind {env : Env} {y : String} {b : Binding} {x : String} :
    (env.bind y b).Has x ↔ x = y ∨ env.Has x := by
  rw [Has, lookup?]
  by_cases hx : x = y
  · simp [hx]
  · rw [if_neg hx]
    exact (or_iff_right hx).symm

theorem Env.has_bindAll {env : Env} {ps : List (String × Ty)} {vs : List Value}
    (hlen : vs.length = ps.length) {x : String} :
    (env.bindAll ps vs).Has x ↔ x ∈ ps.map (·.1) ∨ env.Has x := by
  induction ps generalizing vs with
  | nil => simp [bindAll]
  | cons p ps ih =>
      obtain ⟨v, vs, rfl⟩ := List.exists_cons_of_length_eq_add_one hlen
      rw [bindAll, has_bind, ih (by simpa using hlen), List.map_cons, List.mem_cons, or_assoc]

mutual

def Value.Scoped : Value → Prop
  | .int _ | .bool _ => True
  | .closure ps b env => Term.Within env.Has (.fn ps b) ∧ env.Scoped

def Binding.Scoped : Binding → Prop
  | .value v => v.Scoped
  | .suspended f τ b env => Term.Within env.Has (.fix f τ b) ∧ env.Scoped

/-- Each literal and recursive binding is within the names of the environment it came with. -/
def Env.Scoped : Env → Prop
  | .empty => True
  | .bind _ b env => b.Scoped ∧ env.Scoped

end

theorem Env.Scoped.bindValue {env : Env} (h : env.Scoped) {v : Value} (hv : v.Scoped)
    (x : String) : (env.bind x (.value v)).Scoped :=
  ⟨hv, h⟩

/-- The environment in which a recursive binding is run. -/
theorem Env.Scoped.unfold {env : Env} (h : env.Scoped) {f : String} {τ : Ty} {b : Term}
    (hfix : Term.Within env.Has (.fix f τ b)) : (env.bind f (.suspended f τ b env)).Scoped :=
  ⟨⟨hfix, h⟩, h⟩

theorem Env.Scoped.of_lookup? {env : Env} (h : env.Scoped) {x : String} {b : Binding}
    (hb : env.lookup? x = some b) : b.Scoped := by
  match env, h with
  | .bind y c env, ⟨hc, henv⟩ =>
      rw [lookup?] at hb
      by_cases hx : x = y
      · rw [if_pos hx] at hb
        exact Option.some.inj hb ▸ hc
      · rw [if_neg hx] at hb
        exact Env.Scoped.of_lookup? henv hb

theorem Env.Scoped.bindAll {env : Env} (h : env.Scoped) {vs : List Value}
    (hvs : ∀ v ∈ vs, v.Scoped) (ps : List (String × Ty)) : (env.bindAll ps vs).Scoped := by
  induction ps generalizing vs with
  | nil => exact h
  | cons p ps ih =>
      cases vs with
      | nil => exact h
      | cons v vs =>
          obtain ⟨hv, hvs⟩ := List.forall_mem_cons.mp hvs
          exact ⟨hv, ih hvs⟩

/-! ### What is read back is closed -/

/-- A term within the names of an environment is closed when the environment is put in. -/
theorem closed_instantiate_valuation {env : Env} (hclosed : env.valuation.Closed)
    (hwf : env.valuation.WellFormed) {t : Term} (ht : Term.Within env.Has t) :
    (t.instantiate env.valuation).Closed ∧ (t.instantiate env.valuation).WellFormed :=
  ⟨Term.closed_instantiate hclosed fun x hx => (ht.free x hx).valuation_ne_none,
    Term.wellFormed_instantiate hwf ht.wellFormed⟩

mutual

theorem Value.Scoped.isClosedValue : ∀ {v : Value}, v.Scoped → v.readBack.IsClosedValue
  | .int n, _ => Term.isClosedValue_int n
  | .bool b, _ => Term.isClosedValue_bool b
  | .closure ps b env, ⟨hfn, henv⟩ => by
      obtain ⟨hclosed, hwf⟩ := Env.Scoped.closed_valuation henv
      obtain ⟨hcfn, hwfn⟩ := closed_instantiate_valuation hclosed hwf hfn
      exact ⟨rfl, hcfn, hwfn⟩

theorem Binding.Scoped.closed : ∀ {b : Binding}, b.Scoped →
    b.readBack.Closed ∧ b.readBack.WellFormed
  | .value v, hv => by
      have h := Value.Scoped.isClosedValue (v := v) hv
      exact ⟨h.closed, h.wellFormed⟩
  | .suspended f τ b env, ⟨hfix, henv⟩ => by
      obtain ⟨hclosed, hwf⟩ := Env.Scoped.closed_valuation henv
      exact closed_instantiate_valuation hclosed hwf hfix

theorem Env.Scoped.closed_valuation : ∀ {env : Env}, env.Scoped →
    env.valuation.Closed ∧ env.valuation.WellFormed
  | .empty, _ => by
      constructor
      · intro x r h
        cases h
      · intro x r h
        cases h
  | .bind x b env, ⟨hb, henv⟩ => by
      obtain ⟨hclosed, hwf⟩ := Binding.Scoped.closed hb
      obtain ⟨hcenv, hwenv⟩ := Env.Scoped.closed_valuation henv
      exact ⟨(Valuation.closed_single hclosed x).or hcenv,
        (Valuation.wellFormed_single hwf x).or hwenv⟩

end

/-! ### Reading back is substitution -/

/-- The entries of an environment as substitutions, the newest first. -/
def Env.substitutions : Env → List Substitution
  | .empty => []
  | .bind x b env => ⟨b.readBack, x⟩ :: env.substitutions

theorem Env.ofSubsts_substitutions : ∀ env : Env,
    Valuation.ofSubsts env.substitutions = env.valuation
  | .empty => rfl
  | .bind x b env => by
      rw [substitutions, Valuation.ofSubsts, ofSubsts_substitutions env, valuation]

theorem Env.Scoped.of_mem_substitutions : ∀ {env : Env}, env.Scoped →
    ∀ s ∈ env.substitutions, s.replacement.Closed ∧ s.replacement.WellFormed
  | .empty, _ => List.forall_mem_nil _
  | .bind _ _ _, ⟨hb, henv⟩ => List.forall_mem_cons.mpr ⟨hb.closed, henv.of_mem_substitutions⟩

/-- To put an environment in is to make its substitutions, the newest first. -/
theorem Env.Scoped.applyAll_substitutions {env : Env} (h : env.Scoped) {t : Term}
    (ht : t.WellFormed) :
    Substitution.applyAll env.substitutions t = pure (t.instantiate env.valuation) := by
  rw [Substitution.applyAll_eq_instantiate (fun s hs => (h.of_mem_substitutions s hs).1)
    (fun s hs => (h.of_mem_substitutions s hs).2) ht, ofSubsts_substitutions]

end TypedLambda.Environment
