/-
Well typed terms do not go wrong.

A closed term that has a type either runs out of its budget or reaches a value of that very
type; none of the errors of evaluation, and no fault, is possible.  That is proved of `reduce`
by induction on the budget.  What one step puts in the place of a name has the type of the
name, so by `infer_instantiate` the body that is run next has the type it had under its binder.
A recursive binding is put in for its own name before it is evaluated; it has the type it
declares, which is all that is asked of it.

That the value has the expected form is read off its type: a value of type `Int` is an integer,
one of type `Bool` a boolean, and one of a function type a function literal with these
parameters.  The table of signatures and the table of results agree on this, primitive by
primitive.
-/
import TypedLambda.Proofs.Reduce
import TypedLambda.Proofs.Typing
import TypedLambda.Samples

namespace TypedLambda

namespace Term

/-! ### The form of a value -/

/-- What a value of each type looks like. -/
def Canonical (Δ : Signatures) : Ty → Term → Prop
  | .int, v => ∃ n, v = .int n
  | .bool, v => ∃ b, v = .bool b
  | .arrow σs β, v => ∃ ps b, v = .fn ps b ∧ ps.map (·.2) = σs ∧
      b.infer Δ (Context.empty.extendMany ps) = .ok β

theorem canonical_of_infer {Δ : Signatures} {v : Term} {τ : Ty} (hv : v.isValue = true)
    (h : v.infer Δ .empty = .ok τ) : Canonical Δ τ v := by
  cases v with
  | int n => cases h; exact ⟨n, rfl⟩
  | bool b => cases h; exact ⟨b, rfl⟩
  | fn ps b =>
      obtain ⟨β, hb, rfl⟩ := infer_fn_eq_ok.mp h
      exact ⟨ps, b, rfl, rfl, hb⟩
  | var | ite | prim | fix | letIn | app | stray => cases hv

end Term

/-- Operands of the types a primitive asks for are operands it has a result for. -/
theorem Prim.exists_result {op : Prim} {R : Ty → Term → Prop} {vs : List Term}
    (hint : ∀ v, R .int v → ∃ n, v = .int n) (hvs : List.Forall₂ R op.signature.params vs) :
    ∃ v, op.apply? vs = some v ∧ v.infer .standard .empty = .ok op.signature.result := by
  cases op with
  | negate =>
      obtain ⟨v, _, hv, hnil, rfl⟩ := List.forall₂_cons_left_iff.mp hvs
      obtain rfl := List.forall₂_nil_left_iff.mp hnil
      obtain ⟨n, rfl⟩ := hint v hv
      exact ⟨_, rfl, rfl⟩
  | equals | lessThan | plus | minus | times =>
      obtain ⟨v, _, hv, hrest, rfl⟩ := List.forall₂_cons_left_iff.mp hvs
      obtain ⟨w, _, hw, hnil, rfl⟩ := List.forall₂_cons_left_iff.mp hrest
      obtain rfl := List.forall₂_nil_left_iff.mp hnil
      obtain ⟨m, rfl⟩ := hint v hv
      obtain ⟨n, rfl⟩ := hint w hw
      exact ⟨_, rfl, rfl⟩

namespace Term

/-! ### A run of a typed term -/

/-- A value that a closed term of type `τ` may end in. -/
structure IsValueOf (τ : Ty) (v : Term) : Prop extends v.IsClosedValue where
  infer_eq : v.infer .standard .empty = .ok τ

theorem IsValueOf.canonical {τ : Ty} {v : Term} (h : IsValueOf τ v) : Canonical .standard τ v :=
  canonical_of_infer h.isValue h.infer_eq

/-- What a run of a closed term of type `τ` may come to. -/
def Sound (τ : Ty) (x : Except Stop Term) : Prop :=
  x = .error .outOfBudget ∨ ∃ v, x = .ok v ∧ IsValueOf τ v

/-- If a part of a run is sound, the whole is if it is sound with every value of the part. -/
theorem Sound.bind {σ τ : Ty} {x : Except Stop Term} {f : Term → Except Stop Term}
    (hx : Sound σ x) (hf : ∀ v, IsValueOf σ v → Sound τ (f v)) : Sound τ (x >>= f) := by
  rcases hx with rfl | ⟨v, rfl, hv⟩
  · exact Or.inl rfl
  · exact hf v hv

theorem Sound.mapM_bind {σs : List Ty} {τ : Ty} {ts : List Term} {f : Term → Except Stop Term}
    {g : List Term → Except Stop Term}
    (hts : List.Forall₂ (fun t σ => t.infer .standard .empty = .ok σ) ts σs)
    (hf : ∀ t ∈ ts, ∀ σ, t.infer .standard .empty = .ok σ → Sound σ (f t))
    (hg : ∀ vs, List.Forall₂ (fun v σ => IsValueOf σ v) vs σs → Sound τ (g vs)) :
    Sound τ (ts.mapM f >>= g) := by
  rcases mapM_error_or_ok hts hf with hout | ⟨vs, hok, hvs⟩
  · exact Or.inl (by rw [hout, error_bind])
  · rw [hok, ok_bind]
    exact hg vs hvs

/-- **A run of a closed term that has a type is sound.** -/
theorem reduce_sound (n : Nat) {t : Term} {τ : Ty} (hw : t.WellFormed)
    (ht : t.infer .standard .empty = .ok τ) : Sound τ (t.reduce n) := by
  induction n generalizing t τ with
  | zero => exact Or.inl rfl
  | succ n ih =>
      cases t with
      | int k => cases ht; exact Or.inr ⟨_, rfl, isClosedValue_int k, rfl⟩
      | bool k => cases ht; exact Or.inr ⟨_, rfl, isClosedValue_bool k, rfl⟩
      | fn ps b => exact Or.inr ⟨_, rfl, ⟨rfl, closed_of_infer ht, hw⟩, ht⟩
      | var x => cases infer_var_eq_ok.mp ht
      | stray s => exact hw.elim
      | prim op ts =>
          obtain ⟨s, hs, rfl, hts⟩ := infer_prim_eq_ok.mp ht
          cases hs
          rw [reduce]
          refine .mapM_bind hts (fun t hmem σ => ih (wellFormedAll_iff.mp hw t hmem)) ?_
          intro vs hvs
          obtain ⟨v, hv, hτ⟩ := Prim.exists_result (fun v h => h.canonical) hvs.flip
          rw [hv]
          exact Or.inr ⟨v, rfl, Prim.isClosedValue_of_result hv, hτ⟩
      | ite c a b =>
          obtain ⟨hc, ha, hb⟩ := infer_ite_eq_ok.mp ht
          rw [reduce]
          refine (ih hw.1 hc).bind fun v hv => ?_
          obtain ⟨k, rfl⟩ := hv.canonical
          cases k with
          | true => exact ih hw.2.1 ha
          | false => exact ih hw.2.2 hb
      | letIn x w b =>
          obtain ⟨σ, hσ, hb⟩ := infer_letIn_eq_ok.mp ht
          rw [reduce]
          refine (ih hw.1 hσ).bind fun v hv => ih ?_ ?_
          · exact wellFormed_instantiate (Valuation.wellFormed_single hv.wellFormed x) hw.2
          · rw [infer_instantiate (Valuation.types_single hv.infer_eq), hb]
      | fix f σ b =>
          obtain ⟨rfl, hb⟩ := infer_fix_eq_ok.mp ht
          rw [reduce]
          refine ih ?_ ?_
          · exact wellFormed_instantiate (Valuation.wellFormed_single hw f) hw
          · rw [infer_instantiate (Valuation.types_single ht), hb]
      | app f ts =>
          obtain ⟨σs, hf, hts⟩ := infer_app_eq_ok.mp ht
          rw [reduce]
          refine (ih hw.1 hf).bind fun g hg => ?_
          obtain ⟨ps, b, rfl, rfl, hb⟩ := hg.canonical
          refine .mapM_bind hts (fun t hmem σ => ih (wellFormedAll_iff.mp hw.2 t hmem)) ?_
          intro vs hvs
          have hlen : vs.length = ps.length := by simpa using hvs.length_eq
          have hwvs : ∀ v ∈ vs, v.WellFormed := by
            intro v hv
            obtain ⟨_, -, h⟩ := exists_of_forall₂_of_mem hvs hv
            exact h.wellFormed
          rw [if_neg (not_not.mpr hlen)]
          refine ih ?_ ?_
          · exact wellFormed_instantiate (Valuation.wellFormed_ofArgs hwvs ps) hg.wellFormed.2
          · rw [infer_instantiate (Valuation.types_ofArgs hg.wellFormed.1
              (hvs.imp fun _ _ h => h.infer_eq)), hb]

/--
**Type soundness.**  With any budget and from any supply of names, evaluating a term that has a
type in the empty context runs out of the budget or gives a value of that type, in the form
that the type says.
-/
theorem evaluate_sound {t : Term} {τ : Ty} (hw : t.WellFormed)
    (ht : t.infer .standard .empty = .ok τ) (budget : Nat) (names : Naming) :
    names.run (t.evaluate budget) = (.error .outOfBudget, names) ∨
      ∃ v, names.run (t.evaluate budget) = (.ok v, names) ∧ v.isValue = true ∧
        v.infer .standard .empty = .ok τ ∧ Canonical .standard τ v := by
  rw [run_evaluate (closed_of_infer ht) hw]
  rcases reduce_sound budget hw ht with hout | ⟨v, hok, hv⟩
  · exact Or.inl (by rw [hout])
  · exact Or.inr ⟨v, by rw [hok], hv.isValue, hv.infer_eq, hv.canonical⟩

/-- Within this budget the factorial of three comes to an integer. -/
theorem evaluate_sound_factorial :
    (Sample.factorial 3).WellFormed ∧ (Sample.factorial 3).infer .standard .empty = .ok .int ∧
      ∃ n, ({} : Naming).run ((Sample.factorial 3).evaluate 40) = (.ok (.int n), {}) := by
  have hw : (Sample.factorial 3).WellFormed := by decide
  have ht : (Sample.factorial 3).infer .standard .empty = .ok .int := by rfl
  refine ⟨hw, ht, ?_⟩
  rcases evaluate_sound hw ht 40 {} with hout | ⟨v, hv, -, -, n, rfl⟩
  · have hrun : ({} : Naming).run ((Sample.factorial 3).evaluate 40) = (.ok (.int 6), {}) := rfl
    rw [hrun] at hout
    cases hout
  · exact ⟨n, hv⟩

end Term

end TypedLambda
