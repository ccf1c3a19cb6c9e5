/-
Only recursive bindings go on for ever.

A well typed term without `fix` reaches a value, with every budget that is large enough.
Nothing about the term gets smaller on the way, because a function that is passed as an argument
is copied into the body it is passed to.  What gets smaller is the type.

`Reducible τ v` says by recursion on `τ` that `v` is a value that may be used at that type: a
function is reducible if its body comes to a reducible value whenever reducible arguments are
put in for the parameters.  The induction is on the term, with reducible values standing for its
free names (`halts_instantiate`), and at a function literal it shows exactly what reducibility
asks for.  There is no such step for `fix`, which would have to stand for itself before
anything is known of it.

The parts of a term come to their values within budgets of their own; `reduce_mono` lets the
whole have the largest of them.
-/
import TypedLambda.Proofs.Soundness

namespace TypedLambda

namespace Term

mutual

/-- Whether there is a recursive binding at any depth. -/
def hasFix : Term → Bool
  | int _ | bool _ | var _ | stray _ => false
  | ite c a b => hasFix c || hasFix a || hasFix b
  | prim _ ts => hasFixAny ts
  | fn _ b => hasFix b
  | fix .. => true
  | letIn _ v b => hasFix v || hasFix b
  | app f ts => hasFix f || hasFixAny ts

def hasFixAny : List Term → Bool
  | [] => false
  | t :: ts => hasFix t || hasFixAny ts

end

theorem hasFixAny_eq_false {ts : List Term} :
    hasFixAny ts = false ↔ ∀ t ∈ ts, t.hasFix = false := by
  induction ts with
  | nil => simp [hasFixAny]
  | cons t ts ih => simp [hasFixAny, ih]

/-! ### Reducible values -/

mutual

/-- A value that may be used wherever one of type `τ` is expected. -/
def Reducible : Ty → Term → Prop
  | .int, v => ∃ n, v = .int n
  | .bool, v => ∃ b, v = .bool b
  | .arrow σs β, v => v.IsClosedValue ∧ ∃ ps b, v = .fn ps b ∧ ps.length = σs.length ∧
      ∀ vs, ReducibleAll σs vs →
        ∃ n w, (b.instantiate (.ofArgs ps vs)).reduce n = .ok w ∧ Reducible β w

def ReducibleAll : List Ty → List Term → Prop
  | [], vs => vs = []
  | σ :: σs, vs => ∃ w ws, Reducible σ w ∧ ReducibleAll σs ws ∧ vs = w :: ws

end

/-- A term that comes to a reducible value within some budget. -/
def Halts (τ : Ty) (t : Term) : Prop := ∃ n v, t.reduce n = .ok v ∧ Reducible τ v

theorem reducibleAll_iff {σs : List Ty} {vs : List Term} :
    ReducibleAll σs vs ↔ List.Forall₂ Reducible σs vs := by
  induction σs generalizing vs with
  | nil => rw [ReducibleAll, List.forall₂_nil_left_iff]
  | cons σ σs ih => simp only [ReducibleAll, ih, List.forall₂_cons_left_iff]

theorem Reducible.isClosedValue {τ : Ty} {v : Term} (h : Reducible τ v) : v.IsClosedValue := by
  cases τ with
  | int => obtain ⟨n, rfl⟩ := h; exact isClosedValue_int n
  | bool => obtain ⟨b, rfl⟩ := h; exact isClosedValue_bool b
  | arrow σs β => exact h.1

theorem reduce_value {v : Term} (hv : v.isValue = true) (n : Nat) : v.reduce (n + 1) = .ok v := by
  cases v with
  | int | bool | fn => rfl
  | var | ite | prim | fix | letIn | app | stray => cases hv

theorem Reducible.halts {τ : Ty} {v : Term} (h : Reducible τ v) : Halts τ v :=
  ⟨1, v, reduce_value h.isClosedValue.isValue 0, h⟩

/-- Terms that halt do so in a row, within one budget. -/
theorem exists_mapM_of_halts {ts : List Term} {σs : List Ty}
    (h : List.Forall₂ (fun t σ => Halts σ t) ts σs) :
    ∃ n vs, ts.mapM (reduce n) = .ok vs ∧ List.Forall₂ Reducible σs vs := by
  induction h with
  | nil => exact ⟨0, [], rfl, .nil⟩
  | cons ht _ ih =>
      obtain ⟨m, v, hv, hred⟩ := ht
      obtain ⟨n, vs, hvs, hreds⟩ := ih
      refine ⟨max m n, v :: vs, ?_, .cons hred hreds⟩
      rw [List.mapM_cons, reduce_mono (Nat.le_max_left m n) hv, ok_bind,
        mapM_reduce_mono (Nat.le_max_right m n) hvs]
      rfl

end Term

theorem Prim.reducible_of_result {op : Prim} {vs : List Term} {v : Term}
    (hv : op.apply? vs = some v) (hτ : v.infer .standard .empty = .ok op.signature.result) :
    Term.Reducible op.signature.result v := by
  have h := Term.canonical_of_infer (isClosedValue_of_result hv).isValue hτ
  -- a result is an integer or a boolean, of which nothing more is asked
  cases op with
  | equals | lessThan => exact h
  | plus | minus | times | negate => exact h

/-! ### Reducible values for the names of a context -/

namespace Valuation

/-- Something reducible stands for each name of `Γ`, and nothing for any other name. -/
def Closes (σ : Valuation) (Γ : Context) : Prop :=
  ∀ x, Option.Rel Term.Reducible (Γ.lookup? x) (σ x)

variable {σ : Valuation} {Γ : Context}

theorem Closes.isClosedValue (hσ : σ.Closes Γ) {x : String} {r : Term} (hr : σ x = some r) :
    r.IsClosedValue := by
  have hrel := hσ x
  rw [hr] at hrel
  generalize Γ.lookup? x = o at hrel
  cases hrel with
  | some h => exact h.isClosedValue

theorem Closes.exists_reducible (hσ : σ.Closes Γ) {x : String} {τ : Ty}
    (hτ : Γ.lookup? x = some τ) : ∃ v, σ x = some v ∧ Term.Reducible τ v := by
  have hrel := hσ x
  rw [hτ] at hrel
  generalize σ x = o at hrel
  cases hrel with
  | some h => exact ⟨_, rfl, h⟩

theorem Closes.closed (hσ : σ.Closes Γ) : σ.Closed :=
  fun _ _ hr => (hσ.isClosedValue hr).closed

theorem Closes.wellFormed (hσ : σ.Closes Γ) : σ.WellFormed :=
  fun _ _ hr => (hσ.isClosedValue hr).wellFormed

theorem Closes.ne_none (hσ : σ.Closes Γ) {x : String} (hx : Γ.lookup? x ≠ none) :
    σ x ≠ none := by
  obtain ⟨τ, hτ⟩ := Option.ne_none_iff_exists'.mp hx
  obtain ⟨v, hv, -⟩ := hσ.exists_reducible hτ
  simp [hv]

theorem closes_empty : empty.Closes .empty := fun _ => .none

theorem Closes.extend (hσ : σ.Closes Γ) (x : String) {τ : Ty} {v : Term}
    (hv : Term.Reducible τ v) : ((σ.hide [x]).or (single x v)).Closes (Γ.extend x τ) := by
  intro y
  by_cases hy : y = x
  · rw [hy, Context.lookup?_extend_self]
    simpa [Valuation.or, hide, single] using Option.Rel.some hv
  · rw [Context.lookup?_extend_of_ne _ _ hy]
    simpa [Valuation.or, hide, single, hy] using hσ y

theorem Closes.extendMany (hσ : σ.Closes Γ) {ps : List (String × Ty)} {vs : List Term}
    (hnodup : (ps.map (·.1)).Nodup)
    (hvs : List.Forall₂ (fun v τ => Term.Reducible τ v) vs (ps.map (·.2))) :
    ((σ.hide (ps.map (·.1))).or (ofArgs ps vs)).Closes (Γ.extendMany ps) := by
  intro y
  have hlen : vs.length = ps.length := by simpa using hvs.length_eq
  by_cases hy : y ∈ ps.map (·.1)
  · obtain ⟨v, hv⟩ := Option.ne_none_iff_exists'.mp (ofArgs_ne_none hlen hy)
    obtain ⟨τ, hτ, hred⟩ := exists_lookup?_of_ofArgs hnodup hvs Γ hv
    rw [hτ, Valuation.or, hide, if_pos hy, Option.none_or, hv]
    exact .some hred
  · rw [Context.lookup?_extendMany_of_not_mem _ hy, Valuation.or, hide, if_neg hy,
      ofArgs_eq_none hy, Option.or_none]
    exact hσ y

end Valuation

namespace Term

private theorem forall₂_halts_instantiateAll {ts : List Term} {σs : List Ty} {Γ : Context}
    {σ : Valuation} (hts : List.Forall₂ (fun t τ => t.infer .standard Γ = .ok τ) ts σs)
    (h : ∀ t ∈ ts, ∀ τ, t.infer .standard Γ = .ok τ → Halts τ (t.instantiate σ)) :
    List.Forall₂ (fun t τ => Halts τ t) (instantiateAll σ ts) σs := by
  rw [instantiateAll_eq_map, List.forall₂_map_left_iff]
  exact (List.forall₂_and_left _ _ |>.mpr ⟨h, hts⟩).imp fun t τ h => h.1 τ h.2

/-- **The free names of a typed term may be replaced by reducible values, and then it halts.** -/
theorem halts_instantiate {t : Term} {Γ : Context} {τ : Ty} {σ : Valuation} (hw : t.WellFormed)
    (hfix : t.hasFix = false) (ht : t.infer .standard Γ = .ok τ) (hσ : σ.Closes Γ) :
    Halts τ (t.instantiate σ) := by
  induction t using Term.induction generalizing Γ τ σ with
  | int n => cases ht; exact Reducible.halts ⟨n, rfl⟩
  | bool b => cases ht; exact Reducible.halts ⟨b, rfl⟩
  | var x =>
      obtain ⟨v, hv, hred⟩ := hσ.exists_reducible (infer_var_eq_ok.mp ht)
      rw [instantiate, hv]
      exact hred.halts
  | stray s => exact hw.elim
  | fix f β b _ => cases hfix
  | ite c a b ihc iha ihb =>
      obtain ⟨hc, ha, hb⟩ := infer_ite_eq_ok.mp ht
      simp only [hasFix, Bool.or_eq_false_iff] at hfix
      obtain ⟨m, _, hv, k, rfl⟩ := ihc hw.1 hfix.1.1 hc hσ
      -- only the branch that is taken has to be given budget
      have hbranch : Halts τ (bif k then a.instantiate σ else b.instantiate σ) := by
        cases k with
        | true => exact iha hw.2.1 hfix.1.2 ha hσ
        | false => exact ihb hw.2.2 hfix.2 hb hσ
      obtain ⟨n, v, hn, hred⟩ := hbranch
      refine ⟨max m n + 1, v, ?_, hred⟩
      rw [instantiate, reduce, reduce_mono (Nat.le_max_left m n) hv, ok_bind]
      cases k with
      | true => exact reduce_mono (Nat.le_max_right m n) hn
      | false => exact reduce_mono (Nat.le_max_right m n) hn
  | letIn x w b ihv ihb =>
      obtain ⟨β, hβ, hb⟩ := infer_letIn_eq_ok.mp ht
      simp only [hasFix, Bool.or_eq_false_iff] at hfix
      obtain ⟨m, u, hu, hured⟩ := ihv hw.1 hfix.1 hβ hσ
      obtain ⟨n, v, hv, hred⟩ := ihb hw.2 hfix.2 hb (hσ.extend x hured)
      refine ⟨max m n + 1, v, ?_, hred⟩
      rw [instantiate, reduce, reduce_mono (Nat.le_max_left m n) hu, ok_bind,
        instantiate_instantiate (hσ.closed.hide _)]
      exact reduce_mono (Nat.le_max_right m n) hv
  | fn ps b ih =>
      obtain ⟨β, hb, rfl⟩ := infer_fn_eq_ok.mp ht
      have hvalue : ((fn ps b).instantiate σ).IsClosedValue :=
        ⟨rfl, closed_instantiate hσ.closed fun x hx => hσ.ne_none (lookup?_ne_none_of_infer ht hx),
          wellFormed_instantiate hσ.wellFormed hw⟩
      refine Reducible.halts ⟨hvalue, ps, _, rfl, by simp, fun vs hvs => ?_⟩
      rw [instantiate_instantiate (hσ.closed.hide _)]
      exact ih hw.2 hfix hb (hσ.extendMany hw.1 (reducibleAll_iff.mp hvs).flip)
  | prim op ts ih =>
      obtain ⟨s, hs, rfl, hts⟩ := infer_prim_eq_ok.mp ht
      cases hs
      obtain ⟨n, vs, hvs, hreds⟩ := exists_mapM_of_halts (forall₂_halts_instantiateAll hts
        fun t hmem σ' h => ih t hmem (wellFormedAll_iff.mp hw t hmem)
          (hasFixAny_eq_false.mp hfix t hmem) h hσ)
      obtain ⟨v, hv, hτ⟩ := Prim.exists_result (fun _ h => h) hreds
      refine ⟨n + 1, v, ?_, Prim.reducible_of_result hv hτ⟩
      rw [instantiate, reduce, hvs, ok_bind, hv]
      rfl
  | app f ts ihf ih =>
      obtain ⟨σs, hf, hts⟩ := infer_app_eq_ok.mp ht
      simp only [hasFix, Bool.or_eq_false_iff] at hfix
      obtain ⟨l, g, hg, -, ps, b, rfl, hps, hbody⟩ := ihf hw.1 hfix.1 hf hσ
      obtain ⟨m, vs, hvs, hreds⟩ := exists_mapM_of_halts (forall₂_halts_instantiateAll hts
        fun t hmem σ' h => ih t hmem (wellFormedAll_iff.mp hw.2 t hmem)
          (hasFixAny_eq_false.mp hfix.2 t hmem) h hσ)
      obtain ⟨n, v, hv, hred⟩ := hbody vs (reducibleAll_iff.mpr hreds)
      have hlen : vs.length = ps.length := by rw [hps, hreds.length_eq]
      refine ⟨max l (max m n) + 1, v, ?_, hred⟩
      rw [instantiate, reduce, reduce_mono (by omega) hg, ok_bind]
      show ((instantiateAll σ ts).mapM (reduce (max l (max m n))) >>= _) = _
      rw [mapM_reduce_mono (by omega) hvs, ok_bind, if_neg (not_not.mpr hlen)]
      exact reduce_mono (by omega) hv

/--
**Without recursive bindings every run ends.**  A term that has a type in the empty context and
in which there is no `fix` comes to a value, the same from any supply of names and with every
budget from some point on.
-/
theorem evaluate_terminates {t : Term} {τ : Ty} (hw : t.WellFormed) (hfix : t.hasFix = false)
    (ht : t.infer .standard .empty = .ok τ) :
    ∃ N v, v.isValue = true ∧ ∀ budget, N ≤ budget → ∀ names : Naming,
      names.run (t.evaluate budget) = (.ok v, names) := by
  obtain ⟨N, v, hv, hred⟩ := halts_instantiate hw hfix ht Valuation.closes_empty
  rw [instantiate_empty] at hv
  refine ⟨N, v, hred.isClosedValue.isValue, fun budget hbudget names => ?_⟩
  rw [run_evaluate (closed_of_infer ht) hw, reduce_mono hbudget hv]

/-- A function that is passed as an argument and used twice. -/
theorem evaluate_terminates_higherOrder :
    Sample.higherOrder.WellFormed ∧ Sample.higherOrder.hasFix = false ∧
      Sample.higherOrder.infer .standard .empty = .ok .int ∧
      ∃ N v, v.isValue = true ∧ ∀ budget, N ≤ budget → ∀ names : Naming,
        names.run (Sample.higherOrder.evaluate budget) = (.ok v, names) := by
  have hw : Sample.higherOrder.WellFormed := by decide
  have hfix : Sample.higherOrder.hasFix = false := by rfl
  have ht : Sample.higherOrder.infer .standard .empty = .ok .int := by rfl
  exact ⟨hw, hfix, ht, evaluate_terminates hw hfix ht⟩

end Term

end TypedLambda
