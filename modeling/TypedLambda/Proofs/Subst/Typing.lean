/-
Substitution and types, with names left open.

A replacement may mention any name of the context, so binders are renamed on the way to a place
where it goes, and the parts of the result are checked in contexts that have other names than
those of the term.  None of that is followed here.  Names that are left open are closed first: a
context says the type of a name, and for every type there is a closed term that has it, which
stands in for the name.  Putting the stand-ins in changes no outcome (`infer_instantiate`).

What is left to compare is two closed terms.  The one is the result of the substitution, closed.
The other is the term itself, closed with the closed replacement for the target.  Their nameless
forms are the same, because putting closed terms in for names is a change of free names and two
such changes make one (`toNameless_instantiate`); and terms with the same nameless form differ
in the names of binders alone, which have no influence on a type.
-/
import TypedLambda.Proofs.Alpha.Nameless
import TypedLambda.Proofs.Alpha.Typing
import TypedLambda.Proofs.Subst

namespace TypedLambda

/-! ### Closed terms in a nameless term -/

/-- What comes in the place of a free name of a nameless term. -/
def Valuation.leaf (σ : Valuation) (x : String) : Nameless :=
  ((σ x).map Term.toNameless).getD (.free x)

/-- A closed term has no name that a binder could catch. -/
theorem Valuation.Closed.bind_leaf_hide {σ : Valuation} (hσ : σ.Closed) (xs : List String)
    (d : Nat) (x : String) :
    Nameless.mapFree (Nameless.bindName xs) d ((σ.hide xs).leaf x)
      = Nameless.leafBelow xs (fun _ => σ.leaf) d x := by
  by_cases hx : x ∈ xs
  · simp [Valuation.leaf, Valuation.hide, Nameless.leafBelow, Nameless.bindName, hx]
  · rcases hr : σ x with _ | r
    · simp [Valuation.leaf, Valuation.hide, Nameless.leafBelow, Nameless.bindName, hx, hr]
    · have hclosed : ∀ y ∈ xs, y ∉ r.toNameless.freeNames := fun y _ hy =>
        hσ x r hr y (Term.mem_freeNames_toNameless.mp hy)
      simp [Valuation.leaf, Valuation.hide, Nameless.leafBelow, hx, hr,
        Nameless.mapFree_bindName_eq_self hclosed]

namespace Term

private theorem toNamelessAll_instantiateAll {σ : Valuation} {f : Nat → String → Nameless}
    {ts : List Term}
    (h : ∀ t ∈ ts, (t.instantiate σ).toNameless = t.toNameless.mapFree f 0) :
    toNamelessAll (instantiateAll σ ts) = Nameless.mapFreeAll f 0 (toNamelessAll ts) := by
  induction ts with
  | nil => rfl
  | cons t ts ih =>
      rw [instantiateAll, toNamelessAll, toNamelessAll, Nameless.mapFreeAll, h t (by simp),
        ih fun u hu => h u (by simp [hu])]

/-- A binder hides its names from the valuation and turns them into references afterwards. -/
private theorem bind_instantiate_hide {σ : Valuation} (hσ : σ.Closed) (xs : List String) {b : Term}
    (hb : (b.instantiate (σ.hide xs)).toNameless
      = b.toNameless.mapFree (fun _ => (σ.hide xs).leaf) 0) :
    (b.instantiate (σ.hide xs)).toNameless.bind xs
      = (b.toNameless.bind xs).mapFree (fun _ => σ.leaf) (0 + 1) := by
  rw [hb, Nameless.mapFree_bind, Nameless.bind, Nameless.mapFree_mapFree]
  exact Nameless.mapFree_congr (fun d x _ => hσ.bind_leaf_hide xs d x) 0

/-- Closed terms are put in for the free names of the nameless form, below any binders. -/
theorem toNameless_instantiate {σ : Valuation} (hσ : σ.Closed) (t : Term) :
    (t.instantiate σ).toNameless = t.toNameless.mapFree (fun _ => σ.leaf) 0 := by
  induction t using Term.induction generalizing σ with
  | int | bool | stray => rfl
  | var x =>
      rcases hx : σ x with _ | r
      · simp [toNameless, Valuation.leaf, hx]
      · simp [toNameless, Valuation.leaf, hx]
  | ite c a b ihc iha ihb =>
      simp only [instantiate, toNameless, Nameless.mapFree, ihc hσ, iha hσ, ihb hσ]
  | prim op ts ih =>
      have hts := toNamelessAll_instantiateAll fun t ht => ih t ht hσ
      simp only [instantiate, toNameless, Nameless.mapFree, hts]
  | fn ps b ih =>
      have hb := bind_instantiate_hide hσ (ps.map (·.1)) (ih (hσ.hide _))
      simp only [instantiate, toNameless, Nameless.mapFree, hb]
  | fix f τ b ih =>
      have hb := bind_instantiate_hide hσ [f] (ih (hσ.hide _))
      simp only [instantiate, toNameless, Nameless.mapFree, hb]
  | letIn x v b ihv ihb =>
      have hb := bind_instantiate_hide hσ [x] (ihb (hσ.hide _))
      simp only [instantiate, toNameless, Nameless.mapFree, ihv hσ, hb]
  | app f ts ihf ih =>
      have hts := toNamelessAll_instantiateAll fun t ht => ih t ht hσ
      simp only [instantiate, toNameless, Nameless.mapFree, ihf hσ, hts]

/-- Substituting and then closing is closing with the closed replacement for the target. -/
theorem toNameless_instantiate_subst {σ : Valuation} {r t t' : Term} {x : String} (hσ : σ.Closed)
    (hr : (r.instantiate σ).Closed) (h : t'.toNameless = r.toNameless.subst x t.toNameless) :
    (t'.instantiate σ).toNameless
      = (t.instantiate ((Valuation.single x (r.instantiate σ)).or σ)).toNameless := by
  have hρ := (Valuation.closed_single hr x).or hσ
  rw [toNameless_instantiate hσ, toNameless_instantiate hρ, h, Nameless.subst,
    Nameless.mapFree_mapFree]
  refine Nameless.mapFree_congr (fun d y _ => ?_) 0
  by_cases hy : y = x
  · rw [if_pos hy, Nameless.mapFree_depth _ d 0, ← toNameless_instantiate hσ]
    simp [Valuation.leaf, Valuation.or, Valuation.single, hy]
  · rw [if_neg hy, Nameless.mapFree]
    simp [Valuation.leaf, Valuation.or, Valuation.single, hy]

end Term

/-! ### Stand-ins for the names of a context -/

/-- A closed term of the given type. -/
def Ty.standIn (τ : Ty) : Term :=
  .fix "x" τ (.var "x")

theorem Ty.infer_standIn (Δ : Signatures) (τ : Ty) : τ.standIn.infer Δ .empty = .ok τ := by
  rw [standIn, Term.infer_fix_eq_ok, Term.infer_var_eq_ok, Context.lookup?_extend_self]
  exact ⟨rfl, rfl⟩

namespace Context

/-- A term for every name of the context. -/
def standIns (Γ : Context) : Valuation :=
  fun x => (Γ.lookup? x).map Ty.standIn

theorem types_standIns (Δ : Signatures) (Γ : Context) : Γ.standIns.Types Δ Γ .empty := by
  constructor
  · intro x r hr
    obtain ⟨τ, hτ, rfl⟩ := Option.map_eq_some_iff.mp hr
    exact ⟨τ, hτ, τ.infer_standIn Δ⟩
  · intro x hnone
    rw [lookup?_empty, Option.map_eq_none_iff.mp hnone]

theorem wellFormed_standIns (Γ : Context) : Γ.standIns.WellFormed := by
  intro x r hr
  obtain ⟨τ, -, rfl⟩ := Option.map_eq_some_iff.mp hr
  trivial

end Context

/-! ### The substitution lemma -/

namespace Term

variable {Δ : Signatures} {Γ : Context} {r t t' : Term} {x : String} {τ : Ty}

/-- A replacement that has the type of the target leaves the outcome as it is. -/
theorem infer_of_toNameless_eq_subst (hr : r.WellFormed) (ht : t.WellFormed) (ht' : t'.WellFormed)
    (h : t'.toNameless = r.toNameless.subst x t.toNameless) (hτ : r.infer Δ Γ = .ok τ) :
    t'.infer Δ Γ = t.infer Δ (Γ.extend x τ) := by
  have hσ := Γ.types_standIns Δ
  have hs : (r.instantiate Γ.standIns).infer Δ .empty = .ok τ := by
    rw [infer_instantiate hσ, hτ]
  have hρ := hσ.single_or (x := x) hs
  have hwf : ((Valuation.single x (r.instantiate Γ.standIns)).or Γ.standIns).WellFormed :=
    (Valuation.wellFormed_single (wellFormed_instantiate Γ.wellFormed_standIns hr) x).or
      Γ.wellFormed_standIns
  have halpha : AlphaEq (t'.instantiate Γ.standIns)
      (t.instantiate ((Valuation.single x (r.instantiate Γ.standIns)).or Γ.standIns)) :=
    (alphaEq_iff_toNameless_eq (wellFormed_instantiate Γ.wellFormed_standIns ht')
      (wellFormed_instantiate hwf ht)).mpr
        (toNameless_instantiate_subst hσ.closed (closed_of_infer hs) h)
  calc t'.infer Δ Γ
      = (t'.instantiate Γ.standIns).infer Δ .empty := (infer_instantiate hσ t').symm
    _ = (t.instantiate ((Valuation.single x (r.instantiate Γ.standIns)).or Γ.standIns)).infer
          Δ .empty := halpha.infer_eq (.refl _)
    _ = t.infer Δ (Γ.extend x τ) := infer_instantiate hρ t

/--
**Substitution preserves typing.**  If the replacement has a type in a context, then the result of
the substitution has in that context the type, or the error, that the term has where the target
is added with the type of the replacement; unless the target may still be drawn for a binder.
-/
theorem infer_subst {names : Naming} (hr : r.WellFormed) (ht : t.WellFormed)
    (hx : ¬ names.MayDraw r x) (hτ : r.infer Δ Γ = .ok τ) :
    ∃ t' names', names.run (r.subst x t) = (.ok t', names') ∧
      t'.infer Δ Γ = t.infer Δ (Γ.extend x τ) := by
  obtain ⟨t', names', hrun, -, hsub⟩ := run_subst x hr ht names
  exact ⟨t', names', hrun, infer_of_toNameless_eq_subst hr ht hsub.wellFormed
    (hsub.nameless fun h => absurd h hx) hτ⟩

/-- The parameter has to be renamed, and in the context the names it clashes with differ in type. -/
theorem infer_subst_renamed :
    let r := prim .plus [var "y", int 1]
    let t := fn [("y", .bool)] (ite (var "y") (var "x") (int 0))
    let Γ : Context := ⟨[("y", .int), ("x", .bool)]⟩
    (r.WellFormed ∧ t.WellFormed ∧ ¬ ({} : Naming).MayDraw r "x") ∧
      r.infer .standard Γ = .ok .int ∧
      ∃ t' names', ({} : Naming).run (r.subst "x" t) = (.ok t', names') ∧
        t'.infer .standard Γ = .ok (.arrow [.bool] .int) := by
  intro r t Γ
  have hr : r.WellFormed := by decide
  have ht : t.WellFormed := by decide
  have hdraw : ¬ ({} : Naming).MayDraw r "x" := by
    rintro ⟨b, hb, n, -, hx⟩
    obtain rfl : b = "y" := List.mem_singleton.mp hb
    have hlen := Supply.length_lt_length_nameAt "y" n
    rw [← hx] at hlen
    exact absurd hlen (by decide)
  have hτ : r.infer .standard Γ = .ok .int := rfl
  obtain ⟨t', names', hrun, heq⟩ := infer_subst hr ht hdraw hτ
  exact ⟨⟨hr, ht, hdraw⟩, hτ, t', names', hrun, heq.trans rfl⟩

end Term

end TypedLambda
