/-
The names that count for a type are the free names.

Scope is made out twice: `freeNames` takes the names of a binder away from those of its body,
and `infer` puts them in front of a context, where they shadow what was there.  The two agree.
Nothing but the types of the free names is read from a context, each of them is read before a
term is given a type, and a name that is reported as undefined is one of them.

For the last a name is followed up from the place of the error.  That it has no type there
means that none of the binders on the way is one for it, so it is free in the whole term and
has no type in the context of the whole.
-/
import TypedLambda.Proofs.Typing.Refusal

namespace TypedLambda

theorem Context.contains_eq_false {Γ : Context} {x : String} :
    Γ.contains x = false ↔ Γ.lookup? x = none := by
  rw [contains, lookup?, List.any_eq_false, List.lookup_eq_none_iff]
  refine forall₂_congr fun b _ => ?_
  rw [beq_iff_eq, bne_iff_ne, ne_comm]

/-! ### A name without a type -/

namespace Site

variable {Δ : Signatures} {p q : Site}

/-- A name that is free in the term has no type. -/
def Unbound (p : Site) (x : String) : Prop :=
  x ∈ p.term.freeNames ∧ p.context.lookup? x = none

/-- A name that a part leaves open is left open by the whole. -/
theorem Checks.unbound (hpq : Checks Δ p q) {x : String} (hq : q.Unbound x) : p.Unbound x := by
  obtain ⟨hx, hnone⟩ := hq
  cases hpq with
  | operand t after => exact ⟨Term.mem_freeNamesAll_iff.mpr ⟨t, by simp, hx⟩, hnone⟩
  | cond | thenBranch | elseBranch => exact ⟨by simp_all [Term.freeNames], hnone⟩
  | value Γ y v b => exact ⟨List.mem_append_left _ hx, hnone⟩
  | letBody b hv =>
      obtain ⟨hne, hnone⟩ := Context.lookup?_extend_eq_none.mp hnone
      exact ⟨List.mem_append_right _ (List.mem_filter.mpr ⟨hx, by simpa using hne⟩), hnone⟩
  | fixBody Γ f τ b =>
      obtain ⟨hne, hnone⟩ := Context.lookup?_extend_eq_none.mp hnone
      exact ⟨List.mem_filter.mpr ⟨hx, by simpa using hne⟩, hnone⟩
  | fnBody Γ ps b =>
      obtain ⟨hps, hnone⟩ := Context.lookup?_extendMany_eq_none.mp hnone
      exact ⟨List.mem_filter.mpr ⟨hx, by simpa using hps⟩, hnone⟩
  | func Γ f ts => exact ⟨List.mem_append_left _ hx, hnone⟩
  | arg t after =>
      exact ⟨List.mem_append_right _ (Term.mem_freeNamesAll_iff.mpr ⟨t, by simp, hx⟩), hnone⟩

end Site

theorem Unlike.ne_undefinedVariable {σs τs : List Ty} {e : TypeError} (h : Unlike σs τs e)
    (x : String) : e ≠ .undefinedVariable x := by
  cases h with
  | arity | type => simp

namespace Term

theorem unbound_of_infer {Δ : Signatures} {Γ : Context} {t : Term} {x : String}
    (h : t.infer Δ Γ = .error (.error (.undefinedVariable x))) :
    x ∈ t.freeNames ∧ Γ.lookup? x = none := by
  refine Site.of_infer_eq_error (p := ⟨Γ, t⟩) (P := (Site.Unbound · x))
    (fun p q hpq => hpq.unbound) (fun q hq => ?_) h
  cases hq with
  | var hnone => exact ⟨List.mem_singleton.mpr rfl, hnone⟩
  | operands _ _ hargs => exact absurd rfl (hargs.ne_undefinedVariable x)
  | args _ _ hargs => exact absurd rfl (hargs.ne_undefinedVariable x)

/--
**Inference and the free names agree about scope.**  A term without a stray text has free names;
contexts that agree on them give it the same outcome, error and all; a type is given only if all
of them are bound; and a name that is reported as undefined is one of them and is not.
-/
theorem infer_scope {t : Term} (ht : t.firstStray? = none) :
    ∃ xs, t.freeNames? = .ok xs ∧ ∀ Δ Γ,
      (∀ Γ', (∀ x ∈ xs, Γ.lookup? x = Γ'.lookup? x) → t.infer Δ Γ = t.infer Δ Γ') ∧
      (∀ τ, t.infer Δ Γ = .ok τ → ∀ x ∈ xs, Γ.contains x = true) ∧
      ∀ x, t.infer Δ Γ = .error (.error (.undefinedVariable x)) →
        x ∈ xs ∧ Γ.contains x = false := by
  refine ⟨t.freeNames, by rw [freeNames?, ht], fun Δ Γ => ⟨?_, ?_, ?_⟩⟩
  · intro Γ' hΓ
    exact infer_congr hΓ
  · intro τ hτ x hx
    rw [← Bool.not_eq_false, Context.contains_eq_false]
    exact lookup?_ne_none_of_infer hτ hx
  · intro x hx
    obtain ⟨hfree, hnone⟩ := unbound_of_infer hx
    exact ⟨hfree, Context.contains_eq_false.mpr hnone⟩

/--
The value of the `let` reads an outer `y`, the parameter `y` and the `x` of the `let` shadow what
the first context binds, and `w` is missing in the third.
-/
theorem infer_scope_shadowed :
    let t := letIn "x" (var "y") (fn [("y", .bool)] (ite (var "y") (var "x") (var "w")))
    let Γ : Context := ⟨[("x", .bool), ("y", .int), ("w", .int), ("y", .bool)]⟩
    let Γ' : Context := ⟨[("w", .int), ("y", .int)]⟩
    t.firstStray? = none ∧ t.infer .standard Γ' = .ok (.arrow [.bool] .int) ∧
      t.infer .standard Γ = .ok (.arrow [.bool] .int) ∧
      "w" ∈ t.freeNames ∧ (⟨[("y", .int)]⟩ : Context).contains "w" = false := by
  intro t Γ Γ'
  have ht : t.firstStray? = none := rfl
  obtain ⟨xs, hxs, hscope⟩ := infer_scope ht
  obtain rfl : ["y", "w"] = xs := Except.ok.inj hxs
  have hΓ' : t.infer .standard Γ' = .ok (.arrow [.bool] .int) := rfl
  have hΓ : t.infer .standard Γ = t.infer .standard Γ' :=
    (hscope .standard Γ).1 Γ' (by decide)
  exact ⟨ht, hΓ', hΓ.trans hΓ', (hscope .standard ⟨[("y", .int)]⟩).2.2 "w" rfl⟩

end Term

end TypedLambda
