/-
Equations that hold already.

Two types that resolve to the same are equal under every assignment that respects the store, so
making them equal leaves all of these assignments.  A run could still bind a cell to another one
that it was going to be equal to anyway.  It does not: if a store that has grown by a binding is
respected by the same assignments, then resolving in the old store is one of them, and it gives
the cell, which was unbound, the cell itself.  So the cell would be what its binding comes to,
and would meet itself.

This says nothing about how a run walks the two types, and does not have to.  Once a call has
succeeded its two types resolve alike, they go on doing so whatever is called afterwards, and so
a second call finds nothing to do.
-/
import TypedLambda.Proofs.Unify.Frame

namespace TypedLambda.Store

variable {S S' : Store} {P : MonoTy → Prop} {t u v : MonoTy}

/-! ### Stray texts after a call that fails -/

theorem Refuses.proper_resolve {e : UnifyFailure} (h : Refuses S t u e S') (hS : S.Acyclic)
    (hv : (S.resolve v).Proper) : (S'.resolve v).Proper := by
  induction h with
  | clash | occurs | unknown => exact hv
  | left _ _ ih | right _ _ _ ih | swap _ _ ih | arg _ _ _ ih => exact ih hS hv
  | ret ha _ ih =>
      obtain ⟨-, hkeeps⟩ := ha.proper_resolve hS
      exact ih (ha.acyclic hS) (hkeeps v hv)

/-- What resolved without a stray text still does after a call, however it ended. -/
theorem Acyclic.proper_resolve_run (hS : S.Acyclic) (c : Call) (hv : (S.resolve v).Proper) :
    ((S.run c.run).2.resolve v).Proper := by
  rw [c.run_eq_unify]
  rcases hS.ends_unify c.sides.1 c.sides.2 with ⟨S', hx, h⟩ | ⟨e, S', hx, h⟩
  · rw [hx]
    exact (h.proper_resolve hS).2 v hv
  · rw [hx]
    exact h.proper_resolve hS hv

theorem Acyclic.proper_resolve_runCalls (hS : S.Acyclic) (calls : List Call)
    (hv : (S.resolve v).Proper) : ((S.runCalls calls).2.resolve v).Proper := by
  induction calls generalizing S with
  | nil => exact hv
  | cons c calls ih => exact ih (hS.acyclic_run c) (hS.proper_resolve_run c hv)

/-! ### A binding takes assignments away -/

theorem Grows.meets (h : Grows P S S') {i : Nat} (ht : S.Meets t i) : S'.Meets t i := by
  induction ht with
  | here i => exact .here i
  | arg r _ ih => exact .arg r ih
  | ret a _ ih => exact .ret a ih
  | follow hj _ ih => exact .follow (h.lookup?_of_bound hj) ih

/-- If no further cell is bound, nothing was written. -/
theorem Grows.eq_of_unbound (h : Grows P S S')
    (hnone : ∀ i, S.lookup? i = none → S'.lookup? i = none) : S' = S := by
  cases h with
  | refl => rfl
  | @bind S₁ i t h hi =>
      have hS : S.lookup? i = none := by
        cases hbound : S.lookup? i with
        | none => rfl
        | some v =>
            rw [h.lookup?_of_bound hbound] at hi
            cases hi
      have hself := hnone i hS
      rw [lookup?_bind_self] at hself
      cases hself

/-- **A store that has grown and is still respected by what was resolved before is the same.** -/
theorem Acyclic.eq_of_respects_resolved (hS : S.Acyclic) (h : Grows P S S')
    (hρ : S'.Respects S.resolved) : S' = S := by
  refine h.eq_of_unbound fun i hi => ?_
  cases hbound : S'.lookup? i with
  | none => rfl
  | some v =>
      have hcell : S.resolve v = .var i := by
        have heq := hρ i v hbound
        rw [hS.assign_resolved] at heq
        rw [← heq, resolved, hS.resolve_of_unbound hi]
      have hmem : i ∈ (S.resolve v).cells := by
        rw [hcell]
        exact List.mem_singleton_self i
      -- the cell was met from its binding before it was bound to it
      have hmeets := (hS.of_mem_cells_resolve hmem).2
      exact absurd (h.meets hmeets) (h.acyclic hS i v hbound)

/-! ### Calls that find nothing to do -/

/-- A call on types that resolve alike succeeds and writes nothing. -/
theorem Acyclic.run_unify_of_resolve_eq (hS : S.Acyclic) (ht : (S.resolve t).Proper)
    (heq : S.resolve t = S.resolve u) : S.run (unify t u) = (.ok (), S) := by
  have hresolved : t.assign S.resolved = u.assign S.resolved := by
    rw [hS.assign_resolved, hS.assign_resolved, heq]
  rcases hS.ends_unify t u with ⟨S', hx, h⟩ | ⟨e, S', -, h⟩
  · have hgrows : Grows (fun _ => True) S S' :=
      h.grows (fun _ _ _ => ⟨trivial, trivial⟩) hS (fun _ _ _ => trivial) trivial trivial
    have hrespects := (h.respects_iff S.resolved).mpr ⟨hS.respects_resolved, hresolved⟩
    rw [hx, hS.eq_of_respects_resolved hgrows hrespects]
  · exact absurd hresolved
      (h.assign_ne_of_resolve hS ht (heq ▸ ht) hS.respects_resolved)

/-- After any calls, types that resolve alike still leave a further call nothing to do. -/
theorem Acyclic.run_unify_after_calls (hS : S.Acyclic) (ht : (S.resolve t).Proper)
    (heq : S.resolve t = S.resolve u) (calls : List Call) :
    (S.runCalls calls).2.run (unify t u) = (.ok (), (S.runCalls calls).2) :=
  (hS.acyclic_runCalls calls).run_unify_of_resolve_eq (hS.proper_resolve_runCalls calls ht)
    (hS.resolve_runCalls calls heq)

/--
**Unification changes nothing exactly if there is nothing to do.**  It succeeds and leaves every
cell as it was if and only if the two types resolve to the same.  So once it has succeeded, it
succeeds again, either way round, and writes nothing to the store, whatever was called in between
and however that ended.
-/
theorem unify_unchanged_iff (hS : S.Acyclic) (hp : S.All MonoTy.Proper) (ht : t.Proper)
    (hu : u.Proper) :
    ((S.run (unify t u)).1 = .ok () ∧
        (∀ i, (S.run (unify t u)).2.lookup? i = S.lookup? i) ↔ S.resolve t = S.resolve u) ∧
      ((S.run (unify t u)).1 = .ok () → ∀ calls : List Call,
        let S' := ((S.run (unify t u)).2.runCalls calls).2
        S'.run (unify t u) = (.ok (), S') ∧ S'.run (unify u t) = (.ok (), S')) := by
  have hproper := hS.proper_resolve hp ht
  rcases hS.ends_unify t u with ⟨S', hx, h⟩ | ⟨e, S', hx, h⟩
  · have hgrows := h.grows MonoTy.hereditary_proper hS hp ht hu
    have hS' := hgrows.acyclic hS
    have hequal := h.resolve_eq hS'
    have hproper' := hS'.proper_resolve (hgrows.all hp) ht
    rw [hx]
    refine ⟨⟨?_, ?_⟩, ?_⟩
    · rintro ⟨-, hsame⟩
      rwa [hgrows.eq_of_unbound fun i hi => (hsame i).trans hi] at hequal
    · intro heq
      obtain ⟨-, rfl⟩ := Prod.mk.inj (hx.symm.trans (hS.run_unify_of_resolve_eq hproper heq))
      exact ⟨rfl, fun _ => rfl⟩
    · intro _ calls
      exact ⟨hS'.run_unify_after_calls hproper' hequal calls,
        hS'.run_unify_after_calls (hequal ▸ hproper') hequal.symm calls⟩
  · rw [hx]
    refine ⟨⟨?_, ?_⟩, ?_⟩
    · rintro ⟨hok, -⟩
      cases hok
    · intro heq
      cases hx.symm.trans (hS.run_unify_of_resolve_eq hproper heq)
    · intro hok
      cases hok

/--
The sides are made equal by a binding of cell 2.  Of the calls in between the first binds cell 1,
to which cell 0 leads on both sides, and the second fails after it has bound cell 5.
-/
theorem unify_unchanged_iff_between :
    let S : Store := { trail := [(4, .var 0), (0, .arrow (.var 1) .int)] }
    let t := MonoTy.arrow (.var 4) (.var 2)
    let u := MonoTy.arrow (.var 0) (.arrow (.var 1) (.var 3))
    let calls : List Call :=
      [.unifyVar 1 .bool, .unify (.arrow (.var 5) (.var 2)) (.arrow .int .int)]
    (S.Acyclic ∧ S.All MonoTy.Proper ∧ t.Proper ∧ u.Proper ∧ S.resolve t ≠ S.resolve u) ∧
      (S.run (unify t u)).2.trail =
        [(2, .arrow (.var 1) (.var 3)), (4, .var 0), (0, .arrow (.var 1) .int)] ∧
      ¬ ((S.run (unify t u)).1 = .ok () ∧
        ∀ i, (S.run (unify t u)).2.lookup? i = S.lookup? i) ∧
      let S' := ((S.run (unify t u)).2.runCalls calls).2
      S'.trail = [(5, .int), (1, .bool), (2, .arrow (.var 1) (.var 3)), (4, .var 0),
        (0, .arrow (.var 1) .int)] ∧
      S'.run (unify t u) = (.ok (), S') ∧ S'.run (unify u t) = (.ok (), S') := by
  intro S t u calls
  have hS : S.Acyclic := acyclic_of_rank (fun i => if i = 4 then 2 else 1 - i) (by decide)
  have hp : S.All MonoTy.Proper := all_of_forall_mem (by decide)
  have ht : t.Proper := by decide
  have hu : u.Proper := by decide
  have hne : S.resolve t ≠ S.resolve u := by decide
  obtain ⟨hiff, hagain⟩ := unify_unchanged_iff hS hp ht hu
  exact ⟨⟨hS, hp, ht, hu, hne⟩, rfl, fun h => hne (hiff.mp h), rfl, hagain rfl calls⟩

end TypedLambda.Store
