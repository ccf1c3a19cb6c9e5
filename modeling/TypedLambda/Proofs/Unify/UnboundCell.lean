/-
Making an unbound cell equal to a type.

The cell may stand on either side, and the type may be a cell itself, with bindings to be followed
before anything can be bound.  Every rule that goes on from there keeps the unbound cell as one
of its sides.  So a run never comes to take two arrows apart: it writes one binding at most,
and the only thing that can stop it is that the cell occurs in what it would be bound to.

When it does occur is not read off the rules.  If the cell is not met from the type, binding it
would give a store to resolve in, and nothing that is so satisfied is refused.  If it is met,
and the type does not come to the cell itself, the two could only be equal as an infinite type.
-/
import TypedLambda.Proofs.Unify.Repetition

namespace TypedLambda.Store

variable {S S' : Store} {i : Nat} {t u : MonoTy}

/-! ### Cells that are met -/

theorem meets_of_mem_cells (h : i ∈ t.cells) : S.Meets t i := by
  induction t with
  | int | bool | stray => cases h
  | var j =>
      obtain rfl := List.mem_singleton.mp h
      exact .here i
  | arrow a r iha ihr =>
      rcases List.mem_append.mp h with h | h
      · exact .arg r (iha h)
      · exact .ret a (ihr h)

/-- An unbound cell is left by resolving exactly if it is met. -/
theorem Acyclic.mem_cells_resolve_iff (hS : S.Acyclic) (hi : S.lookup? i = none) :
    i ∈ (S.resolve t).cells ↔ S.Meets t i := by
  refine ⟨fun h => (hS.of_mem_cells_resolve h).2, fun h => ?_⟩
  induction h with
  | here i =>
      rw [hS.resolve_of_unbound hi]
      exact List.mem_singleton_self i
  | arg r _ ih =>
      rw [hS.resolve_arrow]
      exact List.mem_append_left _ (ih hi)
  | ret a _ ih =>
      rw [hS.resolve_arrow]
      exact List.mem_append_right _ (ih hi)
  | follow hj _ ih =>
      rw [hS.resolve_of_bound hj]
      exact ih hi

/-! ### The rules with an unbound cell on one side -/

theorem not_side_of_clashes (h : t.Clashes u) : ¬ (t = .var i ∨ u = .var i) := by
  rintro (rfl | rfl)
  · exact h.elim
  · cases t <;> exact h.elim

/-- A side that is a bound cell is not the unbound one, so the other side is. -/
theorem eq_of_side_of_bound {j : Nat} {v : MonoTy} (hi : S.lookup? i = none)
    (hj : S.lookup? j = some v) (hside : .var j = MonoTy.var i ∨ u = .var i) : u = .var i := by
  rcases hside with hside | hside
  · obtain rfl := MonoTy.var.inj hside
    rw [hi] at hj
    cases hj
  · exact hside

/-- At most one binding is written. -/
theorem Unifies.eq_or_bind (h : Unifies S t u S') (hi : S.lookup? i = none)
    (hside : t = .var i ∨ u = .var i) :
    S' = S ∨ ∃ j v, S.lookup? j = none ∧ S' = S.bind j v := by
  induction h with
  | int | bool | arrow => simp at hside
  | same => exact Or.inl rfl
  | link hj => exact Or.inr ⟨_, _, hj, rfl⟩
  | bind hj => exact Or.inr ⟨_, _, hj, rfl⟩
  | left hj _ ih => exact ih hi (Or.inr (eq_of_side_of_bound hi hj hside))
  | right _ hj _ ih => exact ih hi (Or.inl (eq_of_side_of_bound hi hj hside.symm))
  | swap _ _ ih => exact ih hi hside.symm

/-- What is refused is that the cell be a part of itself, and nothing was written before. -/
theorem Refuses.occurs_of_side {e : UnifyFailure} (h : Refuses S t u e S')
    (hp : S.All MonoTy.Proper) (ht : t.Proper) (hu : u.Proper) (hi : S.lookup? i = none)
    (hside : t = .var i ∨ u = .var i) : (∃ v, e = .occurs i v) ∧ S' = S := by
  induction h with
  | clash S h => exact absurd hside (not_side_of_clashes h)
  | occurs _ hvar =>
      rcases hside with hside | hside
      · obtain rfl := MonoTy.var.inj hside
        exact ⟨⟨_, rfl⟩, rfl⟩
      · exact absurd hside (hvar i)
  | unknown _ _ hocc =>
      obtain ⟨b, hb⟩ := exists_occurs hp _ hu
      rw [hocc] at hb
      cases hb
  | left hj _ ih =>
      exact ih hp (hp _ _ hj) hu hi (Or.inr (eq_of_side_of_bound hi hj hside))
  | right _ hj _ ih =>
      exact ih hp ht (hp _ _ hj) hi (Or.inl (eq_of_side_of_bound hi hj hside.symm))
  | swap _ _ ih => exact ih hp hu ht hi hside.symm
  | arg | ret => simp at hside

/-! ### When the cell and the type can be equal -/

/-- A cell that is met from a type is not assigned what the type is, unless it is all of it. -/
theorem Acyclic.assign_ne_of_mem_cells (hS : S.Acyclic) {ρ : Nat → MonoTy} (hρ : S.Respects ρ)
    (hmem : i ∈ (S.resolve t).cells) (hne : S.resolve t ≠ .var i) : ρ i ≠ t.assign ρ := by
  have hnovar : ∀ j, S.resolve t ≠ .var j := by
    intro j hj
    rw [hj] at hmem
    obtain rfl := List.mem_singleton.mp hmem
    exact hne hj
  have hpart := (meets_of_mem_cells (S := S) hmem).assign_ne hnovar hρ
  rwa [hS.assign_resolve hρ] at hpart

/-- A cell that is not met from a type may be assigned what the type is. -/
theorem Acyclic.exists_assign_eq (hS : S.Acyclic) (hi : S.lookup? i = none)
    (hit : ¬ S.Meets t i) : ∃ ρ, S.Respects ρ ∧ ρ i = t.assign ρ :=
  ⟨_, (respects_bind hi).mp (hS.bind hit).respects_resolved⟩

/-! ### The end of a call -/

/-- The two sides of an equation are the cell and the type, in either order. -/
def CellSides (i : Nat) (t a b : MonoTy) : Prop :=
  a = .var i ∧ b = t ∨ a = t ∧ b = .var i

namespace CellSides

variable {a b : MonoTy}

theorem side (h : CellSides i t a b) : a = .var i ∨ b = .var i :=
  h.imp And.left And.right

theorem proper (h : CellSides i t a b) (ht : t.Proper) : a.Proper ∧ b.Proper := by
  rcases h with ⟨rfl, rfl⟩ | ⟨rfl, rfl⟩
  · exact ⟨trivial, ht⟩
  · exact ⟨ht, trivial⟩

theorem assign_eq_iff (h : CellSides i t a b) (ρ : Nat → MonoTy) :
    a.assign ρ = b.assign ρ ↔ ρ i = t.assign ρ := by
  rcases h with ⟨rfl, rfl⟩ | ⟨rfl, rfl⟩
  · exact Iff.rfl
  · exact eq_comm

theorem resolve_eq_iff (h : CellSides i t a b) (hS : S.Acyclic) (hi : S.lookup? i = none) :
    S.resolve a = S.resolve b ↔ S.resolve t = .var i := by
  rcases h with ⟨rfl, rfl⟩ | ⟨rfl, rfl⟩
  · rw [hS.resolve_of_unbound hi, eq_comm]
  · rw [hS.resolve_of_unbound hi]

end CellSides

/-- How a call ends that is to make the unbound cell `i` equal to `t`. -/
structure EndsAtCell (S : Store) (i : Nat) (t : MonoTy) (x : Except UnifyFailure Unit × Store) :
    Prop where
  occurs_iff : (∃ v, x.1 = .error (.occurs i v)) ↔
    i ∈ (S.resolve t).cells ∧ S.resolve t ≠ .var i
  /-- It does not fail in another way, and a failure leaves the store as it was. -/
  error : ∀ e, x.1 = .error e → (∃ v, e = .occurs i v) ∧ x.2 = S
  same : x.1 = .ok () → S.resolve t = .var i → x.2 = S
  bound : x.1 = .ok () → S.resolve t ≠ .var i → ∃ j v, S.lookup? j = none ∧ x.2 = S.bind j v

section

variable {a b : MonoTy} (hS : S.Acyclic) (hi : S.lookup? i = none) (hsides : CellSides i t a b)

include hS hi hsides

theorem Unifies.endsAtCell (h : Unifies S a b S')
    (hsame : S.resolve t = .var i → S' = S) : S.EndsAtCell i t (.ok (), S') := by
  have hS' := h.acyclic hS
  obtain ⟨hρ, hequal⟩ := (h.respects_iff _).mp hS'.respects_resolved
  rw [hsides.assign_eq_iff] at hequal
  constructor
  · constructor
    · rintro ⟨v, hv⟩
      cases hv
    · rintro ⟨hmem, hne⟩
      exact absurd hequal (hS.assign_ne_of_mem_cells hρ hmem hne)
  · intro e he
    cases he
  · intro _ hvar
    exact hsame hvar
  · intro _ hne
    rcases h.eq_or_bind hi hsides.side with rfl | hbind
    · exact absurd ((hsides.resolve_eq_iff hS hi).mp (h.resolve_eq hS')) hne
    · exact hbind

theorem Refuses.endsAtCell {e : UnifyFailure} (h : Refuses S a b e S')
    (hp : S.All MonoTy.Proper) (ht : t.Proper) (hne : S.resolve t ≠ .var i) :
    S.EndsAtCell i t (.error e, S') := by
  obtain ⟨ha, hb⟩ := hsides.proper ht
  obtain ⟨⟨v, rfl⟩, rfl⟩ := h.occurs_of_side hp ha hb hi hsides.side
  have hmeets : S'.Meets t i := by
    by_contra hit
    obtain ⟨ρ, hρ, heq⟩ := hS.exists_assign_eq hi hit
    exact h.assign_ne hS hp ha hb hρ ((hsides.assign_eq_iff ρ).mpr heq)
  have hmem := (hS.mem_cells_resolve_iff hi).mpr hmeets
  constructor
  · exact ⟨fun _ => ⟨hmem, hne⟩, fun _ => ⟨v, rfl⟩⟩
  · intro e he
    obtain rfl := Except.error.inj he
    exact ⟨⟨v, rfl⟩, rfl⟩
  · intro hok
    cases hok
  · intro hok
    cases hok

theorem Acyclic.endsAtCell (hp : S.All MonoTy.Proper) (ht : t.Proper) :
    S.EndsAtCell i t (S.run (unify a b)) := by
  -- if the type comes to the cell, there is nothing to do
  have hsame : S.resolve t = .var i → S.run (unify a b) = (.ok (), S) := by
    intro hvar
    have heq := (hsides.resolve_eq_iff hS hi).mpr hvar
    exact hS.run_unify_of_resolve_eq (hS.proper_resolve hp (hsides.proper ht).1) heq
  rcases hS.ends_unify a b with ⟨S', hx, h⟩ | ⟨e, S', hx, h⟩
  · rw [hx] at hsame ⊢
    exact h.endsAtCell hS hi hsides fun hvar => (Prod.mk.inj (hsame hvar)).2
  · rw [hx] at hsame ⊢
    refine h.endsAtCell hS hi hsides hp ht fun hvar => ?_
    cases (Prod.mk.inj (hsame hvar)).1

end

/--
**Making an unbound cell equal to a type fails exactly on infinite types**, whichever side it is on.
The failure is that of the occurs check, for that cell, and it comes if the cell is in what the
type resolves to without being all of it.  Then nothing has been written.  In success nothing
is written either if the type resolves to the cell, and otherwise one binding, of a cell that was
unbound.
-/
theorem unify_unbound_cell (hS : S.Acyclic) (hp : S.All MonoTy.Proper) (hi : S.lookup? i = none)
    (ht : t.Proper) :
    ∀ c ∈ [Call.unify (.var i) t, .unify t (.var i), .unifyVar i t],
      S.EndsAtCell i t (S.run c.run) := by
  simp only [List.forall_mem_cons, List.not_mem_nil, false_imp_iff, implies_true, and_true]
  have hleft : S.EndsAtCell i t (S.run (unify (.var i) t)) :=
    hS.endsAtCell hi (Or.inl ⟨rfl, rfl⟩) hp ht
  have hright : S.EndsAtCell i t (S.run (unify t (.var i))) :=
    hS.endsAtCell hi (Or.inr ⟨rfl, rfl⟩) hp ht
  exact ⟨hleft, hright, hleft⟩

/--
Cell 3 leads to an arrow that hides the unbound cell behind a further binding, and cell 1 leads to
the unbound cell itself.
-/
theorem unify_unbound_cell_hidden :
    let S : Store := { trail := [(3, .var 2), (2, .arrow .int (.var 1)), (1, .var 0)] }
    (S.Acyclic ∧ S.All MonoTy.Proper ∧ S.lookup? 0 = none ∧ (MonoTy.var 3).Proper ∧
        (MonoTy.var 1).Proper) ∧
      (S.run (unify (.var 3) (.var 0))).1 = .error (.occurs 0 (.arrow .int (.var 1))) ∧
      (S.run (unify (.var 1) (.var 0))).1 = .ok () ∧
      (∀ c ∈ [Call.unify (.var 0) (.var 3), .unify (.var 3) (.var 0), .unifyVar 0 (.var 3)],
        S.EndsAtCell 0 (.var 3) (S.run c.run)) ∧
      ∀ c ∈ [Call.unify (.var 0) (.var 1), .unify (.var 1) (.var 0), .unifyVar 0 (.var 1)],
        S.EndsAtCell 0 (.var 1) (S.run c.run) := by
  intro S
  have hS : S.Acyclic := acyclic_of_rank (fun i => i) (by decide)
  have hp : S.All MonoTy.Proper := all_of_forall_mem (by decide)
  have hi : S.lookup? 0 = none := rfl
  have hwhole : (MonoTy.var 3).Proper := trivial
  have hcell : (MonoTy.var 1).Proper := trivial
  exact ⟨⟨hS, hp, hi, hwhole, hcell⟩, rfl, rfl, unify_unbound_cell hS hp hi hwhole,
    unify_unbound_cell hS hp hi hcell⟩

end TypedLambda.Store
