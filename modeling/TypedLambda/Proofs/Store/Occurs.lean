/-
The occurs check sees what resolving would.

The check stops at the first sight of its cell and builds nothing, and resolving rebuilds the whole
type.  Both follow the same arrows and bindings, and both are related to the cells that are met
on the way: an unbound cell is left standing where it is met, and a bound one gives way to what it
is bound to, whose unbound cells are then met as well.

Resolving looks at no part of a type twice.  A part may be resolved beforehand, and any number of
parts at once; the whole type is only the largest of them.
-/
import TypedLambda.Proofs.Unify.UnboundCell

namespace TypedLambda.Store

variable {S : Store} {i : Nat} {t u : MonoTy}

/-! ### Resolved parts -/

/-- `u` is `t` with some of its parts resolved, each by itself. -/
inductive PartsResolved (S : Store) : MonoTy → MonoTy → Prop where
  | part (t : MonoTy) : PartsResolved S t (S.resolve t)
  | kept (t : MonoTy) : PartsResolved S t t
  | arrow {a a' r r' : MonoTy} (ha : PartsResolved S a a') (hr : PartsResolved S r r') :
      PartsResolved S (.arrow a r) (.arrow a' r')

/-- Nothing is left for a second time. -/
theorem Acyclic.resolve_resolve (hS : S.Acyclic) (t : MonoTy) :
    S.resolve (S.resolve t) = S.resolve t := by
  induction t using hS.resolve_induction with
  | resolved t h => rw [h, h]
  | bound i u hi ih => rw [hS.resolve_of_bound hi, ih]
  | arrow a r iha ihr => rw [hS.resolve_arrow, hS.resolve_arrow, iha, ihr]

theorem PartsResolved.resolve_eq (hS : S.Acyclic) (h : S.PartsResolved t u) :
    S.resolve u = S.resolve t := by
  induction h with
  | part t => exact hS.resolve_resolve t
  | kept t => rfl
  | arrow _ _ iha ihr => rw [hS.resolve_arrow, hS.resolve_arrow, iha, ihr]

/-! ### What is met -/

/-- Of what a cell resolves to, nothing gets lost where the cell is met. -/
theorem Acyclic.cells_resolve_subset_of_meets (hS : S.Acyclic) (h : S.Meets t i) :
    (S.resolve (.var i)).cells ⊆ (S.resolve t).cells := by
  intro j hj
  obtain ⟨hunbound, hij⟩ := hS.of_mem_cells_resolve hj
  exact (hS.mem_cells_resolve_iff hunbound).mpr (h.trans hij)

/--
**The occurs check and resolving agree.**  The check always has an answer.  An unbound cell is found
exactly if it is left in the resolved type, and a bound one exactly if it is met, in which case
the resolved type has every cell of what the bound one resolves to.  Resolving again changes
nothing, and neither does resolving parts first.

No stray text may be met from the type, which is to say that there is none in what it
resolves to.
-/
theorem occurs_agrees_with_resolve (hS : S.Acyclic) (ht : (S.resolve t).Proper) :
    (∀ i, S.lookup? i = none →
      ∃ b, S.occurs i t = .ok b ∧ (b = true ↔ i ∈ (S.resolve t).cells)) ∧
    (∀ i, S.lookup? i ≠ none →
      ∃ b, S.occurs i t = .ok b ∧ (b = true ↔ S.Meets t i) ∧
        (b = true → (S.resolve (.var i)).cells ⊆ (S.resolve t).cells)) ∧
    S.resolve (S.resolve t) = S.resolve t ∧
    ∀ u, S.PartsResolved t u → S.resolve u = S.resolve t := by
  refine ⟨?_, ?_, hS.resolve_resolve t, fun u hu => hu.resolve_eq hS⟩
  · intro i hi
    obtain ⟨b, hb⟩ := hS.exists_occurs_of_resolve i ht
    exact ⟨b, hb, (hS.meets_iff_of_occurs hb).trans (hS.mem_cells_resolve_iff hi).symm⟩
  · intro i _
    obtain ⟨b, hb⟩ := hS.exists_occurs_of_resolve i ht
    have hmeets := hS.meets_iff_of_occurs hb
    exact ⟨b, hb, hmeets, fun htrue => hS.cells_resolve_subset_of_meets (hmeets.mp htrue)⟩

/-- Cell 4 has cell 3 on both of its sides, and cell 3 leads to the unbound cell 0 by cell 1. -/
theorem occurs_agrees_with_resolve_shared :
    let S : Store :=
      { trail := [(4, .arrow (.var 3) (.var 3)), (3, .arrow (.var 1) .int), (1, .var 0)] }
    let t : MonoTy := .arrow (.var 4) (.var 2)
    (S.Acyclic ∧ (S.resolve t).Proper) ∧
      S.occurs 0 t = .ok true ∧ S.occurs 3 t = .ok true ∧ S.occurs 5 t = .ok false ∧
      ((∀ i, S.lookup? i = none →
        ∃ b, S.occurs i t = .ok b ∧ (b = true ↔ i ∈ (S.resolve t).cells)) ∧
      (∀ i, S.lookup? i ≠ none →
        ∃ b, S.occurs i t = .ok b ∧ (b = true ↔ S.Meets t i) ∧
          (b = true → (S.resolve (.var i)).cells ⊆ (S.resolve t).cells)) ∧
      S.resolve (S.resolve t) = S.resolve t ∧
      ∀ u, S.PartsResolved t u → S.resolve u = S.resolve t) := by
  intro S t
  have hS : S.Acyclic := acyclic_of_rank (fun i => i) (by decide)
  have ht : (S.resolve t).Proper := by decide
  exact ⟨⟨hS, ht⟩, by decide, by decide, by decide, occurs_agrees_with_resolve hS ht⟩

end TypedLambda.Store
