/-
What a call of the unifier leaves alone.

A call that fails is not undone, so whoever goes on from the store it leaves has to know what
may be different in it.  A cell that was bound keeps its binding.  A cell that was unbound may
have been bound only if it can be met from one of the two types, by following arrows and the
bindings that were there before the call.  All other cells, and what cells show, are as they
were.

The run itself does not look at what is met from the types it started with.  It dereferences
them, swaps them, and goes on with parts of what it finds, in stores that it has already
changed.  But every type that comes up on the way meets only what the first two do, and that is
a property which arrows pass to their parts and cells to their bindings, so `Grows` carries it
to every cell that is bound.

What two types have in common is not lost either.  Resolving in the later store is resolving in
the earlier one, followed by an assignment to the cells that were left; of two types that
resolved alike the assignment makes the same type.
-/
import TypedLambda.Proofs.Unify.Solutions

namespace TypedLambda.Store

variable {S S' : Store} {P : MonoTy → Prop} {t u v w : MonoTy}

/-! ### Cells of a store that has grown -/

theorem Grows.lookup?_of_bound (h : Grows P S S') {i : Nat} (hi : S.lookup? i = some v) :
    S'.lookup? i = some v := by
  induction h with
  | refl => exact hi
  | @bind _ j t _ hj _ _ _ ih =>
      have hij : i ≠ j := by
        rintro rfl
        rw [ih] at hj
        cases hj
      rw [lookup?_bind_of_ne _ t hij]
      exact ih

/-- A cell that is not as before was unbound, and is one of those that might be bound. -/
theorem Grows.of_lookup?_ne (h : Grows P S S') {i : Nat} (hi : S'.lookup? i ≠ S.lookup? i) :
    S.lookup? i = none ∧ P (.var i) := by
  induction h with
  | refl => exact absurd rfl hi
  | @bind S' j t h hj _ hvar _ ih =>
      by_cases hij : i = j
      · subst hij
        refine ⟨?_, hvar⟩
        cases hbound : S.lookup? i with
        | none => rfl
        | some v =>
            rw [h.lookup?_of_bound hbound] at hj
            cases hj
      · rw [lookup?_bind_of_ne S' t hij] at hi
        exact ih hi

/-- Bindings come in front of those that were there, and nothing else is written. -/
theorem Grows.exists_trail (h : Grows P S S') :
    ∃ newer, S' = { S with trail := newer ++ S.trail } := by
  induction h with
  | refl => exact ⟨[], rfl⟩
  | @bind S' i t _ _ _ _ _ ih =>
      obtain ⟨newer, rfl⟩ := ih
      exact ⟨(i, t) :: newer, rfl⟩

/-! ### Resolving in a store that has grown -/

theorem Grows.respects (h : Grows P S S') {ρ : Nat → MonoTy} (hρ : S'.Respects ρ) :
    S.Respects ρ := by
  intro i v hi
  exact hρ i v (h.lookup?_of_bound hi)

/-- To resolve in the later store is to resolve in the earlier one, and then what is left. -/
theorem Grows.assign_resolve (h : Grows P S S') (hS : S.Acyclic) (v : MonoTy) :
    (S.resolve v).assign S'.resolved = S'.resolve v := by
  have hS' := h.acyclic hS
  rw [hS.assign_resolve (h.respects hS'.respects_resolved), hS'.assign_resolved]

theorem Grows.resolve_eq (h : Grows P S S') (hS : S.Acyclic) (heq : S.resolve v = S.resolve w) :
    S'.resolve v = S'.resolve w := by
  rw [← h.assign_resolve hS v, ← h.assign_resolve hS w, heq]

/-! ### Types that lead nowhere else -/

/-- Everything that is met from a type is met from one of two others. -/
def MeetsWithin (S : Store) (t u v : MonoTy) : Prop :=
  ∀ i, S.Meets v i → S.Meets t i ∨ S.Meets u i

theorem hereditary_meetsWithin (S : Store) (t u : MonoTy) :
    MonoTy.Hereditary (S.MeetsWithin t u) := by
  intro a r h
  constructor
  · intro i hi
    exact h i (.arg r hi)
  · intro i hi
    exact h i (.ret a hi)

theorem keeps_meetsWithin (S : Store) (t u : MonoTy) : S.Keeps (S.MeetsWithin t u) := by
  intro j v h hj i hi
  exact h i (.follow hj hi)

/-! ### One call -/

/--
What a call on `t` and `u` may have done to the store: it has bound cells that were unbound and
are met from one of the two, and nothing else.
-/
structure AddsOnly (S : Store) (t u : MonoTy) (S' : Store) : Prop where
  /-- A bound cell has the binding it had. -/
  bound : ∀ i v, S.lookup? i = some v → S'.lookup? i = some v
  changed : ∀ i, S'.lookup? i ≠ S.lookup? i →
    S.lookup? i = none ∧ (S.Meets t i ∨ S.Meets u i)
  untouched : ∀ i, ¬ S.Meets t i → ¬ S.Meets u i → S'.lookup? i = S.lookup? i
  /-- Types that resolved alike still do. -/
  resolve : ∀ v w, S.resolve v = S.resolve w → S'.resolve v = S'.resolve w
  trail : ∃ newer, S' = { S with trail := newer ++ S.trail }

theorem Grows.addsOnly (h : Grows (S.MeetsWithin t u) S S') (hS : S.Acyclic) :
    S.AddsOnly t u S' := by
  have hchanged : ∀ i, S'.lookup? i ≠ S.lookup? i →
      S.lookup? i = none ∧ (S.Meets t i ∨ S.Meets u i) := by
    intro i hi
    obtain ⟨hnone, hvar⟩ := h.of_lookup?_ne hi
    exact ⟨hnone, hvar i (.here i)⟩
  refine ⟨fun i v hi => h.lookup?_of_bound hi, hchanged, ?_, ?_, h.exists_trail⟩
  · intro i ht hu
    by_contra hi
    exact (hchanged i hi).2.elim ht hu
  · intro v w heq
    exact h.resolve_eq hS heq

/-- A run binds nothing but cells that are met from its two types. -/
theorem Acyclic.grows_run (hS : S.Acyclic) (c : Call) :
    Grows (S.MeetsWithin c.sides.1 c.sides.2) S (S.run c.run).2 := by
  rw [c.run_eq_unify]
  exact hS.grows_unify (S.hereditary_meetsWithin _ _) (S.keeps_meetsWithin _ _)
    (fun _ => Or.inl) (fun _ => Or.inr)

/--
**A call binds only unbound cells that can be met from its two types**, whether it succeeds or
fails part-way.  Every bound cell keeps its binding, every cell that cannot be met stays as it
was, and types that resolved alike before the call resolve alike after it.
-/
theorem call_addsOnly (hS : S.Acyclic) (c : Call) :
    S.AddsOnly c.sides.1 c.sides.2 (S.run c.run).2 :=
  (hS.grows_run c).addsOnly hS

/--
The call fails in the last place, after it has bound cell 3, and cell 1, which it reaches through
the binding of cell 0.
-/
theorem call_addsOnly_failing :
    let S : Store := { trail := [(5, .var 4), (0, .arrow (.var 1) .int)] }
    let c : Call := .unify (.arrow (.var 0) (.arrow (.var 3) .int))
      (.arrow (.arrow .bool .int) (.arrow (.var 4) .bool))
    let S' := (S.run c.run).2
    S.Acyclic ∧ (S.run c.run).1 ≠ .ok () ∧
      S'.trail = [(3, .var 4), (1, .bool), (5, .var 4), (0, .arrow (.var 1) .int)] ∧
      S.AddsOnly c.sides.1 c.sides.2 S' := by
  intro S c S'
  have hS : S.Acyclic := acyclic_of_rank (fun i => if i = 1 ∨ i = 4 then 0 else 1) (by decide)
  exact ⟨hS, by decide, rfl, call_addsOnly hS c⟩

/-! ### Any number of calls -/

/-- Types that resolve alike go on doing so, over any number of calls. -/
theorem Acyclic.resolve_runCalls (hS : S.Acyclic) (calls : List Call)
    (heq : S.resolve v = S.resolve w) :
    (S.runCalls calls).2.resolve v = (S.runCalls calls).2.resolve w := by
  induction calls generalizing S with
  | nil => exact heq
  | cons c calls ih =>
      have hgrows := hS.grows_run c
      exact ih (hgrows.acyclic hS) (hgrows.resolve_eq hS heq)

end TypedLambda.Store
