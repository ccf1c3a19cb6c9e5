/-
What a run of the unifier does to the store.

A run only ever binds unbound cells, each to a type in which it is not met.  `Grows P S S'`
says that `S'` comes about from `S` in this way; `P` is whatever is known of the cells and types
that are bound, and may be anything that passes from an arrow to its parts and from a cell to what
it is bound to, because a run only looks at parts of its two types and of what they lead to.

One binding of this kind keeps a store acyclic.  A path of the new store that goes through the
new binding is a path to the cell followed by one from the type, so a cycle through it would
have to lead from the type to the cell, where none leads; and a cycle that does not go
through it was there before.  The occurs check is what rules out the path when the type is no
cell.  When it is one, it is another unbound cell, from which nothing can be reached.

Nothing is undone when a run fails, and nothing has to be: the store of a failed run has grown
like that of any other.
-/
import TypedLambda.Proofs.Unify

namespace TypedLambda

/-- What holds of an arrow holds of its parts. -/
def MonoTy.Hereditary (P : MonoTy → Prop) : Prop :=
  ∀ a r, P (arrow a r) → P a ∧ P r

theorem MonoTy.hereditary_proper : Hereditary Proper := fun _ _ h => h

namespace Store

variable {S S' S'' : Store} {P : MonoTy → Prop}

/-- What holds of a cell holds of what it is bound to. -/
def Keeps (P : MonoTy → Prop) (S : Store) : Prop :=
  ∀ i u, P (.var i) → S.lookup? i = some u → P u

theorem All.keeps (h : S.All P) : S.Keeps P := fun i u _ hu => h i u hu

/-! ### One binding -/

/-- What a cell is bound to is the new binding or was its binding before. -/
theorem of_lookup?_bind {i j : Nat} {t u : MonoTy} (h : (S.bind i t).lookup? j = some u) :
    j = i ∧ u = t ∨ j ≠ i ∧ S.lookup? j = some u := by
  by_cases hj : j = i
  · rw [hj, lookup?_bind_self] at h
    exact Or.inl ⟨hj, (Option.some.inj h).symm⟩
  · rw [lookup?_bind_of_ne S t hj] at h
    exact Or.inr ⟨hj, h⟩

theorem All.bind (h : S.All P) {t : MonoTy} (ht : P t) (i : Nat) : (S.bind i t).All P := by
  intro j u hu
  rcases of_lookup?_bind hu with ⟨-, rfl⟩ | ⟨-, hu⟩
  · exact ht
  · exact h j u hu

theorem Keeps.bind (h : S.Keeps P) {t : MonoTy} (ht : P t) (i : Nat) : (S.bind i t).Keeps P := by
  intro j u hvar hu
  rcases of_lookup?_bind hu with ⟨-, rfl⟩ | ⟨-, hu⟩
  · exact ht
  · exact h j u hvar hu

/-- A path of the new store either was there before or goes through the new binding. -/
theorem meets_of_meets_bind {i k : Nat} {t u : MonoTy} (h : (S.bind i t).Meets u k) :
    S.Meets u k ∨ S.Meets u i ∧ S.Meets t k := by
  induction h with
  | here k => exact Or.inl (.here k)
  | arg r _ ih => exact ih.imp (.arg r) (And.imp_left (.arg r))
  | ret a _ ih => exact ih.imp (.ret a) (And.imp_left (.ret a))
  | @follow j k u hj _ ih =>
      rcases of_lookup?_bind hj with ⟨rfl, rfl⟩ | ⟨-, hj⟩
      · have htk : S.Meets u k := ih.elim id And.right
        exact Or.inr ⟨.here j, htk⟩
      · exact ih.imp (.follow hj) (And.imp_left (.follow hj))

/-- **A store stays acyclic when a cell is bound to a type in which it is not met.** -/
theorem Acyclic.bind (hS : S.Acyclic) {i : Nat} {t : MonoTy} (hit : ¬ S.Meets t i) :
    (S.bind i t).Acyclic := by
  intro j u hu hcycle
  rcases of_lookup?_bind hu with ⟨rfl, rfl⟩ | ⟨-, hu⟩
  · rcases meets_of_meets_bind hcycle with h | ⟨h, -⟩
    · exact hit h
    · exact hit h
  · rcases meets_of_meets_bind hcycle with h | ⟨hui, htj⟩
    · exact hS j u hu h
    · -- from the type to `j`, and from there to the cell
      exact hit (htj.trans (.follow hu hui))

/-! ### All bindings of a run -/

/-- Unbound cells were bound, one after another, each to a type in which it is not met. -/
inductive Grows (P : MonoTy → Prop) : Store → Store → Prop where
  | refl (S : Store) : Grows P S S
  | bind {S S' : Store} {i : Nat} {t : MonoTy} (h : Grows P S S') (hi : S'.lookup? i = none)
      (hit : ¬ S'.Meets t i) (hvar : P (.var i)) (ht : P t) : Grows P S (S'.bind i t)

theorem Grows.trans (h : Grows P S S') (h' : Grows P S' S'') : Grows P S S'' := by
  induction h' with
  | refl => exact h
  | bind _ hi hit hvar ht ih => exact .bind ih hi hit hvar ht

theorem Grows.acyclic (h : Grows P S S') (hS : S.Acyclic) : S'.Acyclic := by
  induction h with
  | refl => exact hS
  | bind _ _ hit _ _ ih => exact ih.bind hit

theorem Grows.all (h : Grows P S S') (hS : S.All P) : S'.All P := by
  induction h with
  | refl => exact hS
  | bind _ _ _ _ ht ih => exact ih.bind ht _

theorem Grows.keeps (h : Grows P S S') (hS : S.Keeps P) : S'.Keeps P := by
  induction h with
  | refl => exact hS
  | bind _ _ _ _ ht ih => exact ih.bind ht _

section

variable {t u : MonoTy} (hP : MonoTy.Hereditary P)

include hP

theorem Unifies.grows_of_keeps (h : Unifies S t u S') (hS : S.Acyclic) (hb : S.Keeps P) (ht : P t)
    (hu : P u) : Grows P S S' := by
  induction h with
  | int | bool | same => exact .refl _
  | link hi hj hij =>
      have hmeets : ¬ Meets _ (.var _) _ := fun h => hij ((meets_var_of_unbound hj).mp h)
      exact .bind (.refl _) hi hmeets ht hu
  | bind hi _ hocc =>
      have hmeets : ¬ Meets _ _ _ := fun h => by
        simpa using (hS.meets_iff_of_occurs hocc).mpr h
      exact .bind (.refl _) hi hmeets ht hu
  | left hi _ ih => exact ih hS hb (hb _ _ ht hi) hu
  | right _ hj _ ih => exact ih hS hb ht (hb _ _ hu hj)
  | swap _ _ ih => exact ih hS hb hu ht
  | arrow _ _ iha ihr =>
      obtain ⟨hta, htr⟩ := hP _ _ ht
      obtain ⟨hua, hur⟩ := hP _ _ hu
      have h₁ := iha hS hb hta hua
      exact h₁.trans (ihr (h₁.acyclic hS) (h₁.keeps hb) htr hur)

theorem Refuses.grows_of_keeps {e : UnifyFailure} (h : Refuses S t u e S') (hS : S.Acyclic)
    (hb : S.Keeps P) (ht : P t) (hu : P u) : Grows P S S' := by
  induction h with
  | clash | occurs | unknown => exact .refl _
  | left hi _ ih => exact ih hS hb (hb _ _ ht hi) hu
  | right _ hj _ ih => exact ih hS hb ht (hb _ _ hu hj)
  | swap _ _ ih => exact ih hS hb hu ht
  | arg r r' _ ih => exact ih hS hb (hP _ _ ht).1 (hP _ _ hu).1
  | ret ha _ ih =>
      obtain ⟨hta, htr⟩ := hP _ _ ht
      obtain ⟨hua, hur⟩ := hP _ _ hu
      have h₁ := ha.grows_of_keeps hP hS hb hta hua
      exact h₁.trans (ih (h₁.acyclic hS) (h₁.keeps hb) htr hur)

theorem Unifies.grows (h : Unifies S t u S') (hS : S.Acyclic) (hb : S.All P) (ht : P t)
    (hu : P u) : Grows P S S' :=
  h.grows_of_keeps hP hS hb.keeps ht hu

end

end Store

end TypedLambda
