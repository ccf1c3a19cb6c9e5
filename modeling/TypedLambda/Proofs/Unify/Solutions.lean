/-
Unification solves the equation of its two types, and forces nothing else.

An assignment gives every cell a type, and it respects a store if it gives each bound cell what it
gives its binding.  A solution is one that respects the store with finite types in which
no cell is left.

The rules say what a run does to the assignments that respect its store.  A rule that ends in
success keeps those that make the two types equal and loses no other: a binding is the very
equation it stands for, and the result sides of two arrows are compared in the store that has
the equation of the argument sides in it.  A rule that ends in failure shows that there are
none: the shapes differ, or a cell would have to be as large as a type it is a proper part of.
Neither needs the assigned types to be without cells.  That is of use at the end, because
resolving in the final store is itself an assignment that respects it.
-/
import TypedLambda.Proofs.Unify.Calls

namespace TypedLambda

/-! ### Assignments -/

namespace MonoTy

/-- A finite type in which no cell is left. -/
def Ground : MonoTy → Prop
  | arrow a r => a.Ground ∧ r.Ground
  | int | bool => True
  | var _ | stray _ => False

/-- The type with each cell replaced by what it is assigned. -/
def assign (ρ : Nat → MonoTy) : MonoTy → MonoTy
  | var i => ρ i
  | arrow a r => arrow (a.assign ρ) (r.assign ρ)
  | t => t

variable {ρ : Nat → MonoTy}

theorem assign_assign (σ : Nat → MonoTy) (t : MonoTy) :
    (t.assign ρ).assign σ = t.assign fun i => (ρ i).assign σ := by
  induction t with
  | int | bool | stray | var => rfl
  | arrow a r iha ihr => rw [assign, assign, assign, iha, ihr]

theorem ground_assign (hρ : ∀ i, (ρ i).Ground) {t : MonoTy} (ht : t.Proper) :
    (t.assign ρ).Ground := by
  induction t with
  | int | bool => trivial
  | stray s => exact ht.elim
  | var i => exact hρ i
  | arrow a r iha ihr => exact ⟨iha ht.1, ihr ht.2⟩

theorem proper_assign {t : MonoTy} (ht : t.Proper) (hρ : ∀ i ∈ t.cells, (ρ i).Proper) :
    (t.assign ρ).Proper := by
  induction t with
  | int | bool => trivial
  | stray s => exact ht.elim
  | var i => exact hρ i (by simp [cells])
  | arrow a r iha ihr =>
      simp only [cells, List.mem_append] at hρ
      exact ⟨iha ht.1 fun i hi => hρ i (Or.inl hi), ihr ht.2 fun i hi => hρ i (Or.inr hi)⟩

/-- An assignment takes no stray text away. -/
theorem proper_of_assign {t : MonoTy} (h : (t.assign ρ).Proper) : t.Proper := by
  induction t with
  | int | bool | var => trivial
  | stray s => exact h.elim
  | arrow a r iha ihr => exact ⟨iha h.1, ihr h.2⟩

/-- Types of different shapes stay different whatever their cells are assigned. -/
theorem Clashes.assign_ne {t u : MonoTy} (h : t.Clashes u) (ht : t.Proper) :
    t.assign ρ ≠ u.assign ρ := by
  intro heq
  cases t with
  | var i => cases u <;> exact h.elim
  | stray s => exact ht.elim
  | int =>
      cases u with
      | int | var => exact h.elim
      | bool | arrow | stray => cases heq
  | bool =>
      cases u with
      | bool | var => exact h.elim
      | int | arrow | stray => cases heq
  | arrow a r =>
      cases u with
      | arrow | var => exact h.elim
      | int | bool | stray => cases heq

end MonoTy

namespace Store

/-- Each bound cell is assigned what its binding is. -/
def Respects (ρ : Nat → MonoTy) (S : Store) : Prop :=
  ∀ i u, S.lookup? i = some u → ρ i = u.assign ρ

/-- Every cell is assigned a finite type without cells, a bound one that of its binding. -/
structure Solution (S : Store) (ρ : Nat → MonoTy) : Prop where
  ground : ∀ i, (ρ i).Ground
  respects : S.Respects ρ

variable {S S' : Store} {ρ : Nat → MonoTy} {t u : MonoTy}

/-- A binding is the equation it stands for. -/
theorem respects_bind {i : Nat} (hi : S.lookup? i = none) :
    (S.bind i t).Respects ρ ↔ S.Respects ρ ∧ ρ i = t.assign ρ := by
  constructor
  · intro h
    refine ⟨?_, h i t (lookup?_bind_self S i t)⟩
    intro j u hj
    have hji : j ≠ i := by
      rintro rfl
      rw [hi] at hj
      cases hj
    exact h j u ((lookup?_bind_of_ne S t hji).trans hj)
  · rintro ⟨h, hit⟩ j u hj
    by_cases hji : j = i
    · rw [hji, lookup?_bind_self] at hj
      obtain rfl := Option.some.inj hj
      rw [hji, hit]
    · rw [lookup?_bind_of_ne S t hji] at hj
      exact h j u hj

/-- A cell is assigned no more than a type in which it is met. -/
theorem Meets.size_assign_le {i : Nat} (h : S.Meets t i) (hρ : S.Respects ρ) :
    (ρ i).size ≤ (t.assign ρ).size := by
  induction h with
  | here i => exact Nat.le_refl _
  | arg r _ ih =>
      rw [MonoTy.assign, MonoTy.size]
      omega
  | ret a _ ih =>
      rw [MonoTy.assign, MonoTy.size]
      omega
  | @follow j i u hj _ ih =>
      rw [MonoTy.assign, hρ j u hj]
      exact ih

/-- Only an infinite type would be equal to one it is a proper part of. -/
theorem Meets.assign_ne {i : Nat} (h : S.Meets t i) (ht : ∀ j, t ≠ .var j)
    (hρ : S.Respects ρ) : ρ i ≠ t.assign ρ := by
  intro heq
  cases h with
  | here => exact ht i rfl
  | follow => exact ht _ rfl
  | arg r h | ret a h =>
      have hle := h.size_assign_le hρ
      rw [heq, MonoTy.assign, MonoTy.size] at hle
      omega

/-! ### What the rules do to assignments -/

/-- **The assignments that are left are those that make the two types equal.** -/
theorem Unifies.respects_iff (h : Unifies S t u S') (ρ : Nat → MonoTy) :
    S'.Respects ρ ↔ S.Respects ρ ∧ t.assign ρ = u.assign ρ := by
  induction h with
  | int | bool | same => exact (and_iff_left rfl).symm
  | link hi => exact respects_bind hi
  | bind hi => exact respects_bind hi
  | left hi _ ih =>
      rw [ih]
      refine and_congr_right fun hρ => ?_
      rw [← hρ _ _ hi, MonoTy.assign]
  | right _ hj _ ih =>
      rw [ih]
      refine and_congr_right fun hρ => ?_
      rw [← hρ _ _ hj, MonoTy.assign, MonoTy.assign]
  | swap _ _ ih => rw [ih, eq_comm]
  | arrow _ _ iha ihr => rw [ihr, iha, and_assoc, MonoTy.assign, MonoTy.assign, MonoTy.arrow.injEq]

/-! ### Resolving is an assignment

It respects the store, and what it leaves is all that an assignment that respects the store has
yet to decide.
-/

/-- What each cell resolves to. -/
def resolved (S : Store) (i : Nat) : MonoTy :=
  S.resolve (.var i)

namespace Acyclic

variable (hS : S.Acyclic)

include hS

/-- To resolve a type is to assign each cell what it resolves to. -/
theorem assign_resolved (t : MonoTy) : t.assign S.resolved = S.resolve t := by
  induction t with
  | int => exact hS.resolve_int.symm
  | bool => exact hS.resolve_bool.symm
  | stray s => exact (hS.resolve_stray s).symm
  | var i => rfl
  | arrow a r iha ihr => rw [MonoTy.assign, iha, ihr, hS.resolve_arrow]

theorem respects_resolved : S.Respects S.resolved := by
  intro i u hi
  rw [hS.assign_resolved, resolved, hS.resolve_of_bound hi]

/-- Resolving first changes nothing about what is assigned. -/
theorem assign_resolve (hρ : S.Respects ρ) (t : MonoTy) :
    (S.resolve t).assign ρ = t.assign ρ := by
  induction t using hS.resolve_induction with
  | resolved t h => rw [h]
  | bound i u hi ih => rw [hS.resolve_of_bound hi, ih, MonoTy.assign, hρ i u hi]
  | arrow a r iha ihr => rw [hS.resolve_arrow, MonoTy.assign, MonoTy.assign, iha, ihr]

/-- The cells that are left after resolving may be assigned anything. -/
theorem exists_solution (hp : S.All MonoTy.Proper) : ∃ ρ, S.Solution ρ := by
  refine ⟨fun i => (S.resolved i).assign fun _ => .int, ?_, ?_⟩
  · intro i
    have hint : ∀ _ : Nat, MonoTy.int.Ground := fun _ => trivial
    exact MonoTy.ground_assign hint (hS.proper_resolve hp trivial)
  · intro i u hi
    show (S.resolved i).assign (fun _ => .int) = _
    rw [← MonoTy.assign_assign, hS.respects_resolved i u hi]

end Acyclic

/-- Resolving respects the store that a run leaves, so it makes the two types equal. -/
theorem Unifies.resolve_eq (h : Unifies S t u S') (hS' : S'.Acyclic) :
    S'.resolve t = S'.resolve u := by
  obtain ⟨-, heq⟩ := (h.respects_iff S'.resolved).mp hS'.respects_resolved
  rwa [hS'.assign_resolved, hS'.assign_resolved] at heq

/-! ### Stray texts

A cell may be bound to a stray text, or to a type with one in it.  The unifier refuses a stray
text wherever it comes upon it.  So two types that were made equal resolve without one, and
what resolved without one before the run still does.
-/

theorem Unifies.acyclic (h : Unifies S t u S') (hS : S.Acyclic) : S'.Acyclic := by
  have hgrows : Grows (fun _ => True) S S' :=
    h.grows (fun _ _ _ => ⟨trivial, trivial⟩) hS (fun _ _ _ => trivial) trivial trivial
  exact hgrows.acyclic hS

theorem Acyclic.proper_resolve_bind (hS : S.Acyclic) {i : Nat} (hi : S.lookup? i = none)
    (hit : ¬ S.Meets t i) (ht : (S.resolve t).Proper) {v : MonoTy} (hv : (S.resolve v).Proper) :
    ((S.bind i t).resolve v).Proper := by
  have hS' : (S.bind i t).Acyclic := hS.bind hit
  have hrespects : S.Respects (S.bind i t).resolved :=
    ((respects_bind hi).mp hS'.respects_resolved).1
  have hother : ∀ k, S.lookup? k = none → k ≠ i → ((S.bind i t).resolved k).Proper := by
    intro k hk hki
    rw [resolved, hS'.resolve_of_unbound ((lookup?_bind_of_ne S t hki).trans hk)]
    trivial
  have hself : ((S.bind i t).resolved i).Proper := by
    rw [resolved, hS'.resolve_of_bound (lookup?_bind_self S i t), ← hS'.assign_resolved,
      ← hS.assign_resolve hrespects]
    refine MonoTy.proper_assign ht fun k hk => ?_
    obtain ⟨hunbound, hmet⟩ := hS.of_mem_cells_resolve hk
    refine hother k hunbound ?_
    rintro rfl
    exact hit hmet
  rw [← hS'.assign_resolved, ← hS.assign_resolve hrespects]
  refine MonoTy.proper_assign hv fun k hk => ?_
  by_cases hki : k = i
  · exact hki ▸ hself
  · exact hother k (hS.of_mem_cells_resolve hk).1 hki

/-- What was made equal has no stray text in it, and none has come up anywhere else. -/
theorem Unifies.proper_resolve (h : Unifies S t u S') (hS : S.Acyclic) :
    (S'.resolve t).Proper ∧ ∀ v, (S.resolve v).Proper → (S'.resolve v).Proper := by
  induction h with
  | int => exact ⟨by rw [hS.resolve_int]; trivial, fun _ hv => hv⟩
  | bool => exact ⟨by rw [hS.resolve_bool]; trivial, fun _ hv => hv⟩
  | same hi => exact ⟨by rw [hS.resolve_of_unbound hi]; trivial, fun _ hv => hv⟩
  | @link S i j hi hj hij =>
      have hmeets : ¬ S.Meets (.var j) i := fun h => hij ((meets_var_of_unbound hj).mp h)
      have hproper : (S.resolve (.var j)).Proper := by rw [hS.resolve_of_unbound hj]; trivial
      have hkeeps : ∀ v, (S.resolve v).Proper → ((S.bind i (.var j)).resolve v).Proper :=
        fun _ => hS.proper_resolve_bind hi hmeets hproper
      exact ⟨hkeeps (.var i) (by rw [hS.resolve_of_unbound hi]; trivial), hkeeps⟩
  | @bind S i u hi _ hocc =>
      have hmeets : ¬ S.Meets u i := fun h => by
        simpa using (hS.meets_iff_of_occurs hocc).mpr h
      have hproper : (S.resolve u).Proper := hS.proper_resolve_of_occurs hocc
      have hkeeps : ∀ v, (S.resolve v).Proper → ((S.bind i u).resolve v).Proper :=
        fun _ => hS.proper_resolve_bind hi hmeets hproper
      exact ⟨hkeeps (.var i) (by rw [hS.resolve_of_unbound hi]; trivial), hkeeps⟩
  | @left S S' i t u hi h ih =>
      obtain ⟨ht, hkeeps⟩ := ih hS
      have hS' := h.acyclic hS
      obtain ⟨hrespects, -⟩ := (h.respects_iff S'.resolved).mp hS'.respects_resolved
      refine ⟨?_, hkeeps⟩
      rwa [← hS'.assign_resolved, MonoTy.assign, hrespects i t hi, hS'.assign_resolved]
  | right _ _ _ ih => exact ih hS
  | swap _ h ih =>
      obtain ⟨ht, hkeeps⟩ := ih hS
      exact ⟨h.resolve_eq (h.acyclic hS) ▸ ht, hkeeps⟩
  | arrow ha hr iha ihr =>
      have hS₁ := ha.acyclic hS
      obtain ⟨harg, hkeepsa⟩ := iha hS
      obtain ⟨hret, hkeepsr⟩ := ihr hS₁
      refine ⟨?_, fun v hv => hkeepsr v (hkeepsa v hv)⟩
      rw [(hr.acyclic hS₁).resolve_arrow]
      exact ⟨hkeepsr _ harg, hret⟩

/-! ### What is refused has no solution -/

theorem Refuses.assign_ne_of_resolve {e : UnifyFailure} (h : Refuses S t u e S') (hS : S.Acyclic)
    (ht : (S.resolve t).Proper) (hu : (S.resolve u).Proper) (hρ : S.Respects ρ) :
    t.assign ρ ≠ u.assign ρ := by
  induction h with
  | clash S h =>
      rw [← hS.assign_resolved] at ht
      exact h.assign_ne (MonoTy.proper_of_assign ht)
  | occurs _ hvar hocc => exact ((hS.meets_iff_of_occurs hocc).mp rfl).assign_ne hvar hρ
  | unknown _ _ hocc =>
      obtain ⟨b, hb⟩ := hS.exists_occurs_of_resolve _ hu
      rw [hocc] at hb
      cases hb
  | left hi _ ih =>
      rw [hS.resolve_of_bound hi] at ht
      rw [MonoTy.assign, hρ _ _ hi]
      exact ih hS ht hu hρ
  | @right _ _ _ j _ _ _ hj _ ih =>
      rw [hS.resolve_of_bound hj] at hu
      have hne := ih hS ht hu hρ
      rwa [← hρ _ _ hj] at hne
  | swap _ _ ih => exact (ih hS hu ht hρ).symm
  | arg r r' _ ih =>
      rw [hS.resolve_arrow] at ht hu
      intro heq
      exact ih hS ht.1 hu.1 hρ (MonoTy.arrow.inj heq).1
  | ret ha _ ih =>
      rw [hS.resolve_arrow] at ht hu
      intro heq
      obtain ⟨harg, hret⟩ := MonoTy.arrow.inj heq
      obtain ⟨-, hkeeps⟩ := ha.proper_resolve hS
      have hρ₁ := (ha.respects_iff ρ).mpr ⟨hρ, harg⟩
      exact ih (ha.acyclic hS) (hkeeps _ ht.2) (hkeeps _ hu.2) hρ₁ hret

/-- **No assignment makes two types equal that are refused.** -/
theorem Refuses.assign_ne {e : UnifyFailure} (h : Refuses S t u e S') (hS : S.Acyclic)
    (hp : S.All MonoTy.Proper) (ht : t.Proper) (hu : u.Proper) (hρ : S.Respects ρ) :
    t.assign ρ ≠ u.assign ρ :=
  h.assign_ne_of_resolve hS (hS.proper_resolve hp ht) (hS.proper_resolve hp hu) hρ

/-! ### Soundness, completeness and generality -/

theorem Unifies.solution_iff (h : Unifies S t u S') (ρ : Nat → MonoTy) :
    S'.Solution ρ ↔ S.Solution ρ ∧ t.assign ρ = u.assign ρ := by
  constructor
  · intro hρ
    obtain ⟨hrespects, heq⟩ := (h.respects_iff ρ).mp hρ.respects
    exact ⟨⟨hρ.ground, hrespects⟩, heq⟩
  · rintro ⟨hρ, heq⟩
    exact ⟨hρ.ground, (h.respects_iff ρ).mpr ⟨hρ.respects, heq⟩⟩

/--
**Unification is sound, complete and most general.**  It succeeds exactly if some solution of the
store makes the two types equal.  Then the types resolve to the same, and the solutions
of the store it leaves are those that make them equal.  Otherwise it refuses the types, and none
does.
-/
theorem unify_mostGeneral (hS : S.Acyclic) (hp : S.All MonoTy.Proper) (ht : t.Proper)
    (hu : u.Proper) :
    ((S.run (unify t u)).1 = .ok () ↔ ∃ ρ, S.Solution ρ ∧ t.assign ρ = u.assign ρ) ∧
      ((S.run (unify t u)).1 = .ok () →
        (S.run (unify t u)).2.resolve t = (S.run (unify t u)).2.resolve u ∧
          ∀ ρ, (S.run (unify t u)).2.Solution ρ ↔ S.Solution ρ ∧ t.assign ρ = u.assign ρ) ∧
      ∀ e, (S.run (unify t u)).1 = .error e →
        e.IsRefusal ∧ ∀ ρ, S.Solution ρ → t.assign ρ ≠ u.assign ρ := by
  rcases hS.ends_unify t u with ⟨S', hx, h⟩ | ⟨e, S', hx, h⟩
  · have hgrows := h.grows MonoTy.hereditary_proper hS hp ht hu
    have hS' := hgrows.acyclic hS
    obtain ⟨ρ, hρ⟩ := hS'.exists_solution (hgrows.all hp)
    have hequal : ∃ ρ, S.Solution ρ ∧ t.assign ρ = u.assign ρ :=
      ⟨ρ, (h.solution_iff ρ).mp hρ⟩
    rw [hx]
    refine ⟨⟨fun _ => hequal, fun _ => rfl⟩, ?_, ?_⟩
    · intro _
      exact ⟨h.resolve_eq hS', h.solution_iff⟩
    · intro f hf
      cases hf
  · have hne : ∀ ρ, S.Solution ρ → t.assign ρ ≠ u.assign ρ := by
      intro ρ hρ
      exact h.assign_ne hS hp ht hu hρ.respects
    rw [hx]
    refine ⟨⟨?_, ?_⟩, ?_, ?_⟩
    · intro hok
      cases hok
    · rintro ⟨ρ, hρ, heq⟩
      exact absurd heq (hne ρ hρ)
    · intro hok
      cases hok
    · intro f hf
      obtain rfl := Except.error.inj hf
      exact ⟨h.isRefusal hS hp ht hu, hne⟩

/-- Cell 0 is bound and stands on both sides; the argument sides bind what it leads to. -/
theorem unify_mostGeneral_shared :
    let S : Store := { trail := [(0, .arrow (.var 1) .int)] }
    let t := MonoTy.arrow (.var 0) (.var 2)
    let u := MonoTy.arrow (.arrow .bool (.var 3)) (.var 0)
    (S.Acyclic ∧ S.All MonoTy.Proper ∧ t.Proper ∧ u.Proper) ∧
      (∃ ρ, S.Solution ρ ∧ t.assign ρ = u.assign ρ) ∧
      (S.run (unify t u)).2.resolve t = (S.run (unify t u)).2.resolve u ∧
      ∀ ρ, (S.run (unify t u)).2.Solution ρ ↔ S.Solution ρ ∧ t.assign ρ = u.assign ρ := by
  intro S t u
  have hS : S.Acyclic := acyclic_of_rank (1 - ·) (by decide)
  have hp : S.All MonoTy.Proper := all_of_forall_mem (by decide)
  have ht : t.Proper := by decide
  have hu : u.Proper := by decide
  obtain ⟨hiff, hok, -⟩ := unify_mostGeneral hS hp ht hu
  have hrun : (S.run (unify t u)).1 = .ok () := rfl
  exact ⟨⟨hS, hp, ht, hu⟩, hiff.mp hrun, hok hrun⟩

end Store

end TypedLambda
