/-
Solving several equations, in any order and either way round.

Other orders bind other cells: of two cells that are made equal the first is bound to the
second, and which comes first depends on what was solved before.  So the stores that two
arrangements of the same equations leave may differ in every binding, and runs that fail may
fail at different equations.

What does not depend on the arrangement is which assignments are left.  Solving a list succeeds
exactly if some assignment that respects the store satisfies all of its equations, and then
the assignments that respect the store it leaves are those, whatever the order was.  Two acyclic
stores that the same assignments respect resolve every type alike, up to the names of the
cells that are left: resolving in the one is an assignment that the other respects, so each
result is got from the other by assigning, and what can be undone by assigning is a renaming.

A stray text has no place in a solved equation, so an equation is taken to hold only if its
sides come to a type without one.
-/
import TypedLambda.Proofs.Unify.Solutions
import Mathlib.Data.Set.Function
import Mathlib.Data.List.Forall2

namespace TypedLambda

namespace MonoTy

/-- Every cell that the type mentions is one of `K`. -/
def Over (K : Set Nat) (t : MonoTy) : Prop := ∀ i ∈ t.cells, i ∈ K

theorem hereditary_over (K : Set Nat) : Hereditary (Over K) := by
  intro a r h
  simp only [Over, cells, List.mem_append] at h
  exact ⟨fun i hi => h i (Or.inl hi), fun i hi => h i (Or.inr hi)⟩

/-- The type with each cell replaced by another. -/
def rename (π : Nat → Nat) (t : MonoTy) : MonoTy := t.assign fun i => .var (π i)

theorem assign_congr {ρ σ : Nat → MonoTy} {t : MonoTy} (h : ∀ i ∈ t.cells, ρ i = σ i) :
    t.assign ρ = t.assign σ := by
  induction t with
  | int | bool | stray => rfl
  | var i => exact h i (by simp [cells])
  | arrow a r iha ihr =>
      simp only [cells, List.mem_append] at h
      rw [assign, assign, iha fun i hi => h i (Or.inl hi), ihr fun i hi => h i (Or.inr hi)]

end MonoTy

namespace Store

/-! ### Equations -/

/-- Two types that are to be made equal. -/
abbrev Equation := MonoTy × MonoTy

namespace Equation

/-- Both sides are assigned the same type, and there is no stray text in it. -/
def Holds (ρ : Nat → MonoTy) (e : Equation) : Prop :=
  e.1.assign ρ = e.2.assign ρ ∧ (e.1.assign ρ).Proper

theorem Holds.swap {ρ : Nat → MonoTy} {e : Equation} (h : e.Holds ρ) : Holds ρ e.swap := by
  obtain ⟨heq, hproper⟩ := h
  exact ⟨heq.symm, heq ▸ hproper⟩

/-- The cells of both sides are among `K`. -/
def Over (K : Set Nat) (e : Equation) : Prop := e.1.Over K ∧ e.2.Over K

end Equation

/-- The same equations in another order, some of them with their sides exchanged. -/
def Rearranged (eqs eqs' : List Equation) : Prop :=
  ∃ turned, List.Forall₂ (fun e e' => e' = e ∨ e' = e.swap) eqs turned ∧ turned.Perm eqs'

/-- What does not depend on the side holds of all the equations in every arrangement. -/
theorem Rearranged.forall_iff {P : Equation → Prop} {eqs eqs' : List Equation}
    (h : Rearranged eqs eqs') (hP : ∀ e : Equation, P e → P e.swap) :
    (∀ e ∈ eqs, P e) ↔ ∀ e ∈ eqs', P e := by
  obtain ⟨turned, hturned, hperm⟩ := h
  have hsame : (∀ e ∈ eqs, P e) ↔ ∀ e ∈ turned, P e := by
    clear hperm
    induction hturned with
    | nil => exact Iff.rfl
    | @cons e e' _ _ he _ ih =>
        rw [List.forall_mem_cons, List.forall_mem_cons, ih]
        refine and_congr_left fun _ => ?_
        rcases he with rfl | rfl
        · exact Iff.rfl
        · exact ⟨hP e, hP e.swap⟩
  rw [hsame]
  exact forall_congr' fun e => imp_congr_left hperm.mem_iff

/-- Solves equations one after another, and stops at the first that fails. -/
def solve : List Equation → UnifyM Unit
  | [] => return
  | e :: eqs => do
    unify e.1 e.2
    solve eqs

variable {S S' : Store} {eqs eqs' : List Equation}

/-! ### What solving leaves -/

/-- What is known of the store after all the equations were solved. -/
structure Solved (S : Store) (eqs : List Equation) (S' : Store) : Prop where
  acyclic : S'.Acyclic
  respects_iff : ∀ ρ, S'.Respects ρ ↔ S.Respects ρ ∧ ∀ e ∈ eqs, e.1.assign ρ = e.2.assign ρ
  proper : ∀ e ∈ eqs, (S'.resolve e.1).Proper
  keeps : ∀ v, (S.resolve v).Proper → (S'.resolve v).Proper
  all : ∀ P, MonoTy.Hereditary P → S.All P → (∀ e ∈ eqs, P e.1 ∧ P e.2) → S'.All P

theorem Acyclic.solved_nil (hS : S.Acyclic) : Solved S [] S where
  acyclic := hS
  respects_iff _ := by simp
  proper _ he := absurd he List.not_mem_nil
  keeps _ hv := hv
  all _ _ hb _ := hb

/-- One equation more, in front. -/
theorem Solved.cons {S₁ : Store} {e : Equation} (hS : S.Acyclic) (h : Unifies S e.1 e.2 S₁)
    (hsolved : Solved S₁ eqs S') : Solved S (e :: eqs) S' := by
  obtain ⟨hproper, hkeeps⟩ := h.proper_resolve hS
  refine ⟨hsolved.acyclic, ?_, ?_, fun v hv => hsolved.keeps v (hkeeps v hv), ?_⟩
  · intro ρ
    rw [hsolved.respects_iff, h.respects_iff, List.forall_mem_cons, and_assoc]
  · rw [List.forall_mem_cons]
    exact ⟨hsolved.keeps _ hproper, hsolved.proper⟩
  · intro P hP hb heqs
    rw [List.forall_mem_cons] at heqs
    obtain ⟨⟨ht, hu⟩, hrest⟩ := heqs
    exact hsolved.all P hP ((h.grows hP hS hb ht hu).all hb) hrest

/--
**A list of equations is solved, or no assignment that respects the store satisfies them all.**
-/
theorem Acyclic.run_solve (hS : S.Acyclic) (eqs : List Equation) :
    (∃ S', S.run (solve eqs) = (.ok (), S') ∧ Solved S eqs S') ∨
      (∃ f S', S.run (solve eqs) = (.error f, S')) ∧
        ∀ ρ, S.Respects ρ → ¬ ∀ e ∈ eqs, e.Holds ρ := by
  induction eqs generalizing S with
  | nil => exact Or.inl ⟨S, rfl, hS.solved_nil⟩
  | cons e eqs ih =>
      rw [solve, run_bind]
      rcases hS.ends_unify e.1 e.2 with ⟨S₁, hx, h⟩ | ⟨f, S₁, hx, h⟩
      · rw [hx]
        rcases ih (h.acyclic hS) with ⟨S', hrun, hsolved⟩ | ⟨hrun, hnone⟩
        · exact Or.inl ⟨S', hrun, hsolved.cons hS h⟩
        · refine Or.inr ⟨hrun, fun ρ hρ hall => ?_⟩
          rw [List.forall_mem_cons] at hall
          obtain ⟨⟨heq, -⟩, hrest⟩ := hall
          exact hnone ρ ((h.respects_iff ρ).mpr ⟨hρ, heq⟩) hrest
      · rw [hx]
        refine Or.inr ⟨⟨f, S₁, rfl⟩, fun ρ hρ hall => ?_⟩
        obtain ⟨heq, hproper⟩ := hall e List.mem_cons_self
        have hleft : (S.resolve e.1).Proper :=
          MonoTy.proper_of_assign (hS.assign_resolve hρ e.1 ▸ hproper)
        have hright : (S.resolve e.2).Proper :=
          MonoTy.proper_of_assign (hS.assign_resolve hρ e.2 ▸ heq ▸ hproper)
        exact h.assign_ne_of_resolve hS hleft hright hρ heq

/-- Solving succeeds exactly if the equations can be satisfied. -/
theorem Acyclic.run_solve_eq_ok_iff (hS : S.Acyclic) (eqs : List Equation) :
    (S.run (solve eqs)).1 = .ok () ↔ ∃ ρ, S.Respects ρ ∧ ∀ e ∈ eqs, e.Holds ρ := by
  rcases hS.run_solve eqs with ⟨S', hrun, h⟩ | ⟨⟨f, S', hrun⟩, hnone⟩
  · have hholds : S.Respects S'.resolved ∧ ∀ e ∈ eqs, e.Holds S'.resolved := by
      obtain ⟨hρ, heq⟩ := (h.respects_iff _).mp h.acyclic.respects_resolved
      refine ⟨hρ, fun e he => ⟨heq e he, ?_⟩⟩
      rw [h.acyclic.assign_resolved]
      exact h.proper e he
    rw [hrun]
    exact ⟨fun _ => ⟨_, hholds⟩, fun _ => rfl⟩
  · rw [hrun]
    constructor
    · intro hok
      cases hok
    · rintro ⟨ρ, hρ, hall⟩
      exact absurd hall (hnone ρ hρ)

theorem Acyclic.solved_of_run (hS : S.Acyclic) (h : (S.run (solve eqs)).1 = .ok ()) :
    Solved S eqs (S.run (solve eqs)).2 := by
  rcases hS.run_solve eqs with ⟨S', hrun, hsolved⟩ | ⟨⟨f, S', hrun⟩, -⟩
  · rw [hrun]
    exact hsolved
  · rw [hrun] at h
    cases h

/-! ### Stores that the same assignments respect -/

/-- Nothing but cells of `K` is met if the bindings and the type mention no other. -/
theorem Meets.mem_of_over {K : Set Nat} {t : MonoTy} {i : Nat} (h : S.Meets t i)
    (hS : S.All (MonoTy.Over K)) (ht : t.Over K) : i ∈ K := by
  induction h with
  | here i => exact ht i (by simp [MonoTy.cells])
  | arg r _ ih => exact ih (MonoTy.hereditary_over K _ _ ht).1
  | ret a _ ih => exact ih (MonoTy.hereditary_over K _ _ ht).2
  | follow hj _ ih => exact ih (hS _ _ hj)

/-- Unbound cells `i` of the one store and `j` of the other stand for each other. -/
structure Corresponds (S₁ S₂ : Store) (i j : Nat) : Prop where
  unbound_left : S₁.lookup? i = none
  unbound_right : S₂.lookup? j = none
  resolve_left : S₂.resolve (.var i) = .var j
  resolve_right : S₁.resolve (.var j) = .var i

theorem Corresponds.mem {S₁ S₂ : Store} {i j : Nat} (h : Corresponds S₁ S₂ i j)
    (hS₂ : S₂.Acyclic) {K : Set Nat} (hK : S₂.All (MonoTy.Over K)) (hi : i ∈ K) : j ∈ K := by
  have hj : j ∈ (S₂.resolve (.var i)).cells := by
    rw [h.resolve_left]
    exact List.mem_singleton_self j
  have hover : (MonoTy.var i).Over K := by
    intro k hk
    rwa [List.mem_singleton.mp hk]
  exact (hS₂.of_mem_cells_resolve hj).2.mem_of_over hK hover

section

variable {S₁ S₂ : Store} (h₁ : S₁.Acyclic) (h₂ : S₂.Acyclic)
  (hsame : ∀ ρ, S₁.Respects ρ ↔ S₂.Respects ρ)

include h₁ h₂ hsame

/-- What was resolved in the one store is resolved on by assigning. -/
theorem Acyclic.assign_resolve_resolved (t : MonoTy) :
    (S₁.resolve t).assign S₂.resolved = S₂.resolve t := by
  have hrespects : S₁.Respects S₂.resolved := (hsame _).mpr h₂.respects_resolved
  rw [h₁.assign_resolve hrespects, h₂.assign_resolved]

theorem Acyclic.exists_corresponds {i : Nat} (hi : S₁.lookup? i = none) :
    ∃ j, Corresponds S₁ S₂ i j := by
  -- resolving on in the first store leads back to the cell, so it was not replaced by more
  have hback : (S₂.resolve (.var i)).assign S₁.resolved = .var i := by
    rw [h₂.assign_resolve_resolved h₁ (fun ρ => (hsame ρ).symm), h₁.resolve_of_unbound hi]
  cases hj : S₂.resolve (.var i) with
  | var j =>
      rw [hj] at hback
      have hmem : j ∈ (S₂.resolve (.var i)).cells := by
        rw [hj]
        exact List.mem_singleton_self j
      exact ⟨j, hi, (h₂.of_mem_cells_resolve hmem).1, hj, hback⟩
  | int | bool | arrow | stray =>
      rw [hj] at hback
      cases hback

/--
**Acyclic stores that the same assignments respect resolve every type alike**, up to one renaming
of the unbound cells.  It is a bijection on any cells that both stores keep to.
-/
theorem Acyclic.exists_renaming :
    ∃ π : Nat → Nat, (∀ t, (S₁.resolve t).rename π = S₂.resolve t) ∧
      ∀ K, S₁.All (MonoTy.Over K) → S₂.All (MonoTy.Over K) →
        Set.BijOn π {i ∈ K | S₁.lookup? i = none} {i ∈ K | S₂.lookup? i = none} := by
  classical
  have hex : ∀ i, ∃ j, S₁.lookup? i = none → Corresponds S₁ S₂ i j := by
    intro i
    by_cases hi : S₁.lookup? i = none
    · obtain ⟨j, hj⟩ := h₁.exists_corresponds h₂ hsame hi
      exact ⟨j, fun _ => hj⟩
    · exact ⟨i, fun h => absurd h hi⟩
  choose π hπ using hex
  refine ⟨π, ?_, ?_⟩
  · intro t
    rw [← h₁.assign_resolve_resolved h₂ hsame t]
    refine MonoTy.assign_congr fun i hi => ?_
    exact (hπ i (h₁.of_mem_cells_resolve hi).1).resolve_left.symm
  · intro K hK₁ hK₂
    refine ⟨?_, ?_, ?_⟩
    · rintro i ⟨hiK, hi⟩
      exact ⟨(hπ i hi).mem h₂ hK₂ hiK, (hπ i hi).unbound_right⟩
    · rintro i ⟨-, hi⟩ j ⟨-, hj⟩ hij
      have hresolved := (hπ i hi).resolve_right
      rw [hij, (hπ j hj).resolve_right] at hresolved
      exact (MonoTy.var.inj hresolved).symm
    · rintro j ⟨hjK, hj⟩
      obtain ⟨i, hji⟩ := h₂.exists_corresponds h₁ (fun ρ => (hsame ρ).symm) hj
      refine ⟨i, ⟨hji.mem h₁ hK₁ hjK, hji.unbound_right⟩, ?_⟩
      have hresolved := (hπ i hji.unbound_right).resolve_left
      rw [hji.resolve_right] at hresolved
      exact (MonoTy.var.inj hresolved).symm

end

/-! ### Arrangements -/

/--
**The order of equations and the way round they are written do not matter.**  In an acyclic
store one arrangement can be solved if the other can.  Then one renaming of the unbound cells takes
what every type resolves to in the one final store to what it resolves to in the other.  It
is a bijection between the unbound cells of the two, among any cells that the store and the
equations keep to.
-/
theorem solve_rearranged (hS : S.Acyclic) (h : Rearranged eqs eqs') :
    ((S.run (solve eqs)).1 = .ok () ↔ (S.run (solve eqs')).1 = .ok ()) ∧
      ((S.run (solve eqs)).1 = .ok () → (S.run (solve eqs')).1 = .ok () →
        ∃ π : Nat → Nat,
          (∀ t, ((S.run (solve eqs)).2.resolve t).rename π = (S.run (solve eqs')).2.resolve t) ∧
          ∀ K, S.All (MonoTy.Over K) → (∀ e ∈ eqs, e.Over K) →
            Set.BijOn π {i ∈ K | (S.run (solve eqs)).2.lookup? i = none}
              {i ∈ K | (S.run (solve eqs')).2.lookup? i = none}) := by
  constructor
  · rw [hS.run_solve_eq_ok_iff, hS.run_solve_eq_ok_iff]
    refine exists_congr fun ρ => and_congr_right fun _ => ?_
    exact h.forall_iff fun e he => he.swap
  · intro hok hok'
    have hsolved := hS.solved_of_run hok
    have hsolved' := hS.solved_of_run hok'
    have hsame : ∀ ρ, (S.run (solve eqs)).2.Respects ρ ↔ (S.run (solve eqs')).2.Respects ρ := by
      intro ρ
      rw [hsolved.respects_iff, hsolved'.respects_iff]
      refine and_congr_right fun _ => ?_
      exact h.forall_iff (P := fun e => e.1.assign ρ = e.2.assign ρ) fun e he => he.symm
    obtain ⟨π, hresolve, hbij⟩ := hsolved.acyclic.exists_renaming hsolved'.acyclic hsame
    refine ⟨π, hresolve, fun K hK heqs => ?_⟩
    have heqs' : ∀ e ∈ eqs', e.Over K := (h.forall_iff fun e he => he.symm).mp heqs
    exact hbij K (hsolved.all _ (MonoTy.hereditary_over K) hK heqs)
      (hsolved'.all _ (MonoTy.hereditary_over K) hK heqs')

/-- Cell 2 is left in the one order, and cell 4 in the other. -/
theorem solve_rearranged_turned :
    let S : Store := { trail := [(0, .arrow (.var 1) .int)] }
    let eqs : List Equation := [(.var 4, .var 1), (.var 0, .arrow (.var 2) (.var 3))]
    let eqs' : List Equation := [(.var 0, .arrow (.var 2) (.var 3)), (.var 1, .var 4)]
    (S.Acyclic ∧ Rearranged eqs eqs') ∧
      (S.run (solve eqs)).2.trail =
        [(3, .int), (1, .var 2), (4, .var 1), (0, .arrow (.var 1) .int)] ∧
      (S.run (solve eqs')).2.trail =
        [(2, .var 4), (3, .int), (1, .var 2), (0, .arrow (.var 1) .int)] ∧
      ∃ π : Nat → Nat,
        (∀ t, ((S.run (solve eqs)).2.resolve t).rename π = (S.run (solve eqs')).2.resolve t) ∧
        ∀ K, S.All (MonoTy.Over K) → (∀ e ∈ eqs, e.Over K) →
          Set.BijOn π {i ∈ K | (S.run (solve eqs)).2.lookup? i = none}
            {i ∈ K | (S.run (solve eqs')).2.lookup? i = none} := by
  intro S eqs eqs'
  have hS : S.Acyclic := acyclic_of_rank (1 - ·) (by decide)
  have h : Rearranged eqs eqs' := by
    refine ⟨[(.var 1, .var 4), (.var 0, .arrow (.var 2) (.var 3))], ?_, .swap _ _ _⟩
    exact .cons (.inr rfl) (.cons (.inl rfl) .nil)
  exact ⟨⟨hS, h⟩, rfl, rfl, (solve_rearranged hS h).2 rfl rfl⟩

end Store

end TypedLambda
