/-
What a failure of the unifier says is so.

A mismatch cites two types and keeps a chain of causes, each again two types.  `Conflict` says
what such a chain has to be: a way down from the cited types to two that have different shapes,
through arrows, by their argument sides or by their result sides at each step.  Between one pair
and the next only outermost bindings are followed and the sides may change places.

A chain of this kind is a reason that can be checked in the store it is reported in, without
running anything.  The shapes at its end differ whatever cells are assigned, and each step up
keeps two types apart, so none of its pairs can be made equal (`Conflict.apart`).

While a run goes on, pairs are compared in stores that are not yet the final one.  What a pair
leads to is never an unbound cell once it is cited, and bound cells keep their bindings, so a
chain that was right in an earlier store is right in the final one.
-/
import TypedLambda.Proofs.Unify.UnboundCell

namespace TypedLambda

/-! ### Shapes -/

/-- The outermost constructor of a type, where that is settled. -/
inductive Shape where
  | int
  | bool
  | arrow
  deriving DecidableEq

namespace MonoTy

def shape? : MonoTy → Option Shape
  | int => some .int
  | bool => some .bool
  | arrow .. => some .arrow
  | var _ | stray _ => none

/-- Both types have a shape, and it is not the same. -/
def DifferInShape (t u : MonoTy) : Prop :=
  ∃ s s', t.shape? = some s ∧ u.shape? = some s' ∧ s ≠ s'

theorem Clashes.differInShape {t u : MonoTy} (h : t.Clashes u) (ht : t.Proper) (hu : u.Proper) :
    t.DifferInShape u := by
  cases t with
  | var i => cases u <;> exact h.elim
  | stray s => exact ht.elim
  | int =>
      cases u with
      | int | var => exact h.elim
      | stray => exact hu.elim
      | bool | arrow => exact ⟨_, _, rfl, rfl, by decide⟩
  | bool =>
      cases u with
      | bool | var => exact h.elim
      | stray => exact hu.elim
      | int | arrow => exact ⟨_, _, rfl, rfl, by decide⟩
  | arrow a r =>
      cases u with
      | arrow | var => exact h.elim
      | stray => exact hu.elim
      | int | bool => exact ⟨_, _, rfl, rfl, by decide⟩

theorem ne_var_of_shape? {t : MonoTy} {s : Shape} (h : t.shape? = some s) (i : Nat) :
    t ≠ var i := by
  rintro rfl
  cases h

/-- An assignment changes nothing about a shape. -/
theorem shape?_assign {t : MonoTy} {s : Shape} (h : t.shape? = some s) (ρ : Nat → MonoTy) :
    (t.assign ρ).shape? = some s := by
  cases t with
  | int | bool | arrow => exact h
  | var | stray => cases h

theorem DifferInShape.assign_ne {t u : MonoTy} (h : t.DifferInShape u) (ρ : Nat → MonoTy) :
    t.assign ρ ≠ u.assign ρ := by
  intro heq
  obtain ⟨s, s', ht, hu, hne⟩ := h
  have hs := shape?_assign ht ρ
  rw [heq, shape?_assign hu ρ] at hs
  exact hne (Option.some.inj hs).symm

end MonoTy

namespace UnifyFailure

variable {e : UnifyFailure} {t u : MonoTy}

theorem within_eq_mismatch {l r : MonoTy} {causes : List (MonoTy × MonoTy)} :
    e.within t u = .mismatch l r causes ↔
      t = l ∧ u = r ∧ ∃ l' r' causes', e = .mismatch l' r' causes' ∧
        (l', r') :: causes' = causes := by
  cases e <;> simp [within]

theorem within_eq_occurs {i : Nat} {v : MonoTy} :
    e.within t u = .occurs i v ↔ e = .occurs i v := by
  cases e <;> simp [within]

end UnifyFailure

namespace Store

variable {S S' : Store} {P : MonoTy → Prop} {t u l r v : MonoTy}

/-! ### Types that are cited -/

/-- What is cited for `t` and `u` is what they lead to, in either order. -/
def Cites (S : Store) (t u l r : MonoTy) : Prop :=
  S.LeadsTo t l ∧ S.LeadsTo u r ∨ S.LeadsTo t r ∧ S.LeadsTo u l

theorem Cites.swap (h : S.Cites t u l r) : S.Cites u t l r :=
  h.symm.imp And.symm And.symm

/-- What is cited for a binding is cited for the cell. -/
theorem Cites.follow {i : Nat} (h : S.Cites t u l r) (hi : S.lookup? i = some t) :
    S.Cites (.var i) u l r :=
  h.imp (And.imp_left (.follow hi)) (And.imp_left (.follow hi))

theorem LeadsTo.grows (h : S.LeadsTo t v) (hv : ∀ i, v ≠ .var i) (hgrows : Grows P S S') :
    S'.LeadsTo t v := by
  induction h with
  | here => exact leadsTo_self hv
  | follow hi _ ih => exact .follow (hgrows.lookup?_of_bound hi) (ih hv)

theorem LeadsTo.assign_eq (h : S.LeadsTo t v) {ρ : Nat → MonoTy} (hρ : S.Respects ρ) :
    t.assign ρ = v.assign ρ := by
  induction h with
  | here => rfl
  | follow hi _ ih => rw [MonoTy.assign, hρ _ _ hi, ih]

/-! ### Conflicts -/

/-- No assignment that respects the store makes the two types equal. -/
def Apart (S : Store) (t u : MonoTy) : Prop :=
  ∀ ρ, S.Respects ρ → t.assign ρ ≠ u.assign ρ

theorem Cites.apart (h : S.Cites t u l r) (hlr : S.Apart l r) : S.Apart t u := by
  intro ρ hρ
  rcases h with ⟨hl, hr⟩ | ⟨hr, hl⟩
  · rw [hl.assign_eq hρ, hr.assign_eq hρ]
    exact hlr ρ hρ
  · rw [hl.assign_eq hρ, hr.assign_eq hρ]
    exact (hlr ρ hρ).symm

/--
The causes lead from two types down to two that differ in shape.  Each step goes from two arrows to
what is cited for their argument sides or for their result sides.
-/
inductive Conflict (S : Store) : MonoTy → MonoTy → List (MonoTy × MonoTy) → Prop where
  | shapes {l r : MonoTy} (h : l.DifferInShape r) : Conflict S l r []
  | args {a a' l r : MonoTy} {causes : List (MonoTy × MonoTy)} (x x' : MonoTy)
      (hcites : S.Cites a a' l r) (h : Conflict S l r causes) :
      Conflict S (.arrow a x) (.arrow a' x') ((l, r) :: causes)
  | results {x x' l r : MonoTy} {causes : List (MonoTy × MonoTy)} (a a' : MonoTy)
      (hcites : S.Cites x x' l r) (h : Conflict S l r causes) :
      Conflict S (.arrow a x) (.arrow a' x') ((l, r) :: causes)

namespace Conflict

variable {causes : List (MonoTy × MonoTy)}

theorem ne_var (h : S.Conflict l r causes) : (∀ i, l ≠ .var i) ∧ ∀ i, r ≠ .var i := by
  cases h with
  | shapes h =>
      obtain ⟨s, s', hl, hr, -⟩ := h
      exact ⟨MonoTy.ne_var_of_shape? hl, MonoTy.ne_var_of_shape? hr⟩
  | args | results => exact ⟨by simp, by simp⟩

theorem cites_grows (h : S'.Conflict l r causes) (hcites : S.Cites t u l r)
    (hgrows : Grows P S S') : S'.Cites t u l r := by
  obtain ⟨hl, hr⟩ := h.ne_var
  exact hcites.imp (And.imp (·.grows hl hgrows) (·.grows hr hgrows))
    (And.imp (·.grows hr hgrows) (·.grows hl hgrows))

/-- **None of the pairs of a conflict can be made equal in its store.** -/
theorem apart (h : S.Conflict l r causes) : ∀ c ∈ (l, r) :: causes, S.Apart c.1 c.2 := by
  induction h with
  | shapes h =>
      refine List.forall_mem_singleton.mpr fun ρ _ => ?_
      exact h.assign_ne ρ
  | args x x' hcites _ ih =>
      refine List.forall_mem_cons.mpr ⟨?_, ih⟩
      intro ρ hρ heq
      exact hcites.apart (List.forall_mem_cons.mp ih).1 ρ hρ (MonoTy.arrow.inj heq).1
  | results a a' hcites _ ih =>
      refine List.forall_mem_cons.mpr ⟨?_, ih⟩
      intro ρ hρ heq
      exact hcites.apart (List.forall_mem_cons.mp ih).1 ρ hρ (MonoTy.arrow.inj heq).2

end Conflict

/-! ### What a run reports -/

theorem Refuses.grows {e : UnifyFailure} (h : Refuses S t u e S') (hS : S.Acyclic) :
    Grows (fun _ => True) S S' :=
  h.grows_of_keeps (fun _ _ _ => ⟨trivial, trivial⟩) hS (fun _ _ _ _ => trivial) trivial trivial

/-- **A mismatch cites what the two types lead to, and its causes lead to different shapes.** -/
theorem Refuses.conflict {e : UnifyFailure} (h : Refuses S t u e S') (hS : S.Acyclic)
    (hp : S.All MonoTy.Proper) (ht : t.Proper) (hu : u.Proper) {causes : List (MonoTy × MonoTy)}
    (he : e = .mismatch l r causes) : S.Cites t u l r ∧ S'.Conflict l r causes := by
  induction h generalizing l r causes with
  | clash S hclash =>
      obtain ⟨rfl, rfl, rfl⟩ := UnifyFailure.mismatch.inj he
      have hshapes := hclash.differInShape ht hu
      obtain ⟨hl, hr⟩ := (Conflict.shapes (S := S) hshapes).ne_var
      exact ⟨Or.inl ⟨leadsTo_self hl, leadsTo_self hr⟩, .shapes hshapes⟩
  | occurs => cases he
  | unknown _ _ hocc =>
      obtain ⟨b, hb⟩ := exists_occurs hp _ hu
      rw [hocc] at hb
      cases hb
  | left hi _ ih =>
      obtain ⟨hcites, hconflict⟩ := ih hS hp (hp _ _ hi) hu he
      exact ⟨hcites.follow hi, hconflict⟩
  | right _ hj _ ih =>
      obtain ⟨hcites, hconflict⟩ := ih hS hp ht (hp _ _ hj) he
      exact ⟨(hcites.swap.follow hj).swap, hconflict⟩
  | swap _ _ ih =>
      obtain ⟨hcites, hconflict⟩ := ih hS hp hu ht he
      exact ⟨hcites.swap, hconflict⟩
  | arg x x' hargs ih =>
      obtain ⟨rfl, rfl, l, r, causes, rfl, rfl⟩ := UnifyFailure.within_eq_mismatch.mp he
      obtain ⟨hcites, hconflict⟩ := ih hS hp ht.1 hu.1 rfl
      have hcites' := hconflict.cites_grows hcites (hargs.grows hS)
      exact ⟨Or.inl ⟨leadsTo_self (by simp), leadsTo_self (by simp)⟩, .args x x' hcites' hconflict⟩
  | ret hargs hresults ih =>
      obtain ⟨rfl, rfl, l, r, causes, rfl, rfl⟩ := UnifyFailure.within_eq_mismatch.mp he
      -- the result sides are compared in the store that the argument sides leave
      have hgrows := hargs.grows MonoTy.hereditary_proper hS hp ht.1 hu.1
      have hS₁ := hgrows.acyclic hS
      obtain ⟨hcites, hconflict⟩ := ih hS₁ (hgrows.all hp) ht.2 hu.2 rfl
      have hcites' := hconflict.cites_grows hcites (hresults.grows hS₁)
      exact ⟨Or.inl ⟨leadsTo_self (by simp), leadsTo_self (by simp)⟩,
        .results _ _ hcites' hconflict⟩

/-- What is not a cell itself and has a cell in it is an arrow. -/
theorem Meets.exists_arrow {i : Nat} (h : S.Meets v i) (hv : ∀ j, v ≠ .var j) :
    ∃ a r, v = .arrow a r := by
  cases h with
  | here => exact absurd rfl (hv i)
  | follow => exact absurd rfl (hv _)
  | arg | ret => exact ⟨_, _, rfl⟩

/-- A failed occurs check passes through all the arrows around it as it is. -/
theorem Refuses.occurs_inv {e : UnifyFailure} (h : Refuses S t u e S') (hS : S.Acyclic)
    (hp : S.All MonoTy.Proper) (ht : t.Proper) (hu : u.Proper) {i : Nat}
    (he : e = .occurs i v) :
    S'.lookup? i = none ∧ (∃ a r, v = .arrow a r) ∧ S'.Meets v i := by
  induction h with
  | clash => cases he
  | occurs hi hvar hocc =>
      obtain ⟨rfl, rfl⟩ := UnifyFailure.occurs.inj he
      have hmeets := (hS.meets_iff_of_occurs hocc).mp rfl
      exact ⟨hi, hmeets.exists_arrow hvar, hmeets⟩
  | unknown _ _ hocc =>
      obtain ⟨b, hb⟩ := exists_occurs hp _ hu
      rw [hocc] at hb
      cases hb
  | left hi _ ih => exact ih hS hp (hp _ _ hi) hu he
  | right _ hj _ ih => exact ih hS hp ht (hp _ _ hj) he
  | swap _ _ ih => exact ih hS hp hu ht he
  | arg _ _ _ ih => exact ih hS hp ht.1 hu.1 (UnifyFailure.within_eq_occurs.mp he)
  | ret hargs _ ih =>
      have hgrows := hargs.grows MonoTy.hereditary_proper hS hp ht.1 hu.1
      exact ih (hgrows.acyclic hS) (hgrows.all hp) ht.2 hu.2 (UnifyFailure.within_eq_occurs.mp he)

/--
**Every failure of the unifier names a real conflict.**  A mismatch cites what the two types lead to
before the call.  Its causes lead, in the store that the call leaves, from there down to two types
of different shapes, and none of the pairs on the way can be made equal in that store.  A failed
occurs check cites a cell that is unbound there and an arrow that resolves to a type with
the cell in it.
-/
theorem unify_names_conflict (hS : S.Acyclic) (hp : S.All MonoTy.Proper) (ht : t.Proper)
    (hu : u.Proper) :
    (∀ l r causes S', S.run (unify t u) = (.error (.mismatch l r causes), S') →
      S.Cites t u l r ∧ S'.Conflict l r causes ∧ ∀ c ∈ (l, r) :: causes, S'.Apart c.1 c.2) ∧
    ∀ i v S', S.run (unify t u) = (.error (.occurs i v), S') →
      S'.lookup? i = none ∧ (∃ a r, v = .arrow a r) ∧ i ∈ (S'.resolve v).cells := by
  rcases hS.ends_unify t u with ⟨S₁, hx, -⟩ | ⟨e, S₁, hx, h⟩
  · rw [hx]
    constructor
    · intro l r causes S' hrun
      cases hrun
    · intro i v S' hrun
      cases hrun
  · rw [hx]
    constructor
    · intro l r causes S' hrun
      obtain ⟨he, rfl⟩ := Prod.mk.inj hrun
      obtain ⟨hcites, hconflict⟩ := h.conflict hS hp ht hu (Except.error.inj he)
      exact ⟨hcites, hconflict, hconflict.apart⟩
    · intro i v S' hrun
      obtain ⟨he, rfl⟩ := Prod.mk.inj hrun
      obtain ⟨hi, harrow, hmeets⟩ := h.occurs_inv hS hp ht hu (Except.error.inj he)
      have hS₁ := (h.grows hS).acyclic hS
      exact ⟨hi, harrow, (hS₁.mem_cells_resolve_iff hi).mpr hmeets⟩

/--
In the first call the argument sides bind cell 1, the result sides change places because one of
them is a bound cell, and the conflict is in what is bound there.  In the second the cell that
fails the check is met behind the binding of cell 0 only.
-/
theorem unify_names_conflict_swapped :
    let S : Store := { trail := [(0, .arrow (.var 1) (.arrow .bool .int))] }
    let t := MonoTy.arrow (.var 1) (.arrow .bool (.arrow .bool .bool))
    let u := MonoTy.arrow .bool (.var 0)
    let t' := MonoTy.arrow (.var 2) (.var 1)
    let u' := MonoTy.arrow .int (.arrow .bool (.var 0))
    let causes := [(MonoTy.arrow (.var 1) (.arrow .bool .int), .arrow .bool (.arrow .bool .bool)),
      (.arrow .bool .int, .arrow .bool .bool), (.int, .bool)]
    let v := MonoTy.arrow .bool (.var 0)
    (S.Acyclic ∧ S.All MonoTy.Proper ∧ t.Proper ∧ u.Proper ∧ t'.Proper ∧ u'.Proper) ∧
      S.run (unify t u) = (.error (.mismatch t u causes), S.bind 1 .bool) ∧
      (S.Cites t u t u ∧ (S.bind 1 .bool).Conflict t u causes ∧
        ∀ c ∈ (t, u) :: causes, (S.bind 1 .bool).Apart c.1 c.2) ∧
      S.run (unify t' u') = (.error (.occurs 1 v), S.bind 2 .int) ∧
      (S.bind 2 .int).lookup? 1 = none ∧ (∃ a r, v = .arrow a r) ∧
      1 ∈ ((S.bind 2 .int).resolve v).cells := by
  intro S t u t' u' causes v
  have hS : S.Acyclic := acyclic_of_rank (1 - ·) (by decide)
  have hp : S.All MonoTy.Proper := all_of_forall_mem (by decide)
  have ht : t.Proper := by decide
  have hu : u.Proper := by decide
  have ht' : t'.Proper := by decide
  have hu' : u'.Proper := by decide
  have hmismatch : S.run (unify t u) = (.error (.mismatch t u causes), S.bind 1 .bool) := rfl
  have hoccurs : S.run (unify t' u') = (.error (.occurs 1 v), S.bind 2 .int) := rfl
  exact ⟨⟨hS, hp, ht, hu, ht', hu'⟩, hmismatch,
    (unify_names_conflict hS hp ht hu).1 _ _ _ _ hmismatch, hoccurs,
    (unify_names_conflict hS hp ht' hu').2 _ _ _ hoccurs⟩

end Store

end TypedLambda
