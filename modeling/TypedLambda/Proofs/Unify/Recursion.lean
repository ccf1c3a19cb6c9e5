/-
The recursion of the unifier ends.

Three functions call one another: one takes two types apart, one deals with a cell, and one
looks for a cell in a type.  An `Activation` is a call of one of them in the store that it
finds, and `Makes c c'` says that `c` makes the call `c'` before it is done.  A call makes
finitely many, so the recursion ends if no call begins an infinite chain of calls made by
calls.  That is what it means for the call to be accessible, and nothing in it refers to a
bound.

The bound of the unifier enters as the tool.  What a call makes is what the rules of
`Stalls` go on with, so a chain of calls of some length reaches the bound of that length; and on
an acyclic store a certain bound is not reached.  The search for a cell needs no
such measure, because it only follows paths of a store that does not change.

The same bound is the one the running function starts with.  A run that does not reach its
bound is the run with the next larger bound, so every larger bound gives the same.
-/
import TypedLambda.Proofs.Unify.Solutions

namespace TypedLambda.Store

/-! ### Calls and the calls they make -/

/-- A call of one of the functions that unification consists of, in the store it finds. -/
inductive Activation where
  | unify (S : Store) (t u : MonoTy)
  | unifyVar (S : Store) (i : Nat) (t : MonoTy)
  | occurs (S : Store) (i : Nat) (t : MonoTy)

/-- A call makes another one before it is done. -/
inductive Makes : Activation → Activation → Prop where
  | arg (S : Store) (a r a' r' : MonoTy) :
      Makes (.unify S (.arrow a r) (.arrow a' r')) (.unify S a a')
  /-- The result sides are compared in the store that the argument sides leave. -/
  | ret {S S₁ : Store} {a a' : MonoTy} (r r' : MonoTy)
      (ha : S.run (Store.unify a a') = (.ok (), S₁)) :
      Makes (.unify S (.arrow a r) (.arrow a' r')) (.unify S₁ r r')
  | left (S : Store) (i : Nat) (u : MonoTy) : Makes (.unify S (.var i) u) (.unifyVar S i u)
  | right {S : Store} {t : MonoTy} (ht : ∀ i, t ≠ .var i) (j : Nat) :
      Makes (.unify S t (.var j)) (.unifyVar S j t)
  | follow {S : Store} {i : Nat} {t : MonoTy} (hi : S.lookup? i = some t) (u : MonoTy) :
      Makes (.unifyVar S i u) (.unify S t u)
  | followRight {S : Store} {i j : Nat} {u : MonoTy} (hi : S.lookup? i = none)
      (hj : S.lookup? j = some u) : Makes (.unifyVar S i (.var j)) (.unifyVar S i u)
  | check {S : Store} {i : Nat} {u : MonoTy} (hi : S.lookup? i = none) (hu : ∀ j, u ≠ .var j) :
      Makes (.unifyVar S i u) (.occurs S i u)
  | occursArg (S : Store) (i : Nat) (a r : MonoTy) :
      Makes (.occurs S i (.arrow a r)) (.occurs S i a)
  | occursRet {S : Store} {i : Nat} {a : MonoTy} (r : MonoTy) (ha : S.occurs i a = .ok false) :
      Makes (.occurs S i (.arrow a r)) (.occurs S i r)
  | occursBinding {S : Store} {i j : Nat} {u : MonoTy} (hij : j ≠ i)
      (hj : S.lookup? j = some u) : Makes (.occurs S i (.var j)) (.occurs S i u)

/-- No chain of calls made by calls goes on for ever from this one. -/
def Activation.Terminates (c : Activation) : Prop := Acc (fun callee caller => Makes caller callee) c

theorem Activation.Terminates.of_makes {c c' : Activation} (h : c.Terminates) (hc : Makes c c') :
    c'.Terminates :=
  h.inv hc

theorem Activation.terminates_of_forall {c : Activation} (h : ∀ c', Makes c c' → c'.Terminates) :
    c.Terminates :=
  Acc.intro c h

variable {S : Store} {t u : MonoTy}

/-- The search for a cell follows the paths from a type. -/
theorem Acyclic.terminates_occurs (hS : S.Acyclic) (i : Nat) (t : MonoTy) :
    (Activation.occurs S i t).Terminates := by
  induction t using hS.induction with
  | int | bool | stray =>
      refine Activation.terminates_of_forall fun c hc => ?_
      cases hc
  | unbound j hj =>
      refine Activation.terminates_of_forall fun c hc => ?_
      cases hc with
      | occursBinding _ hbound =>
          rw [hj] at hbound
          cases hbound
  | bound j u hj ih =>
      refine Activation.terminates_of_forall fun c hc => ?_
      cases hc with
      | occursBinding _ hbound =>
          rw [hj] at hbound
          obtain rfl := Option.some.inj hbound
          exact ih
  | arrow a r iha ihr =>
      refine Activation.terminates_of_forall fun c hc => ?_
      cases hc with
      | occursArg => exact iha
      | occursRet => exact ihr

/-- What deals with a cell makes no call that the rules do not go on with. -/
theorem Acyclic.terminates_unifyVar {n i : Nat} (hS : S.Acyclic)
    (ih : ∀ t u, ¬ Stalls n S t u → (Activation.unify S t u).Terminates)
    (h : ¬ Stalls (n + 1) S (.var i) u) : (Activation.unifyVar S i u).Terminates := by
  refine Activation.terminates_of_forall fun c hc => ?_
  cases hc with
  | follow hi => exact ih _ _ fun hstall => h (.left hi hstall)
  | followRight hi hj =>
      have hcell := ih _ _ fun hstall => h (.right hi hj hstall)
      exact hcell.of_makes (.left S i _)
  | check hi hu => exact hS.terminates_occurs i u

/-- **A call that does not reach a bound begins no infinite chain of calls.** -/
theorem Acyclic.terminates_of_not_stalls {n : Nat} (hS : S.Acyclic) (h : ¬ Stalls n S t u) :
    (Activation.unify S t u).Terminates := by
  induction n generalizing S t u with
  | zero => exact absurd (Stalls.zero S t u) h
  | succ n ih =>
      refine Activation.terminates_of_forall fun c hc => ?_
      cases hc with
      | arg S a r a' r' => exact ih hS fun hstall => h (.arg r r' hstall)
      | ret r r' ha =>
          rcases hS.ends_unify _ _ with ⟨S₂, hrun, hunifies⟩ | ⟨e, S₂, hrun, -⟩
          · obtain ⟨-, rfl⟩ := Prod.mk.inj (hrun.symm.trans ha)
            exact ih (hunifies.acyclic hS) fun hstall => h (.ret hunifies hstall)
          · cases hrun.symm.trans ha
      | left S i u => exact hS.terminates_unifyVar (fun _ _ hn => ih hS hn) h
      | right ht j =>
          have hcell := ih hS fun hstall => h (.swap ht hstall)
          exact hcell.of_makes (.left S j t)

theorem Acyclic.terminates_unify (hS : S.Acyclic) (t u : MonoTy) :
    (Activation.unify S t u).Terminates :=
  hS.terminates_of_not_stalls (hS.not_stalls t u)

/-! ### Larger bounds -/

theorem Stalls.pred {n : Nat} (h : Stalls (n + 1) S t u) : Stalls n S t u := by
  induction n generalizing S t u with
  | zero => exact .zero S t u
  | succ n ih =>
      cases h with
      | left hi h => exact .left hi (ih h)
      | right hi hj h => exact .right hi hj (ih h)
      | swap ht h => exact .swap ht (ih h)
      | arg r r' h => exact .arg r r' (ih h)
      | ret ha h => exact .ret ha (ih h)

theorem Stalls.of_le {m n : Nat} (h : Stalls m S t u) (hn : n ≤ m) : Stalls n S t u := by
  induction hn with
  | refl => exact h
  | step _ ih => exact ih h.pred

theorem run_succ_clash (n : Nat) (h : t.Clashes u) :
    S.run (unifyWithin (n + 2) t u) = S.run (unifyWithin (n + 1) t u) := by
  rw [run_clash (n + 1) h, run_clash n h]

section

variable {n : Nat}
  (ih : ∀ {S t u}, ¬ Stalls n S t u →
    S.run (unifyWithin (n + 1) t u) = S.run (unifyWithin n t u))

include ih

theorem run_succ_var {i : Nat} (h : ¬ Stalls (n + 1) S (.var i) u) :
    S.run (unifyWithin (n + 2) (.var i) u) = S.run (unifyWithin (n + 1) (.var i) u) := by
  cases hi : S.lookup? i with
  | some t =>
      rw [run_left (n + 1) hi, run_left n hi]
      exact ih fun hstall => h (.left hi hstall)
  | none =>
      cases u with
      | var j =>
          rw [run_vars (n + 1) hi, run_vars n hi]
          cases hj : S.lookup? j with
          | some u => exact ih fun hstall => h (.right hi hj hstall)
          | none => rfl
      | int | bool | arrow | stray =>
          rw [run_bindChecked_of_unbound _ hi (by simp), run_bindChecked_of_unbound _ hi (by simp)]

theorem run_succ_swap (ht : ∀ i, t ≠ .var i) {j : Nat} (h : ¬ Stalls (n + 1) S t (.var j)) :
    S.run (unifyWithin (n + 2) t (.var j)) = S.run (unifyWithin (n + 1) t (.var j)) := by
  rw [run_swap (n + 1) ht, run_swap n ht]
  exact ih fun hstall => h (.swap ht hstall)

theorem run_succ_arrow {a r a' r' : MonoTy}
    (h : ¬ Stalls (n + 1) S (.arrow a r) (.arrow a' r')) :
    S.run (unifyWithin (n + 2) (.arrow a r) (.arrow a' r')) =
      S.run (unifyWithin (n + 1) (.arrow a r) (.arrow a' r')) := by
  rw [run_arrow, run_arrow, ih fun hstall => h (.arg r r' hstall)]
  have hends := ends_unifyWithin n S a a'
  rcases hrun : S.run (unifyWithin n a a') with ⟨e | _, S₁⟩
  · rfl
  · rw [hrun] at hends
    have hret : ¬ Stalls n S₁ r r' := fun hstall => h (.ret hends hstall)
    dsimp only
    rw [ih hret]

end

/-- A run that does not reach its bound is the run with the next larger one. -/
theorem run_succ_of_not_stalls {n : Nat} (h : ¬ Stalls n S t u) :
    S.run (unifyWithin (n + 1) t u) = S.run (unifyWithin n t u) := by
  induction n generalizing S t u with
  | zero => exact absurd (Stalls.zero S t u) h
  | succ n ih =>
      cases t with
      | var i => exact run_succ_var ih h
      | arrow a r =>
          cases u with
          | arrow a' r' => exact run_succ_arrow ih h
          | var j => exact run_succ_swap ih (by simp) h
          | int | bool | stray => exact run_succ_clash n trivial
      | int =>
          cases u with
          | int => rfl
          | var j => exact run_succ_swap ih (by simp) h
          | bool | arrow | stray => exact run_succ_clash n trivial
      | bool =>
          cases u with
          | bool => rfl
          | var j => exact run_succ_swap ih (by simp) h
          | int | arrow | stray => exact run_succ_clash n trivial
      | stray s =>
          cases u with
          | var j => exact run_succ_swap ih (by simp) h
          | int | bool | arrow | stray => exact run_succ_clash n trivial

theorem Acyclic.run_unifyWithin_eq (hS : S.Acyclic) {n : Nat} (hn : S.unifyBound t u ≤ n) :
    S.run (unifyWithin n t u) = S.run (unify t u) := by
  induction hn with
  | refl => exact (S.run_unify t u).symm
  | step hle ih =>
      rw [← ih]
      exact run_succ_of_not_stalls fun hstall => hS.not_stalls t u (hstall.of_le hle)

/-! ### The end of a call -/

/--
**Unification terminates.**  On an acyclic store no call of the unifier begins an infinite chain
of calls, of itself or of the search for a cell, whatever the two types share and however far
bindings have to be followed.  It ends in success or in a refusal of the types, and so it
does, in the same store, with every bound that is not below its own.
-/
theorem unify_terminates (hS : S.Acyclic) (hp : S.All MonoTy.Proper) (ht : t.Proper)
    (hu : u.Proper) :
    (Activation.unify S t u).Terminates ∧
      ((S.run (unify t u)).1 = .ok () ∨ ∃ e, (S.run (unify t u)).1 = .error e ∧ e.IsRefusal) ∧
      ∀ n, S.unifyBound t u ≤ n → S.run (unifyWithin n t u) = S.run (unify t u) := by
  refine ⟨hS.terminates_unify t u, ?_, fun n hn => hS.run_unifyWithin_eq hn⟩
  cases hx : (S.run (unify t u)).1 with
  | ok => exact Or.inl rfl
  | error e => exact Or.inr ⟨e, rfl, hS.isRefusal_of_unify hp ht hu hx⟩

/--
Cell 0 stands on both sides, and cell 4 leads to it by two bindings.  Each argument side binds a
cell, so that the result sides have become larger when they are compared.
-/
theorem unify_terminates_grown :
    let S : Store := { trail := [(4, .var 3), (3, .var 0)] }
    let t := MonoTy.arrow (.var 0) (.arrow (.var 1) (.var 4))
    let u := MonoTy.arrow (.arrow (.var 2) (.var 2)) (.arrow (.arrow (.var 0) (.var 0)) (.var 0))
    (S.Acyclic ∧ S.All MonoTy.Proper ∧ t.Proper ∧ u.Proper) ∧
      (S.run (unify t u)).2.trail =
        [(1, .arrow (.var 0) (.var 0)), (0, .arrow (.var 2) (.var 2)), (4, .var 3), (3, .var 0)] ∧
      (Activation.unify S t u).Terminates ∧
      ((S.run (unify t u)).1 = .ok () ∨ ∃ e, (S.run (unify t u)).1 = .error e ∧ e.IsRefusal) ∧
      ∀ n, S.unifyBound t u ≤ n → S.run (unifyWithin n t u) = S.run (unify t u) := by
  intro S t u
  have hS : S.Acyclic := acyclic_of_rank (fun i => i) (by decide)
  have hp : S.All MonoTy.Proper := all_of_forall_mem (by decide)
  have ht : t.Proper := by decide
  have hu : u.Proper := by decide
  exact ⟨⟨hS, hp, ht, hu⟩, rfl, unify_terminates hS hp ht hu⟩

end TypedLambda.Store
