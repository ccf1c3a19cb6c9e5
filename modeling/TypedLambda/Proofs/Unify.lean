/-
The rules by which a run of the unifier proceeds.

A run is a recursion with a bound in a monad that carries the store.  Nothing of that is left
here.  `Unifies S t u S'` says by its rules how `t` and `u` are made equal in `S`, with `S'`
the store after it, and `Refuses S t u e S'` how it comes to the failure `e`.  `Stalls n S t u`
says how it reaches its bound, if that is `n`.  There is one rule for each thing a run can do,
with what the run has checked before it does it, so what holds of every run is proved by
induction on the rules and one case a rule.

`ends_unifyWithin` says that a run goes by the rules.
-/
import TypedLambda.Proofs.Store.Resolve

namespace TypedLambda

/-- Neither type is a cell, and they do not have the same shape; a stray text has none. -/
def MonoTy.Clashes : MonoTy → MonoTy → Prop
  | int, int | bool, bool | arrow .., arrow .. => False
  | var _, _ | _, var _ => False
  | _, _ => True

namespace Store

/-! ### The rules -/

/-- Two types are made equal. -/
inductive Unifies : Store → MonoTy → MonoTy → Store → Prop where
  | int (S : Store) : Unifies S .int .int S
  | bool (S : Store) : Unifies S .bool .bool S
  | same {S : Store} {i : Nat} (hi : S.lookup? i = none) : Unifies S (.var i) (.var i) S
  | link {S : Store} {i j : Nat} (hi : S.lookup? i = none) (hj : S.lookup? j = none)
      (hij : i ≠ j) : Unifies S (.var i) (.var j) (S.bind i (.var j))
  | bind {S : Store} {i : Nat} {u : MonoTy} (hi : S.lookup? i = none) (hu : ∀ j, u ≠ .var j)
      (hocc : S.occurs i u = .ok false) : Unifies S (.var i) u (S.bind i u)
  | left {S S' : Store} {i : Nat} {t u : MonoTy} (hi : S.lookup? i = some t)
      (h : Unifies S t u S') : Unifies S (.var i) u S'
  | right {S S' : Store} {i j : Nat} {u : MonoTy} (hi : S.lookup? i = none)
      (hj : S.lookup? j = some u) (h : Unifies S (.var i) u S') : Unifies S (.var i) (.var j) S'
  | swap {S S' : Store} {t : MonoTy} {j : Nat} (ht : ∀ i, t ≠ .var i)
      (h : Unifies S (.var j) t S') : Unifies S t (.var j) S'
  | arrow {S S₁ S₂ : Store} {a r a' r' : MonoTy} (ha : Unifies S a a' S₁)
      (hr : Unifies S₁ r r' S₂) : Unifies S (.arrow a r) (.arrow a' r') S₂

/-- Two types are found not to be equal; the store keeps what was bound before. -/
inductive Refuses : Store → MonoTy → MonoTy → UnifyFailure → Store → Prop where
  | clash (S : Store) {t u : MonoTy} (h : t.Clashes u) : Refuses S t u (.mismatch t u []) S
  | occurs {S : Store} {i : Nat} {u : MonoTy} (hi : S.lookup? i = none) (hu : ∀ j, u ≠ .var j)
      (hocc : S.occurs i u = .ok true) : Refuses S (.var i) u (.occurs i u) S
  | unknown {S : Store} {i : Nat} {u : MonoTy} {e : UnifyFailure} (hi : S.lookup? i = none)
      (hu : ∀ j, u ≠ .var j) (hocc : S.occurs i u = .error e) : Refuses S (.var i) u e S
  | left {S S' : Store} {i : Nat} {t u : MonoTy} {e : UnifyFailure} (hi : S.lookup? i = some t)
      (h : Refuses S t u e S') : Refuses S (.var i) u e S'
  | right {S S' : Store} {i j : Nat} {u : MonoTy} {e : UnifyFailure} (hi : S.lookup? i = none)
      (hj : S.lookup? j = some u) (h : Refuses S (.var i) u e S') :
      Refuses S (.var i) (.var j) e S'
  | swap {S S' : Store} {t : MonoTy} {j : Nat} {e : UnifyFailure} (ht : ∀ i, t ≠ .var i)
      (h : Refuses S (.var j) t e S') : Refuses S t (.var j) e S'
  | arg {S S₁ : Store} {a a' : MonoTy} {e : UnifyFailure} (r r' : MonoTy)
      (ha : Refuses S a a' e S₁) :
      Refuses S (.arrow a r) (.arrow a' r') (e.within (.arrow a r) (.arrow a' r')) S₁
  | ret {S S₁ S₂ : Store} {a r a' r' : MonoTy} {e : UnifyFailure} (ha : Unifies S a a' S₁)
      (hr : Refuses S₁ r r' e S₂) :
      Refuses S (.arrow a r) (.arrow a' r') (e.within (.arrow a r) (.arrow a' r')) S₂

/-- A bound of `n` is reached; each step takes one off it. -/
inductive Stalls : Nat → Store → MonoTy → MonoTy → Prop where
  | zero (S : Store) (t u : MonoTy) : Stalls 0 S t u
  | left {n : Nat} {S : Store} {i : Nat} {t u : MonoTy} (hi : S.lookup? i = some t)
      (h : Stalls n S t u) : Stalls (n + 1) S (.var i) u
  | right {n : Nat} {S : Store} {i j : Nat} {u : MonoTy} (hi : S.lookup? i = none)
      (hj : S.lookup? j = some u) (h : Stalls n S (.var i) u) : Stalls (n + 1) S (.var i) (.var j)
  | swap {n : Nat} {S : Store} {t : MonoTy} {j : Nat} (ht : ∀ i, t ≠ .var i)
      (h : Stalls n S (.var j) t) : Stalls (n + 1) S t (.var j)
  | arg {n : Nat} {S : Store} {a a' : MonoTy} (r r' : MonoTy) (ha : Stalls n S a a') :
      Stalls (n + 1) S (.arrow a r) (.arrow a' r')
  | ret {n : Nat} {S S₁ : Store} {a r a' r' : MonoTy} (ha : Unifies S a a' S₁)
      (hr : Stalls n S₁ r r') : Stalls (n + 1) S (.arrow a r) (.arrow a' r')

/-- What a run with a bound of `n` that goes by the rules may end in. -/
def Ends (n : Nat) (S : Store) (t u : MonoTy) : Except UnifyFailure Unit × Store → Prop
  | (.ok _, S') => Unifies S t u S'
  | (.error e, S') => Refuses S t u e S' ∨ e = .outOfBound ∧ Stalls n S t u

/-! ### Running the unifier -/

section

variable {α β : Type} (S : Store)

/-- The result of a run that starts from `S`, and the store after it. -/
def run (x : UnifyM α) : Except UnifyFailure α × Store :=
  x.run.run S

theorem run_bind (x : UnifyM α) (f : α → UnifyM β) :
    S.run (x >>= f) =
      match S.run x with
      | (.ok a, S') => S'.run (f a)
      | (.error e, S') => (.error e, S') := by
  have hstep : S.run (x >>= f) = (ExceptT.bindCont f (S.run x).1).run (S.run x).2 := rfl
  rw [hstep]
  rcases S.run x with ⟨_ | a, S'⟩
  · rfl
  · rfl

theorem run_adapt (f : UnifyFailure → UnifyFailure) (x : UnifyM α) :
    S.run (ExceptT.adapt f x) = ((S.run x).1.mapError f, (S.run x).2) := rfl

theorem run_get : S.run get = (.ok S, S) := rfl

theorem run_unify (t u : MonoTy) :
    S.run (unify t u) = S.run (unifyWithin (S.unifyBound t u) t u) := by
  rw [unify, run_bind, run_get]

theorem run_bindChecked (i : Nat) (t : MonoTy) :
    S.run (bindChecked i t) =
      match S.occurs i t with
      | .ok true => (.error (.occurs i t), S)
      | .ok false => (.ok (), S.bind i t)
      | .error e => (.error e, S) := by
  have hstep : S.run (bindChecked i t) = S.run (liftExcept (S.occurs i t) >>= fun b =>
      if b then throw (.occurs i t) else set (S.bind i t)) := rfl
  rw [hstep, run_bind]
  rcases S.occurs i t with e | _ | _
  · rfl
  · rfl
  · rfl

theorem run_arrow (n : Nat) (a r a' r' : MonoTy) :
    S.run (unifyWithin (n + 1) (.arrow a r) (.arrow a' r')) =
      match S.run (unifyWithin n a a') with
      | (.ok _, S₁) =>
        match S₁.run (unifyWithin n r r') with
        | (.ok _, S₂) => (.ok (), S₂)
        | (.error e, S₂) => (.error (e.within (.arrow a r) (.arrow a' r')), S₂)
      | (.error e, S₁) => (.error (e.within (.arrow a r) (.arrow a' r')), S₁) := by
  rw [unifyWithin, run_adapt, run_bind]
  rcases S.run (unifyWithin n a a') with ⟨e | _, S₁⟩
  · rfl
  · rcases hr : S₁.run (unifyWithin n r r') with ⟨e | _, S₂⟩
    · simp only [hr]
      rfl
    · simp only [hr]
      rfl

end

section

variable {S : Store} (n : Nat)

theorem run_left {i : Nat} {t : MonoTy} (hi : S.lookup? i = some t) (u : MonoTy) :
    S.run (unifyWithin (n + 1) (.var i) u) = S.run (unifyWithin n t u) := by
  cases u with
  | var j =>
      rw [unifyWithin, run_bind, run_get]
      dsimp only
      rw [hi]
  | int | bool | arrow | stray =>
      rw [unifyWithin, run_bind, run_get]
      · dsimp only
        rw [hi]
      · simp

theorem run_bindChecked_of_unbound {i : Nat} (hi : S.lookup? i = none) {u : MonoTy}
    (hu : ∀ j, u ≠ .var j) :
    S.run (unifyWithin (n + 1) (.var i) u) = S.run (bindChecked i u) := by
  cases u with
  | var j => exact absurd rfl (hu j)
  | int | bool | arrow | stray =>
      rw [unifyWithin, run_bind, run_get]
      · dsimp only
        rw [hi]
      · exact hu

theorem run_vars {i : Nat} (hi : S.lookup? i = none) (j : Nat) :
    S.run (unifyWithin (n + 1) (.var i) (.var j)) =
      match S.lookup? j with
      | some u => S.run (unifyWithin n (.var i) u)
      | none => if i = j then (.ok (), S) else (.ok (), S.bind i (.var j)) := by
  rw [unifyWithin, run_bind, run_get]
  dsimp only
  rw [hi]
  dsimp only
  rw [run_bind, run_get]
  dsimp only
  cases S.lookup? j with
  | some u => rfl
  | none =>
      by_cases hij : i = j
      · simp only [hij, if_true]
        rfl
      · simp only [hij, if_false]
        rfl

theorem run_swap {t : MonoTy} (ht : ∀ i, t ≠ .var i) (j : Nat) :
    S.run (unifyWithin (n + 1) t (.var j)) = S.run (unifyWithin n (.var j) t) := by
  cases t with
  | var i => exact absurd rfl (ht i)
  | int | bool | arrow | stray => rfl

theorem run_clash {t u : MonoTy} (h : t.Clashes u) :
    S.run (unifyWithin (n + 1) t u) = (.error (.mismatch t u []), S) := by
  cases t <;> cases u <;> first | rfl | exact h.elim

end

/-! ### A run goes by the rules -/

section

variable {n : Nat} {S : Store} {t u : MonoTy} {x : Except UnifyFailure Unit × Store}

theorem Ends.left {i : Nat} (hi : S.lookup? i = some t) (h : Ends n S t u x) :
    Ends (n + 1) S (.var i) u x := by
  rcases x with ⟨e | _, S'⟩
  · exact h.imp (.left hi) (And.imp_right (.left hi))
  · exact .left hi h

theorem Ends.right {i j : Nat} (hi : S.lookup? i = none) (hj : S.lookup? j = some u)
    (h : Ends n S (.var i) u x) : Ends (n + 1) S (.var i) (.var j) x := by
  rcases x with ⟨e | _, S'⟩
  · exact h.imp (.right hi hj) (And.imp_right (.right hi hj))
  · exact .right hi hj h

theorem Ends.swap {j : Nat} (ht : ∀ i, t ≠ .var i) (h : Ends n S (.var j) t x) :
    Ends (n + 1) S t (.var j) x := by
  rcases x with ⟨e | _, S'⟩
  · exact h.imp (.swap ht) (And.imp_right (.swap ht))
  · exact .swap ht h

theorem ends_bindChecked {i : Nat} (hi : S.lookup? i = none) (hu : ∀ j, u ≠ .var j) :
    Ends (n + 1) S (.var i) u (S.run (unifyWithin (n + 1) (.var i) u)) := by
  rw [run_bindChecked_of_unbound n hi hu, run_bindChecked]
  rcases hocc : S.occurs i u with e | _ | _
  · exact Or.inl (.unknown hi hu hocc)
  · exact .bind hi hu hocc
  · exact Or.inl (.occurs hi hu hocc)

theorem ends_clash (h : t.Clashes u) :
    Ends (n + 1) S t u (S.run (unifyWithin (n + 1) t u)) := by
  rw [run_clash n h]
  exact Or.inl (.clash S h)

section

variable (ih : ∀ S t u, Ends n S t u (S.run (unifyWithin n t u)))

include ih

theorem ends_swap (ht : ∀ i, t ≠ .var i) (j : Nat) :
    Ends (n + 1) S t (.var j) (S.run (unifyWithin (n + 1) t (.var j))) := by
  rw [run_swap n ht]
  exact (ih S (.var j) t).swap ht

theorem ends_arrow (a r a' r' : MonoTy) :
    Ends (n + 1) S (.arrow a r) (.arrow a' r')
      (S.run (unifyWithin (n + 1) (.arrow a r) (.arrow a' r'))) := by
  rw [run_arrow]
  have ha := ih S a a'
  rcases hx : S.run (unifyWithin n a a') with ⟨e | _, S₁⟩
  · rw [hx] at ha
    rcases ha with ha | ⟨rfl, ha⟩
    · exact Or.inl (.arg r r' ha)
    · exact Or.inr ⟨rfl, .arg r r' ha⟩
  · rw [hx] at ha
    have hr := ih S₁ r r'
    dsimp only
    rcases hy : S₁.run (unifyWithin n r r') with ⟨e | _, S₂⟩
    · rw [hy] at hr
      rcases hr with hr | ⟨rfl, hr⟩
      · exact Or.inl (.ret ha hr)
      · exact Or.inr ⟨rfl, .ret ha hr⟩
    · rw [hy] at hr
      exact .arrow ha hr

theorem ends_var (i : Nat) (u : MonoTy) :
    Ends (n + 1) S (.var i) u (S.run (unifyWithin (n + 1) (.var i) u)) := by
  cases hi : S.lookup? i with
  | some t =>
      rw [run_left n hi]
      exact (ih S t u).left hi
  | none =>
      cases u with
      | var j =>
          rw [run_vars n hi]
          cases hj : S.lookup? j with
          | some u => exact (ih S (.var i) u).right hi hj
          | none =>
              dsimp only
              by_cases hij : i = j
              · rw [if_pos hij]
                exact hij ▸ .same hi
              · rw [if_neg hij]
                exact .link hi hj hij
      | int | bool | arrow | stray => exact ends_bindChecked hi (by simp)

end

end

/-- **A run goes by the rules.** -/
theorem ends_unifyWithin (n : Nat) (S : Store) (t u : MonoTy) :
    Ends n S t u (S.run (unifyWithin n t u)) := by
  induction n generalizing S t u with
  | zero => exact Or.inr ⟨rfl, .zero S t u⟩
  | succ n ih =>
      cases t with
      | var i => exact ends_var ih i u
      | arrow a r =>
          cases u with
          | arrow a' r' => exact ends_arrow ih a r a' r'
          | var j => exact ends_swap ih (by simp) j
          | int | bool | stray => exact ends_clash trivial
      | int =>
          cases u with
          | int => exact .int S
          | var j => exact ends_swap ih (by simp) j
          | bool | arrow | stray => exact ends_clash trivial
      | bool =>
          cases u with
          | bool => exact .bool S
          | var j => exact ends_swap ih (by simp) j
          | int | arrow | stray => exact ends_clash trivial
      | stray s =>
          cases u with
          | var j => exact ends_swap ih (by simp) j
          | int | bool | arrow | stray => exact ends_clash trivial

end Store

end TypedLambda
