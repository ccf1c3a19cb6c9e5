/-
What an operation that draws names may end in.

`EndsIn P E x` says that `x` ends in a result with `P` or in an error with `E`, whatever
names it starts from.  Nothing is said about the names, so such facts go through every way of
putting operations together, and the lemmas here are one a way.  A proof about an operation then
follows its definition line by line.
-/
import TypedLambda.Proofs.Naming

namespace TypedLambda.Naming

variable {ε ε' α β : Type}

/-- A result is a `P` and an error is an `E`, from whatever names the operation starts. -/
def EndsIn (P : α → Prop) (E : ε → Prop) (x : ExceptT ε (StateM Naming) α) : Prop :=
  ∀ names : Naming, match (names.run x).1 with
    | .ok a => P a
    | .error e => E e

section

variable {P Q : α → Prop} {E : ε → Prop} {x : ExceptT ε (StateM Naming) α}

theorem EndsIn.of_ok (h : EndsIn P E x) {names : Naming} {a : α}
    (ha : (names.run x).1 = .ok a) : P a := by
  have hends := h names
  rwa [ha] at hends

theorem EndsIn.of_error (h : EndsIn P E x) {names : Naming} {e : ε}
    (he : (names.run x).1 = .error e) : E e := by
  have hends := h names
  rwa [he] at hends

theorem endsIn_of_run
    (h : ∀ names : Naming, ∃ a names', names.run x = (.ok a, names') ∧ P a) : EndsIn P E x := by
  intro names
  obtain ⟨a, names', hrun, ha⟩ := h names
  rw [hrun]
  exact ha

theorem endsIn_any : EndsIn (fun _ => True) (fun _ => True) x := by
  intro names
  cases (names.run x).1 with
  | ok a => trivial
  | error e => trivial

theorem endsIn_pure {a : α} (h : P a) : EndsIn P E (pure a) := fun _ => h

theorem endsIn_throw {e : ε} (h : E e) : EndsIn P E (throw e) := fun _ => h

theorem EndsIn.imp (h : EndsIn P E x) (hPQ : ∀ a, P a → Q a) : EndsIn Q E x := by
  intro names
  have hends := h names
  cases hx : (names.run x).1 with
  | ok a =>
      rw [hx] at hends
      exact hPQ a hends
  | error e =>
      rw [hx] at hends
      exact hends

theorem EndsIn.and (h : EndsIn P E x) (h' : EndsIn Q E x) : EndsIn (fun a => P a ∧ Q a) E x := by
  intro names
  have hP := h names
  have hQ := h' names
  cases hx : (names.run x).1 with
  | ok a =>
      rw [hx] at hP hQ
      exact ⟨hP, hQ⟩
  | error e =>
      rw [hx] at hP
      exact hP

theorem EndsIn.bind {R : β → Prop} {f : α → ExceptT ε (StateM Naming) β} (hx : EndsIn P E x)
    (hf : ∀ a, P a → EndsIn R E (f a)) : EndsIn R E (x >>= f) := by
  intro names
  have hends := hx names
  rw [run_bind]
  rcases hrun : names.run x with ⟨e | a, names'⟩
  · rw [hrun] at hends
    exact hends
  · rw [hrun] at hends
    exact hf a hends names'

/-- Another kind of error in the place of each error. -/
theorem EndsIn.adapt {E' : ε' → Prop} {f : ε → ε'} (h : EndsIn P E x) (hf : ∀ e, E e → E' (f e)) :
    EndsIn P E' (ExceptT.adapt f x) := by
  intro names
  have hends := h names
  have hrun : (names.run (ExceptT.adapt f x)).1 = (names.run x).1.mapError f := rfl
  rw [hrun]
  cases hx : (names.run x).1 with
  | ok a =>
      rw [hx] at hends
      exact hends
  | error e =>
      rw [hx] at hends
      exact hf e hends

theorem endsIn_liftExcept {y : Except ε α} (h : ∀ a, y = .ok a → P a)
    (h' : ∀ e, y = .error e → E e) : EndsIn P E (liftExcept y) := by
  cases y with
  | ok a => exact endsIn_pure (h a rfl)
  | error e => exact endsIn_throw (h' e rfl)

end

theorem endsIn_mapM {R : α → β → Prop} {E : ε → Prop} {f : α → ExceptT ε (StateM Naming) β}
    {l : List α} (h : ∀ a ∈ l, EndsIn (R a) E (f a)) :
    EndsIn (List.Forall₂ R l) E (l.mapM f) := by
  induction l with
  | nil => exact endsIn_pure .nil
  | cons a l ih =>
      rw [List.mapM_cons]
      refine (h a List.mem_cons_self).bind fun b hb => ?_
      refine (ih fun c hc => h c (List.mem_cons_of_mem a hc)).bind fun bs hbs => ?_
      exact endsIn_pure (.cons hb hbs)

end TypedLambda.Naming
