/-
Running an operation that draws names.

Operations on terms and evaluations are both functions from the names used so far to a
result and the names used after.  `Naming.run` applies one; the lemmas say what it does
to each way of putting operations together, so that no proof has to look at the monad.

Supplies only move on.  `run_mapM` is the one induction over operands and arguments: what
holds of one operation from every later point on holds of them all in a row.
-/
import TypedLambda.Eval
import TypedLambda.Proofs.Supply
import Mathlib.Data.List.Forall2

namespace TypedLambda

/-- Operations along a list that draw nothing and cannot fail. -/
theorem mapM_eq_pure {m : Type → Type} [Monad m] [LawfulMonad m] {α β : Type} {f : α → m β}
    {g : α → β} {l : List α} (h : ∀ a ∈ l, f a = pure (g a)) : l.mapM f = pure (l.map g) := by
  induction l with
  | nil => simp
  | cons a l ih =>
      rw [List.mapM_cons, h a (by simp), ih fun b hb => h b (by simp [hb])]
      simp

namespace Naming

variable {ε α β : Type}

/-- The number that the next name ends in. -/
abbrev next (names : Naming) : Nat := names.supply.next

/-- The result of an operation that starts from `names`, and the names after it. -/
def run (names : Naming) (x : ExceptT ε (StateM Naming) α) : Except ε α × Naming :=
  x.run.run names

@[simp] theorem run_pure (names : Naming) (a : α) :
    names.run (pure a : ExceptT ε (StateM Naming) α) = (.ok a, names) := rfl

@[simp] theorem run_liftExcept_ok (names : Naming) (a : α) :
    names.run (liftExcept (.ok a : Except ε α) : ExceptT ε (StateM Naming) α)
      = (.ok a, names) := rfl

theorem run_bind (names : Naming) (x : ExceptT ε (StateM Naming) α)
    (f : α → ExceptT ε (StateM Naming) β) :
    names.run (x >>= f) =
      match names.run x with
      | (.ok a, names') => names'.run (f a)
      | (.error e, names') => (.error e, names') := by
  have hstep : names.run (x >>= f)
      = (ExceptT.bindCont f (names.run x).1).run (names.run x).2 := rfl
  rw [hstep]
  rcases names.run x with ⟨_ | a, names'⟩
  · rfl
  · rfl

/-- An operation that succeeds hands its result and its names on. -/
theorem run_bind_ok {names names' : Naming} {x : ExceptT ε (StateM Naming) α} {a : α}
    (h : names.run x = (.ok a, names')) (f : α → ExceptT ε (StateM Naming) β) :
    names.run (x >>= f) = names'.run (f a) := by
  rw [run_bind, h]

/-- If the parts draw no name, the sequence does not either. -/
theorem run_bind_eq {names : Naming} {x : ExceptT ε (StateM Naming) α} {y : Except ε α}
    {f : α → ExceptT ε (StateM Naming) β} {g : α → Except ε β} (hx : names.run x = (y, names))
    (hf : ∀ a, y = .ok a → names.run (f a) = (g a, names)) :
    names.run (x >>= f) = (y >>= g, names) := by
  rw [run_bind, hx]
  cases y with
  | error e => rfl
  | ok a => exact hf a rfl

theorem run_mapM_eq {names : Naming} {f : α → ExceptT ε (StateM Naming) β} {g : α → Except ε β}
    {l : List α} (h : ∀ a ∈ l, names.run (f a) = (g a, names)) :
    names.run (l.mapM f) = (l.mapM g, names) := by
  induction l with
  | nil => rfl
  | cons a l ih =>
      rw [List.mapM_cons, List.mapM_cons]
      exact run_bind_eq (h a (by simp)) fun b _ =>
        run_bind_eq (ih fun c hc => h c (by simp [hc])) fun bs _ => rfl

theorem run_freshBinder (names : Naming) (binder : String) (avoid : List String) :
    names.run (freshBinder binder avoid) =
      (.ok (names.supply.freshOutside binder avoid).1,
        ⟨(names.supply.freshOutside binder avoid).2,
          ⟨binder, (names.supply.freshOutside binder avoid).1⟩ :: names.renamed⟩) := rfl

/-- A draw for a binder gives a name outside `avoid`, and one that is numbered from here on. -/
theorem exists_run_freshBinder (names : Naming) (binder : String) (avoid : List String) :
    ∃ n names', names.run (freshBinder binder avoid) = (.ok (Supply.nameAt binder n), names') ∧
      names.next ≤ n ∧ names.next ≤ names'.next ∧ Supply.nameAt binder n ∉ avoid := by
  obtain ⟨k, hdraw, -, hout⟩ := names.supply.freshOutside_spec binder avoid
  have hrun := names.run_freshBinder binder avoid
  rw [hdraw] at hrun
  refine ⟨_, _, hrun, Nat.le_add_right _ _, ?_, hout⟩
  show names.next ≤ names.next + k + 1
  omega

/--
One operation after another along a list.  `R` is what is known of an element and its
result; it may be used from every point that the supply reaches on the way.
-/
theorem run_mapM {f : α → ExceptT ε (StateM Naming) β} {R : α → β → Prop} {l : List α}
    (names : Naming)
    (h : ∀ a ∈ l, ∀ names₁ : Naming, names.next ≤ names₁.next →
      ∃ b names₂, names₁.run (f a) = (.ok b, names₂) ∧ names₁.next ≤ names₂.next ∧ R a b) :
    ∃ bs names', names.run (l.mapM f) = (.ok bs, names') ∧ names.next ≤ names'.next ∧
      List.Forall₂ R l bs := by
  induction l generalizing names with
  | nil => exact ⟨[], names, by simp, Nat.le_refl _, .nil⟩
  | cons a l ih =>
      obtain ⟨b, names₁, hb, hle₁, hR⟩ := h a (by simp) names (Nat.le_refl _)
      obtain ⟨bs, names₂, hbs, hle₂, hRs⟩ := ih names₁ fun c hc names₂ hle =>
        h c (by simp [hc]) names₂ (Nat.le_trans hle₁ hle)
      refine ⟨b :: bs, names₂, ?_, Nat.le_trans hle₁ hle₂, .cons hR hRs⟩
      rw [List.mapM_cons, run_bind_ok hb, run_bind_ok hbs, run_pure]

end Naming

end TypedLambda
