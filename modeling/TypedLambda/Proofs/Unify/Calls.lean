/-
The store over any number of calls.

A store is shared by all calls of the unifier, and a call that fails leaves in it what it had
bound so far.  The store is still one to go on from: a call binds nothing but unbound cells, each
to a type in which it is not met, however the call ends, so the store it leaves is acyclic
if the one it found was.  That is the step, and any list of calls follows.

An acyclic store is what resolving, rendering and the occurs check need.  On it each of them ends
on every type, and a bound larger than the weight would not change what it gives.
-/
import TypedLambda.Proofs.Unify.Termination

namespace TypedLambda

/-- The types were refused: they have different shapes, or only an infinite type would do. -/
def UnifyFailure.IsRefusal : UnifyFailure → Prop
  | mismatch .. | occurs .. => True
  | _ => False

theorem UnifyFailure.isRefusal_within {e : UnifyFailure} (he : e.IsRefusal) (t u : MonoTy) :
    (e.within t u).IsRefusal := by
  cases e with
  | mismatch | occurs => trivial
  | unknownType | outOfBound => exact he.elim

namespace Store

variable {S S' : Store} {t u : MonoTy}

/-! ### One call -/

/-- Without a stray text in the types or the store, a failure is a refusal. -/
theorem Refuses.isRefusal {e : UnifyFailure} (h : Refuses S t u e S') (hS : S.Acyclic)
    (hp : S.All MonoTy.Proper) (ht : t.Proper) (hu : u.Proper) : e.IsRefusal := by
  induction h with
  | clash | occurs => trivial
  | unknown _ _ hocc =>
      obtain ⟨b, hb⟩ := exists_occurs hp _ hu
      rw [hocc] at hb
      cases hb
  | left hi _ ih => exact ih hS hp (hp _ _ hi) hu
  | right _ hj _ ih => exact ih hS hp ht (hp _ _ hj)
  | swap _ _ ih => exact ih hS hp hu ht
  | arg r r' _ ih => exact UnifyFailure.isRefusal_within (ih hS hp ht.1 hu.1) _ _
  | ret ha _ ih =>
      have h₁ := ha.grows MonoTy.hereditary_proper hS hp ht.1 hu.1
      have hr := ih (h₁.acyclic hS) (h₁.all hp) ht.2 hu.2
      exact UnifyFailure.isRefusal_within hr _ _

/-- **However a call ends, it has bound unbound cells, each to a type in which it is not met.** -/
theorem Acyclic.grows_unify {P : MonoTy → Prop} (hP : MonoTy.Hereditary P) (hS : S.Acyclic)
    (hb : S.Keeps P) (ht : P t) (hu : P u) : Grows P S (S.run (unify t u)).2 := by
  rcases hS.ends_unify t u with ⟨S', hx, h⟩ | ⟨e, S', hx, h⟩
  · rw [hx]
    exact h.grows_of_keeps hP hS hb ht hu
  · rw [hx]
    exact h.grows_of_keeps hP hS hb ht hu

theorem Acyclic.isRefusal_of_unify (hS : S.Acyclic) (hp : S.All MonoTy.Proper) (ht : t.Proper)
    (hu : u.Proper) {e : UnifyFailure} (he : (S.run (unify t u)).1 = .error e) :
    e.IsRefusal := by
  rcases hS.ends_unify t u with ⟨S', hx, -⟩ | ⟨f, S', hx, h⟩
  · rw [hx] at he
    cases he
  · rw [hx] at he
    obtain rfl := Except.error.inj he
    exact h.isRefusal hS hp ht hu

/-! ### Any number of calls -/

/-- A call of the unifier. -/
inductive Call where
  | unify (t u : MonoTy)
  | unifyVar (i : Nat) (t : MonoTy)

namespace Call

def run : Call → UnifyM Unit
  | unify t u => Store.unify t u
  | unifyVar i t => Store.unifyVar i t

/-- The two types that are to be made equal. -/
def sides : Call → MonoTy × MonoTy
  | unify t u => (t, u)
  | unifyVar i t => (.var i, t)

/-- No text stands where a type belongs. -/
def Proper (c : Call) : Prop := c.sides.1.Proper ∧ c.sides.2.Proper

instance decideProper : DecidablePred Proper := fun _ => inferInstanceAs (Decidable (_ ∧ _))

theorem run_eq_unify (c : Call) : c.run = Store.unify c.sides.1 c.sides.2 := by
  cases c <;> rfl

end Call

/--
One call after the other, each on the store that the one before left, whether that failed or not:
how each of them ended, and the store after the last.
-/
def runCalls (S : Store) : List Call → List (Except UnifyFailure Unit) × Store
  | [] => ([], S)
  | c :: calls =>
    let (x, S₁) := S.run c.run
    let (xs, S₂) := runCalls S₁ calls
    (x :: xs, S₂)

theorem Acyclic.acyclic_run (hS : S.Acyclic) (c : Call) : (S.run c.run).2.Acyclic := by
  have hgrows : Grows (fun _ => True) S (S.run c.run).2 := by
    rw [c.run_eq_unify]
    exact hS.grows_unify (fun _ _ _ => ⟨trivial, trivial⟩) (fun _ _ _ _ => trivial) trivial trivial
  exact hgrows.acyclic hS

theorem Acyclic.proper_run (hS : S.Acyclic) (hp : S.All MonoTy.Proper) {c : Call}
    (hc : c.Proper) : (S.run c.run).2.All MonoTy.Proper := by
  rw [c.run_eq_unify]
  exact (hS.grows_unify MonoTy.hereditary_proper hp.keeps hc.1 hc.2).all hp

theorem Acyclic.acyclic_runCalls (hS : S.Acyclic) (calls : List Call) :
    (S.runCalls calls).2.Acyclic := by
  induction calls generalizing S with
  | nil => exact hS
  | cons c calls ih => exact ih (hS.acyclic_run c)

theorem Acyclic.isRefusal_of_runCalls (hS : S.Acyclic) (hp : S.All MonoTy.Proper)
    {calls : List Call} (hc : ∀ c ∈ calls, c.Proper) {e : UnifyFailure}
    (he : .error e ∈ (S.runCalls calls).1) : e.IsRefusal := by
  induction calls generalizing S with
  | nil => cases he
  | cons c calls ih =>
      obtain ⟨hhead, htail⟩ := List.forall_mem_cons.mp hc
      rcases List.mem_cons.mp he with h | h
      · have hx : (S.run c.run).1 = .error e := h.symm
        rw [c.run_eq_unify] at hx
        exact hS.isRefusal_of_unify hp hhead.1 hhead.2 hx
      · exact ih (hS.acyclic_run c) (hS.proper_run hp hhead) htail h

/-! ### What an acyclic store is good for -/

/--
What follows arrows and bindings from a type comes to an end, within the weight.  So with any
larger bound it gives the same, and resolving leaves no bound cell.
-/
structure Settles (S : Store) (t : MonoTy) : Prop where
  ends : S.EndsWithin (S.weight t) t
  resolve : ∀ n, S.weight t ≤ n → S.resolveWithin n t = S.resolve t
  occurs : ∀ i n, S.weight t ≤ n → S.occursWithin i n t = S.occurs i t
  render : ∀ n, S.weight t ≤ n → S.renderWithin n t = S.render t
  unbound : ∀ i ∈ (S.resolve t).cells, S.lookup? i = none

theorem Acyclic.settles (hS : S.Acyclic) (t : MonoTy) : S.Settles t where
  ends := hS.endsWithin t
  resolve _ hn := (hS.endsWithin t).eq_of_le EndsWithin.resolveWithin_succ hn
  occurs i _ hn := (hS.endsWithin t).eq_of_le (EndsWithin.occursWithin_succ i) hn
  render _ hn := (hS.endsWithin t).eq_of_le EndsWithin.renderWithin_succ hn
  unbound _ hi := (hS.of_mem_cells_resolve hi).1

/--
**The store stays acyclic over any number of calls**, whatever their types are and however each of
them ends, so in the store they leave everything still settles.  Calls on types without
stray texts fail only by refusing them.
-/
theorem acyclic_after_calls (hS : S.Acyclic) (calls : List Call) :
    (S.runCalls calls).2.Acyclic ∧ (∀ t, (S.runCalls calls).2.Settles t) ∧
      (S.All MonoTy.Proper → (∀ c ∈ calls, c.Proper) →
        ∀ e, .error e ∈ (S.runCalls calls).1 → e.IsRefusal) := by
  have hend := hS.acyclic_runCalls calls
  exact ⟨hend, hend.settles, fun hp hc _ he => hS.isRefusal_of_runCalls hp hc he⟩

/-- Of three calls the first fails after it has bound a cell, and the second in the occurs check. -/
theorem acyclic_after_calls_failing :
    let S : Store := { trail := [(0, .arrow (.var 1) (.var 2))] }
    let calls : List Call :=
      [.unify (.arrow (.var 1) .int) (.arrow .bool .bool), .unifyVar 2 (.var 0),
        .unify (.var 2) (.var 3)]
    (S.Acyclic ∧ S.All MonoTy.Proper ∧ ∀ c ∈ calls, c.Proper) ∧
      (S.runCalls calls).1 =
        [.error (.mismatch (.arrow (.var 1) .int) (.arrow .bool .bool) [(.int, .bool)]),
          .error (.occurs 2 (.arrow (.var 1) (.var 2))), .ok ()] ∧
      (S.runCalls calls).2.trail = [(2, .var 3), (1, .bool), (0, .arrow (.var 1) (.var 2))] ∧
      (S.runCalls calls).2.Acyclic ∧ (∀ t, (S.runCalls calls).2.Settles t) ∧
      ∀ e, .error e ∈ (S.runCalls calls).1 → e.IsRefusal := by
  intro S calls
  have hS : S.Acyclic := acyclic_of_rank (fun i => if i = 0 then 1 else 0) (by decide)
  have hp : S.All MonoTy.Proper := all_of_forall_mem (by decide)
  have hc : ∀ c ∈ calls, c.Proper := by decide
  obtain ⟨hend, hsettles, hrefusal⟩ := acyclic_after_calls hS calls
  exact ⟨⟨hS, hp, hc⟩, rfl, rfl, hend, hsettles, hrefusal hp hc⟩

end Store

end TypedLambda
