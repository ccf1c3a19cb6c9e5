/-
Evaluation invents no name and lets none out.

A run starts from a term, and the names that are free in it are all that is ever free: in the
terms it goes through, in the value it ends in, and in the terms that an error carries.  The
term may be open or ill typed.  Fix a set of names.  Each step leads from terms within it to
terms within it: a binder is taken away and a term within the set is put in the place of its
name, so what the binder hid is gone, and substitution brings in nothing else.

Then the only fault that a well formed term comes to is that an error cannot be written, and the
name of a free variable error is in the set.
-/
import TypedLambda.Proofs.Reduce
import TypedLambda.Proofs.Scope
import TypedLambda.Proofs.Subst.Confined
import TypedLambda.Proofs.Writable

namespace TypedLambda

/-- The names an error carries. -/
def EvalError.names : EvalError → List String
  | .freeVariable x => [x]
  | _ => []

namespace Term

structure ValueWithin (S : String → Prop) (v : Term) : Prop extends Within S v where
  isValue : v.isValue = true

/-- An error carries no name and no value from outside the set; no fault is about a term. -/
def StopWithin (S : String → Prop) : Stop → Prop
  | .error e => (∀ x ∈ e.names, S x) ∧ ∀ v ∈ e.terms, ValueWithin S v
  | .fault f => f = .integerTooLong
  | .outOfBudget => True

open Naming (EndsIn)

variable {S : String → Prop}

theorem IsClosedValue.valueWithin {v : Term} (h : v.IsClosedValue) : ValueWithin S v where
  wellFormed := h.wellFormed
  free z hz := absurd hz (h.closed z)
  isValue := h.isValue

theorem stopWithin_stop {e : EvalError} (hnames : ∀ x ∈ e.names, S x)
    (hterms : ∀ v ∈ e.terms, ValueWithin S v) : StopWithin S e.stop := by
  by_cases h : e.Writable
  · rw [EvalError.stop_of_writable h]
    exact ⟨hnames, hterms⟩
  · rw [EvalError.stop_of_not_writable h]
    rfl

/-- An error that carries no name but values. -/
theorem stopWithin_of_terms {e : EvalError} (hnames : e.names = [])
    (hterms : ∀ v ∈ e.terms, ValueWithin S v) : StopWithin S e.stop := by
  refine stopWithin_stop ?_ hterms
  rw [hnames]
  exact List.forall_mem_nil _

/-! ### Replacing the names of binders -/

theorem endsIn_toEval {α : Type} {P : α → Prop} {x : NamingM α}
    (h : EndsIn P (fun _ => False) x) : EndsIn P (StopWithin S) x.toEval :=
  h.adapt fun _ hfault => hfault.elim

theorem endsIn_subst_within {r b : Term} {x : String} (hr : Within S r)
    (hb : Within (fun z => z = x ∨ S z) b) :
    EndsIn (Within S) (fun _ => False) (r.subst x b) := by
  refine (endsIn_subst x hr.wellFormed hb.wellFormed).imp fun t h => ?_
  obtain ⟨hwf, hconf⟩ := h
  refine ⟨hwf, ?_⟩
  intro z hz
  rcases hconf z hz with ⟨hzb, hzx⟩ | hzr
  · exact (hb.free z hzb).resolve_left hzx
  · exact hr.free z hzr

/-- Each argument takes the name of its parameter away. -/
theorem endsIn_applyAll_within {ps : List (String × Ty)} {vs : List Term} {b : Term}
    (hlen : vs.length = ps.length) (hvs : ∀ v ∈ vs, Within S v)
    (hb : Within (fun z => z ∈ ps.map (·.1) ∨ S z) b) :
    EndsIn (Within S) (fun _ => False)
      (Substitution.applyAll (List.zipWith (fun p v => Substitution.mk v p.1) ps vs) b) := by
  induction ps generalizing vs b with
  | nil =>
      rw [List.zipWith_nil_left, Substitution.applyAll, List.foldlM_nil]
      exact Naming.endsIn_pure ⟨hb.wellFormed, by simpa using hb.free⟩
  | cons p ps ih =>
      obtain ⟨v, vs, rfl⟩ := List.exists_cons_of_length_eq_add_one hlen
      obtain ⟨hv, hvs⟩ := List.forall_mem_cons.mp hvs
      rw [List.zipWith_cons_cons, Substitution.applyAll, List.foldlM_cons]
      have hfirst : EndsIn (Within fun z => z ∈ ps.map (·.1) ∨ S z) (fun _ => False)
          (v.subst p.1 b) := by
        refine endsIn_subst_within (hv.mono fun _ => Or.inr) (hb.mono fun z hz => ?_)
        rwa [List.map_cons, List.mem_cons, or_assoc] at hz
      exact hfirst.bind fun b₁ hb₁ => ih (by simpa using hlen) hvs hb₁

/-! ### The run -/

theorem endsIn_mapM_within {n : Nat} {ts : List Term}
    (h : ∀ t ∈ ts, EndsIn (ValueWithin S) (StopWithin S) (t.evaluate n)) :
    EndsIn (fun vs => ∀ v ∈ vs, ValueWithin S v) (StopWithin S) (ts.mapM (evaluate n)) := by
  refine (Naming.endsIn_mapM h).imp fun vs hvs => ?_
  induction hvs with
  | nil => exact List.forall_mem_nil _
  | cons hv _ ih =>
      exact List.forall_mem_cons.mpr ⟨hv, ih fun t ht => h t (List.mem_cons_of_mem _ ht)⟩

/-- **A run stays within the names it starts with**, whether it ends in a value or an error. -/
theorem endsIn_evaluate {t : Term} (ht : Within S t) (n : Nat) :
    EndsIn (ValueWithin S) (StopWithin S) (t.evaluate n) := by
  induction n generalizing t with
  | zero => exact Naming.endsIn_throw trivial
  | succ n ih =>
      cases t with
      | int | bool | fn => exact Naming.endsIn_pure ⟨ht, rfl⟩
      | var x =>
          have hname : ∀ y ∈ [x], S y := ht.free
          exact Naming.endsIn_throw (stopWithin_stop hname (List.forall_mem_nil _))
      | stray s => exact ht.wellFormed.elim
      | prim op ts =>
          rw [evaluate]
          have hts := endsIn_mapM_within fun t h => ih (.all ht.wellFormed ht.free h)
          refine hts.bind fun vs hvs => ?_
          cases hop : op.apply? vs with
          | none => exact Naming.endsIn_throw (stopWithin_of_terms rfl hvs)
          | some v => exact Naming.endsIn_pure (Prim.isClosedValue_of_result hop).valueWithin
      | ite c a b =>
          obtain ⟨hc, ha, hb⟩ := ht.ite
          rw [evaluate]
          refine (ih hc).bind fun v hv => ?_
          have hcarried : ∀ w ∈ [v], ValueWithin S w := List.forall_mem_singleton.mpr hv
          cases v with
          | bool k =>
              cases k with
              | true => exact ih ha
              | false => exact ih hb
          | _ => exact Naming.endsIn_throw (stopWithin_of_terms rfl hcarried)
      | letIn x v b =>
          obtain ⟨hv, hb⟩ := ht.letIn
          rw [evaluate]
          refine (ih hv).bind fun w hw => ?_
          exact (endsIn_toEval (endsIn_subst_within hw.toWithin hb)).bind fun b' hb' => ih hb'
      | fix f τ b =>
          rw [evaluate]
          exact (endsIn_toEval (endsIn_subst_within ht ht.fix)).bind fun b' hb' => ih hb'
      | app f ts =>
          obtain ⟨hf, hts⟩ := ht.app
          rw [evaluate]
          refine (ih hf).bind fun g hg => ?_
          have hcarried : ∀ w ∈ [g], ValueWithin S w := List.forall_mem_singleton.mpr hg
          cases g with
          | fn ps b =>
              refine (endsIn_mapM_within fun t h => ih (hts t h)).bind fun vs hvs => ?_
              by_cases hlen : vs.length = ps.length
              · rw [if_neg (not_not.mpr hlen)]
                have hcall := endsIn_applyAll_within hlen (fun v hv => (hvs v hv).toWithin)
                  hg.toWithin.fn
                exact (endsIn_toEval hcall).bind fun b' hb' => ih hb'
              · rw [if_pos hlen]
                exact Naming.endsIn_throw (stopWithin_of_terms rfl (List.forall_mem_nil _))
          | _ => exact Naming.endsIn_throw (stopWithin_of_terms rfl hcarried)

/-- A well formed term comes to no other fault. -/
theorem eq_tooLong_of_run_evaluate {t : Term} (ht : t.WellFormed) {n : Nat} {names : Naming}
    {f : Fault} (h : (names.run (t.evaluate n)).1 = .error (.fault f)) : f = .integerTooLong := by
  have hwithin : Within (fun _ => True) t := ⟨ht, fun _ _ => trivial⟩
  exact (endsIn_evaluate hwithin n).of_error h

/--
**Evaluation invents no name and lets none out.**  A value that is reached has no free name that
the term does not have; so do the values that an error carries, and a free variable error names
one of the term.
-/
theorem evaluate_confined {t : Term} (ht : t.WellFormed) (n : Nat) (names : Naming) :
    (∀ v, (names.run (t.evaluate n)).1 = .ok v →
        v.isValue = true ∧ v.freeNames ⊆ t.freeNames) ∧
      (∀ x, (names.run (t.evaluate n)).1 = .error (.error (.freeVariable x)) →
        x ∈ t.freeNames) ∧
      (∀ e, (names.run (t.evaluate n)).1 = .error (.error e) →
        ∀ v ∈ e.terms, v.isValue = true ∧ v.freeNames ⊆ t.freeNames) ∧
      (t.Closed → ∀ x, (names.run (t.evaluate n)).1 ≠ .error (.error (.freeVariable x))) := by
  have hwithin : Within (· ∈ t.freeNames) t := ⟨ht, fun _ hz => hz⟩
  have hends := endsIn_evaluate hwithin n
  have hname : ∀ x, (names.run (t.evaluate n)).1 = .error (.error (.freeVariable x)) →
      x ∈ t.freeNames := by
    intro x hx
    exact (hends.of_error hx).1 x (by simp [EvalError.names])
  refine ⟨?_, hname, ?_, ?_⟩
  · intro v hv
    have hvalue := hends.of_ok hv
    exact ⟨hvalue.isValue, fun z hz => hvalue.free z hz⟩
  · intro e he v hv
    have hvalue := (hends.of_error he).2 v hv
    exact ⟨hvalue.isValue, fun z hz => hvalue.free z hz⟩
  · intro hclosed x hx
    exact hclosed x (hname x hx)

/-- The error carries a function whose parameter was renamed to let the free name through. -/
theorem evaluate_confined_renamed :
    let t := Term.prim .plus [.app (.fn [("y", .int)] (.fn [("x", .int)]
      (.app (.var "y") [.var "x"]))) [.fn [("w", .int)] (.var "x")], .int 1]
    let v := Term.fn [("x_0", .int)] (.app (.fn [("w", .int)] (.var "x")) [.var "x_0"])
    t.WellFormed ∧
      (({} : Naming).run (t.evaluate 3)).1 = .error (.error (.badOperands .plus [v, .int 1])) ∧
      v.isValue = true ∧ v.freeNames ⊆ t.freeNames := by
  intro t v
  have ht : t.WellFormed := by decide
  have hrun : (({} : Naming).run (t.evaluate 3)).1 =
      .error (.error (.badOperands .plus [v, .int 1])) := by
    rfl
  obtain ⟨-, -, hcarried, -⟩ := evaluate_confined ht 3 {}
  exact ⟨ht, hrun, hcarried _ hrun v List.mem_cons_self⟩

end Term

end TypedLambda
