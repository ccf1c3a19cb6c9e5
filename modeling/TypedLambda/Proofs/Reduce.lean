/-
Running a closed term is a computation without names.

`reduce` is evaluation with `instantiate` in the place of substitution.  It has no supply
of names to carry along, so it is an ordinary function, and everything about running closed
terms is proved about it.  `run_evaluate` says that on closed terms `evaluate` is
`reduce`: whatever is substituted during a run is closed, because values of closed terms are
closed, so nothing is ever renamed and no name is drawn.

The budget is nothing but a bound.  A run that ends in anything but `outOfBudget` ends in
the same with every larger budget; `Approximates` is that relation between two results, and
it goes through every way of putting runs together.
-/
import TypedLambda.Proofs.Instantiate
import TypedLambda.Proofs.Results

namespace TypedLambda

namespace Term

/-- Evaluation of a closed term. -/
def reduce : Nat → Term → Except Stop Term
  | 0, _ => throw .outOfBudget
  | budget + 1, t => do
    match t with
    | .int _ | .bool _ | .fn .. => return t
    | .var x => throw (EvalError.freeVariable x).stop
    | .prim op ts =>
      let vs ← ts.mapM (reduce budget)
      match op.apply? vs with
      | some v => return v
      | none => throw (EvalError.badOperands op vs).stop
    | .ite c a b =>
      match ← reduce budget c with
      | .bool true => reduce budget a
      | .bool false => reduce budget b
      | v => throw (EvalError.conditionNotBool v).stop
    | .letIn x v b =>
      let v ← reduce budget v
      reduce budget (b.instantiate (.single x v))
    | .fix f _ b => reduce budget (b.instantiate (.single f t))
    | .app f ts =>
      match ← reduce budget f with
      | .fn ps b =>
        let vs ← ts.mapM (reduce budget)
        if vs.length ≠ ps.length then
          throw (EvalError.arityMismatch ps.length vs.length).stop
        reduce budget (b.instantiate (.ofArgs ps vs))
      | v => throw (EvalError.notAFunction v).stop
    | .stray s => throw (.fault (.unknownTerm s))

/-! ### Terms that can be run -/

/-- Closed and well formed. -/
structure IsProgram (t : Term) : Prop where
  closed : t.Closed
  wellFormed : t.WellFormed

namespace IsProgram

theorem prim {op : Prim} {ts : List Term} (h : (prim op ts).IsProgram) :
    ∀ t ∈ ts, t.IsProgram :=
  fun t ht => ⟨closed_prim.mp h.closed t ht, wellFormedAll_iff.mp h.wellFormed t ht⟩

theorem ite {c a b : Term} (h : (ite c a b).IsProgram) :
    c.IsProgram ∧ a.IsProgram ∧ b.IsProgram := by
  obtain ⟨hc, ha, hb⟩ := closed_ite.mp h.closed
  obtain ⟨hwc, hwa, hwb⟩ := h.wellFormed
  exact ⟨⟨hc, hwc⟩, ⟨ha, hwa⟩, ⟨hb, hwb⟩⟩

theorem app {f : Term} {ts : List Term} (h : (app f ts).IsProgram) :
    f.IsProgram ∧ ∀ t ∈ ts, t.IsProgram := by
  obtain ⟨hf, hts⟩ := closed_app.mp h.closed
  obtain ⟨hwf, hwts⟩ := h.wellFormed
  exact ⟨⟨hf, hwf⟩, fun t ht => ⟨hts t ht, wellFormedAll_iff.mp hwts t ht⟩⟩

theorem letIn {x : String} {v b : Term} (h : (letIn x v b).IsProgram) :
    v.IsProgram ∧ ∀ w, w.IsProgram → (b.instantiate (.single x w)).IsProgram := by
  obtain ⟨hv, hb⟩ := closed_letIn.mp h.closed
  obtain ⟨hwv, hwb⟩ := h.wellFormed
  exact ⟨⟨hv, hwv⟩, fun w hw => ⟨closed_instantiate_single hw.closed hb,
    wellFormed_instantiate (Valuation.wellFormed_single hw.wellFormed x) hwb⟩⟩

theorem unfold {f : String} {τ : Ty} {b : Term} (h : (fix f τ b).IsProgram) :
    (b.instantiate (.single f (.fix f τ b))).IsProgram :=
  ⟨closed_instantiate_single h.closed (closed_fix.mp h.closed),
    wellFormed_instantiate (Valuation.wellFormed_single h.wellFormed f) h.wellFormed⟩

theorem call {ps : List (String × Ty)} {b : Term} {vs : List Term} (h : (fn ps b).IsProgram)
    (hlen : vs.length = ps.length) (hvs : ∀ v ∈ vs, v.IsProgram) :
    (b.instantiate (.ofArgs ps vs)).IsProgram :=
  ⟨closed_instantiate_ofArgs hlen (fun v hv => (hvs v hv).closed) h.closed,
    wellFormed_instantiate (Valuation.wellFormed_ofArgs (fun v hv => (hvs v hv).wellFormed) ps)
      h.wellFormed.2⟩

end IsProgram

/-! ### Values of closed terms are closed -/

/-- What a run of a closed term may end in. -/
structure IsClosedValue (v : Term) : Prop where
  isValue : v.isValue = true
  closed : v.Closed
  wellFormed : v.WellFormed

theorem isClosedValue_int (n : Int) : (int n).IsClosedValue :=
  ⟨rfl, by simp [Closed, freeNames], trivial⟩

theorem isClosedValue_bool (b : Bool) : (bool b).IsClosedValue :=
  ⟨rfl, by simp [Closed, freeNames], trivial⟩

end Term

theorem Prim.isClosedValue_of_result {op : Prim} {vs : List Term} {v : Term}
    (h : op.apply? vs = some v) : v.IsClosedValue := by
  have hbase : (∃ n, v = .int n) ∨ ∃ b, v = .bool b := by
    unfold Prim.apply? at h
    split at h <;> simp_all [eq_comm]
  rcases hbase with ⟨n, rfl⟩ | ⟨b, rfl⟩
  · exact Term.isClosedValue_int n
  · exact Term.isClosedValue_bool b

namespace Term

theorem IsClosedValue.isProgram {v : Term} (h : v.IsClosedValue) : v.IsProgram :=
  ⟨h.closed, h.wellFormed⟩

theorem isClosedValue_of_reduce {n : Nat} {t v : Term} (ht : t.IsProgram)
    (h : t.reduce n = .ok v) : v.IsClosedValue := by
  induction n generalizing t v with
  | zero => cases h
  | succ n ih =>
      cases t with
      | int k => cases h; exact ⟨rfl, ht.closed, ht.wellFormed⟩
      | bool k => cases h; exact ⟨rfl, ht.closed, ht.wellFormed⟩
      | fn ps b => cases h; exact ⟨rfl, ht.closed, ht.wellFormed⟩
      | var x => cases h
      | stray s => cases h
      | prim op ts =>
          rw [reduce] at h
          obtain ⟨vs, -, h⟩ := bind_eq_ok.mp h
          cases hop : op.apply? vs with
          | none => rw [hop] at h; cases h
          | some w => rw [hop] at h; cases h; exact Prim.isClosedValue_of_result hop
      | ite c a b =>
          obtain ⟨-, ha, hb⟩ := ht.ite
          rw [reduce] at h
          obtain ⟨w, -, h⟩ := bind_eq_ok.mp h
          split at h
          · exact ih ha h
          · exact ih hb h
          · cases h
      | letIn x w b =>
          obtain ⟨hw, hb⟩ := ht.letIn
          rw [reduce] at h
          obtain ⟨u, hu, h⟩ := bind_eq_ok.mp h
          exact ih (hb u (ih hw hu).isProgram) h
      | fix f τ b =>
          rw [reduce] at h
          exact ih ht.unfold h
      | app f ts =>
          obtain ⟨hf, hts⟩ := ht.app
          rw [reduce] at h
          obtain ⟨g, hg, h⟩ := bind_eq_ok.mp h
          have hgv := ih hf hg
          split at h
          next ps b =>
            obtain ⟨vs, hvs, h⟩ := bind_eq_ok.mp h
            have hvalues := forall_of_mapM_eq_ok (fun t h v => ih (hts t h)) hvs
            by_cases hlen : vs.length = ps.length
            · rw [if_neg (not_not.mpr hlen)] at h
              exact ih (hgv.isProgram.call hlen fun v hv => (hvalues v hv).isProgram) h
            · rw [if_pos hlen] at h
              cases h
          next => cases h

/-! ### Evaluation of closed terms draws no names -/

theorem IsProgram.run_evaluate {t : Term} (ht : t.IsProgram) (n : Nat) (names : Naming) :
    names.run (t.evaluate n) = (t.reduce n, names) := by
  induction n generalizing t with
  | zero => rfl
  | succ n ih =>
      cases t with
      | int | bool | fn | var | stray => rfl
      | prim op ts =>
          rw [evaluate, reduce]
          refine Naming.run_bind_eq (Naming.run_mapM_eq fun t h => ih (ht.prim t h)) fun vs _ => ?_
          cases op.apply? vs with
          | none => rfl
          | some v => rfl
      | ite c a b =>
          obtain ⟨hc, ha, hb⟩ := ht.ite
          rw [evaluate, reduce]
          refine Naming.run_bind_eq (ih hc) fun v _ => ?_
          cases v with
          | bool b =>
              cases b with
              | true => exact ih ha
              | false => exact ih hb
          | _ => rfl
      | letIn x v b =>
          obtain ⟨hv, hb⟩ := ht.letIn
          rw [evaluate, reduce]
          refine Naming.run_bind_eq (ih hv) fun u hu => ?_
          have huv := (isClosedValue_of_reduce hv hu).isProgram
          rw [subst_closed x huv.closed huv.wellFormed ht.wellFormed.2]
          exact ih (hb u huv)
      | fix f τ b =>
          have hb : b.WellFormed := ht.wellFormed
          rw [evaluate, reduce, subst_closed f ht.closed ht.wellFormed hb]
          exact ih ht.unfold
      | app f ts =>
          obtain ⟨hf, hts⟩ := ht.app
          rw [evaluate, reduce]
          refine Naming.run_bind_eq (ih hf) fun g hg => ?_
          have hgv := (isClosedValue_of_reduce hf hg).isProgram
          cases g with
          | fn ps b =>
              refine Naming.run_bind_eq (Naming.run_mapM_eq fun t h => ih (hts t h))
                fun vs hvs => ?_
              have hvalues : ∀ v ∈ vs, v.IsProgram := forall_of_mapM_eq_ok
                (fun t h v hv => (isClosedValue_of_reduce (hts t h) hv).isProgram) hvs
              by_cases hlen : vs.length = ps.length
              · rw [if_neg (not_not.mpr hlen), if_neg (not_not.mpr hlen)]
                show names.run ((Substitution.applyAll (List.zipWith (fun p v => ⟨v, p.1⟩) ps vs)
                  b).toEval >>= evaluate n) = _
                rw [Substitution.applyAll_closed ps (fun v h => (hvalues v h).closed)
                    (fun v h => (hvalues v h).wellFormed) hgv.wellFormed.2]
                exact ih (hgv.call hlen hvalues)
              · rw [if_pos hlen, if_pos hlen]
                rfl
          | _ => rfl

/-- **Running a closed term is `reduce`, and the supply of names stays as it is.** -/
theorem run_evaluate {t : Term} (ht : t.Closed) (hw : t.WellFormed) (n : Nat) (names : Naming) :
    names.run (t.evaluate n) = (t.reduce n, names) :=
  IsProgram.run_evaluate ⟨ht, hw⟩ n names

/--
**Running a closed term has nothing to do with names drawn before, and draws none.**  From any
two points the run ends in the same value or error, or out of budget from both; and it leaves the
number of the next name as it was and no binder renamed.
-/
theorem evaluate_draws_nothing {t : Term} (ht : t.Closed) (hw : t.WellFormed) (n : Nat)
    (names names' : Naming) :
    (names.run (t.evaluate n)).1 = (names'.run (t.evaluate n)).1 ∧
      (names.run (t.evaluate n)).2 = names ∧ (names'.run (t.evaluate n)).2 = names' := by
  have hrun : ∀ names : Naming, names.run (t.evaluate n) = (t.reduce n, names) :=
    run_evaluate ht hw n
  rw [hrun names, hrun names']
  exact ⟨rfl, rfl, rfl⟩

/-- The argument is put below a binder for a name that is bound in it, too. -/
theorem evaluate_draws_nothing_below :
    let t := app (fn [("f", .arrow [.int] .int)] (fn [("y", .int)] (app (var "f") [var "y"])))
      [fn [("y", .int)] (var "y")]
    let later : Naming := { supply := ⟨7⟩, renamed := [⟨"y", "y_6"⟩] }
    (t.Closed ∧ t.WellFormed) ∧
      (later.run (t.evaluate 2)).1 =
        .ok (fn [("y", .int)] (app (fn [("y", .int)] (var "y")) [var "y"])) ∧
      (Naming.run {} (t.evaluate 2)).1 = (later.run (t.evaluate 2)).1 ∧
      (Naming.run {} (t.evaluate 2)).2 = {} ∧ (later.run (t.evaluate 2)).2 = later := by
  intro t later
  have ht : t.Closed := by decide
  have hw : t.WellFormed := by decide
  exact ⟨⟨ht, hw⟩, rfl, evaluate_draws_nothing ht hw 2 {} later⟩

/-! ### More budget

A larger budget changes a result only if there was none.
-/

/-- The first result is the second, unless the budget was too small for it. -/
def Approximates {α : Type} (x y : Except Stop α) : Prop :=
  x = .error .outOfBudget ∨ x = y

theorem Approximates.refl {α : Type} (x : Except Stop α) : Approximates x x := Or.inr rfl

theorem Approximates.eq_ok {α : Type} {x y : Except Stop α} {a : α} (h : Approximates x y)
    (hx : x = .ok a) : y = .ok a := by
  rcases h with hout | heq
  · rw [hout] at hx
    cases hx
  · rw [← heq, hx]

theorem Approximates.bind {α β : Type} {x y : Except Stop α} {f g : α → Except Stop β}
    (hxy : Approximates x y) (hfg : ∀ a, Approximates (f a) (g a)) :
    Approximates (x >>= f) (y >>= g) := by
  rcases hxy with rfl | rfl
  · exact Or.inl rfl
  · cases x with
    | error e => exact .refl _
    | ok a => exact hfg a

theorem Approximates.mapM {α β : Type} {f g : α → Except Stop β}
    (hfg : ∀ a, Approximates (f a) (g a)) (l : List α) :
    Approximates (l.mapM f) (l.mapM g) := by
  induction l with
  | nil => exact .refl _
  | cons a l ih =>
      rw [List.mapM_cons, List.mapM_cons]
      exact (hfg a).bind fun b => ih.bind fun bs => .refl _

theorem reduce_approximates {m n : Nat} (hmn : m ≤ n) (t : Term) :
    Approximates (t.reduce m) (t.reduce n) := by
  induction m generalizing n t with
  | zero => exact Or.inl rfl
  | succ m ih =>
      obtain ⟨n, rfl⟩ := Nat.exists_eq_add_one_of_ne_zero (by omega : n ≠ 0)
      have hmn : m ≤ n := by omega
      cases t with
      | int | bool | fn | var | stray => exact .refl _
      | prim op ts =>
          rw [reduce, reduce]
          exact (Approximates.mapM (ih hmn) ts).bind fun vs => .refl _
      | ite c a b =>
          rw [reduce, reduce]
          refine (ih hmn c).bind fun v => ?_
          cases v with
          | bool b =>
              cases b with
              | true => exact ih hmn _
              | false => exact ih hmn _
          | _ => exact .refl _
      | letIn x v b =>
          rw [reduce, reduce]
          exact (ih hmn v).bind fun u => ih hmn _
      | fix f τ b =>
          rw [reduce, reduce]
          exact ih hmn _
      | app f ts =>
          rw [reduce, reduce]
          refine (ih hmn f).bind fun g => ?_
          cases g with
          | fn ps b =>
              refine (Approximates.mapM (ih hmn) ts).bind fun vs => ?_
              by_cases hlen : vs.length = ps.length
              · rw [if_neg (not_not.mpr hlen), if_neg (not_not.mpr hlen)]
                exact ih hmn _
              · rw [if_pos hlen, if_pos hlen]
                exact .refl _
          | _ => exact .refl _

/-- A value that was reached is reached with every larger budget. -/
theorem reduce_mono {m n : Nat} {t v : Term} (hmn : m ≤ n) (h : t.reduce m = .ok v) :
    t.reduce n = .ok v :=
  (reduce_approximates hmn t).eq_ok h

theorem mapM_reduce_mono {m n : Nat} {ts vs : List Term} (hmn : m ≤ n)
    (h : ts.mapM (reduce m) = .ok vs) : ts.mapM (reduce n) = .ok vs :=
  (Approximates.mapM (reduce_approximates hmn) ts).eq_ok h

end Term

end TypedLambda
