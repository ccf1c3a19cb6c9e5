/-
Running a term in an environment and by substitution is the same.

The two interpreters go step by step together.  If an environment has an entry for every free
name of a term, then to run the term in it and to evaluate the closed term that one gets by
putting the environment in give the same result with the same budget, once the result is read
back: the same value, the same error with the same payload, or none within the budget.  The
interpreter writes no messages, though, and where the payload cannot be written evaluation has
nothing but that to report.  The steps that differ agree for these reasons.

  * Where one interpreter adds an entry, the other puts a closed term into a body that already
    had the rest of the environment put in.  Two valuations one after another are one, and
    that one is the valuation of the new environment.
  * Where one finds a recursive binding under a name, the other finds it in the place of
    the name, as a whole, and unfolds it.  Both cost one step.
  * An argument or operand is read back before the other interpreter looks at it, and
    whether it is a function, an integer or a boolean can still be seen.
-/
import TypedLambda.Proofs.Confinement
import TypedLambda.Proofs.Environment

namespace TypedLambda.Environment

/-! ### Entries and valuations -/

/-- What hides exactly the names that the second valuation has may as well be left out. -/
theorem hide_or_eq_or {σ ρ : Valuation} {xs : List String} (h : ∀ x, x ∈ xs ↔ ρ x ≠ none) :
    (σ.hide xs).or ρ = ρ.or σ := by
  funext x
  by_cases hx : x ∈ xs
  · obtain ⟨r, hr⟩ := Option.ne_none_iff_exists'.mp ((h x).mp hx)
    simp [Valuation.or, Valuation.hide, hx, hr]
  · have hnone : ρ x = none := not_not.mp fun hne => hx ((h x).mpr hne)
    simp [Valuation.or, Valuation.hide, hx, hnone]

theorem valuation_bindAll (env : Env) (ps : List (String × Ty)) {vs : List Value}
    (hlen : vs.length = ps.length) :
    (env.bindAll ps vs).valuation
      = (Valuation.ofArgs ps (vs.map Value.readBack)).or env.valuation := by
  induction ps generalizing vs with
  | nil =>
      funext x
      simp [Env.bindAll, Valuation.or, Valuation.ofArgs]
  | cons p ps ih =>
      obtain ⟨v, vs, rfl⟩ := List.exists_cons_of_length_eq_add_one hlen
      rw [Env.bindAll, Env.valuation, ih (by simpa using hlen), List.map_cons,
        Valuation.ofArgs_cons]
      funext x
      simp only [Valuation.or, Option.or_assoc, Binding.readBack]

section

variable {env : Env} (henv : env.Scoped)

include henv

theorem instantiate_bind (x : String) (c : Binding) (b : Term) :
    (b.instantiate (env.valuation.hide [x])).instantiate (.single x c.readBack)
      = b.instantiate (env.bind x c).valuation := by
  have hhide : ∀ y, y ∈ [x] ↔ Valuation.single x c.readBack y ≠ none := by
    intro y
    simp [Valuation.single]
  rw [Term.instantiate_instantiate (henv.closed_valuation.1.hide [x]), hide_or_eq_or hhide,
    Env.valuation]

theorem instantiate_bindAll {ps : List (String × Ty)} {vs : List Value}
    (hlen : vs.length = ps.length) (b : Term) :
    (b.instantiate (env.valuation.hide (ps.map (·.1)))).instantiate
        (.ofArgs ps (vs.map Value.readBack))
      = b.instantiate (env.bindAll ps vs).valuation := by
  have hlen' : (vs.map Value.readBack).length = ps.length := by rw [List.length_map, hlen]
  have hhide : ∀ y, y ∈ ps.map (·.1) ↔
      Valuation.ofArgs ps (vs.map Value.readBack) y ≠ none := by
    intro y
    constructor
    · exact Valuation.ofArgs_ne_none hlen'
    · intro hne
      by_contra hy
      exact hne (Valuation.ofArgs_eq_none hy)
  rw [Term.instantiate_instantiate (henv.closed_valuation.1.hide _), hide_or_eq_or hhide,
    valuation_bindAll env ps hlen]

end

/-! ### Values keep to their environments -/

theorem scoped_of_result? {op : Prim} {vs : List Value} {v : Value} (h : result? op vs = some v) :
    v.Scoped := by
  have hbase : (∃ n, v = .int n) ∨ ∃ b, v = .bool b := by
    unfold result? at h
    split at h <;> simp_all [eq_comm]
  rcases hbase with ⟨n, rfl⟩ | ⟨b, rfl⟩
  · trivial
  · trivial

theorem scoped_of_interpret {n : Nat} {env : Env} {t : Term} {v : Value} (henv : env.Scoped)
    (ht : Term.Within env.Has t) (h : interpret n env t = .ok v) : v.Scoped := by
  induction n generalizing env t v with
  | zero => cases h
  | succ n ih =>
      cases t with
      | int k => cases h; trivial
      | bool k => cases h; trivial
      | fn ps b => cases h; exact ⟨ht, henv⟩
      | stray s => cases h
      | var x =>
          rw [interpret] at h
          split at h
          next w hx => cases h; exact henv.of_lookup? hx
          next f τ b env' hx =>
            obtain ⟨hfix, henv'⟩ := henv.of_lookup? hx
            exact ih (henv'.unfold hfix) (hfix.fix.mono fun _ => Env.has_bind.mpr) h
          next => cases h
      | prim op ts =>
          rw [interpret] at h
          obtain ⟨vs, -, h⟩ := bind_eq_ok.mp h
          cases hop : result? op vs with
          | none => rw [hop] at h; cases h
          | some w => rw [hop] at h; cases h; exact scoped_of_result? hop
      | ite c a b =>
          obtain ⟨-, ha, hb⟩ := ht.ite
          rw [interpret] at h
          obtain ⟨w, -, h⟩ := bind_eq_ok.mp h
          split at h
          · exact ih henv ha h
          · exact ih henv hb h
          · cases h
      | letIn x w b =>
          obtain ⟨hw, hb⟩ := ht.letIn
          rw [interpret] at h
          obtain ⟨u, hu, h⟩ := bind_eq_ok.mp h
          exact ih (henv.bindValue (ih henv hw hu) x) (hb.mono fun _ => Env.has_bind.mpr) h
      | fix f τ b =>
          rw [interpret] at h
          exact ih (henv.unfold ht) (ht.fix.mono fun _ => Env.has_bind.mpr) h
      | app f ts =>
          obtain ⟨hf, hts⟩ := ht.app
          rw [interpret] at h
          obtain ⟨g, hg, h⟩ := bind_eq_ok.mp h
          have hgs := ih henv hf hg
          split at h
          next ps b env' =>
            obtain ⟨hfn, henv'⟩ := hgs
            obtain ⟨vs, hvs, h⟩ := bind_eq_ok.mp h
            have hscoped := forall_of_mapM_eq_ok (fun t h v => ih henv (hts t h)) hvs
            by_cases hlen : vs.length = ps.length
            · rw [if_neg (not_not.mpr hlen)] at h
              exact ih (henv'.bindAll hscoped ps)
                (hfn.fn.mono fun _ => (Env.has_bindAll hlen).mpr) h
            · rw [if_pos hlen] at h
              cases h
          next => cases h

/-! ### Results that are read back -/

/-- The result of a run, with what it gives read back. -/
def readBackWith {α β : Type} (f : α → β) : Except Halt α → Except Stop β
  | .ok a => .ok (f a)
  | .error h => .error h.readBack

section

variable {α β γ δ : Type} {f : α → β} {g : γ → δ}

/-- If the parts agree, the sequences do. -/
theorem readBackWith_bind {x : Except Halt α} {y : Except Stop β} {k : α → Except Halt γ}
    {l : β → Except Stop δ} (hy : y = readBackWith f x)
    (hl : ∀ a, x = .ok a → l (f a) = readBackWith g (k a)) :
    y >>= l = readBackWith g (x >>= k) := by
  subst hy
  cases x with
  | error h => rfl
  | ok a => exact hl a rfl

theorem readBackWith_mapM {k : γ → Except Halt α} {l : δ → Except Stop β} {cs : List γ}
    (h : ∀ c ∈ cs, l (g c) = readBackWith f (k c)) :
    (cs.map g).mapM l = readBackWith (List.map f) (cs.mapM k) := by
  induction cs with
  | nil => rfl
  | cons c cs ih =>
      rw [List.map_cons, List.mapM_cons, List.mapM_cons]
      refine readBackWith_bind (h c List.mem_cons_self) fun a _ => ?_
      refine readBackWith_bind (ih fun d hd => h d (List.mem_cons_of_mem c hd)) fun as _ => ?_
      rfl

end

/-- Operations see whether an operand is an integer, and which. -/
theorem result?_readBack (op : Prim) (vs : List Value) :
    op.apply? (vs.map Value.readBack) = (result? op vs).map Value.readBack := by
  match vs with
  | [] => cases op <;> rfl
  | [v] => cases v <;> cases op <;> rfl
  | [v, w] => cases v <;> cases w <;> cases op <;> rfl
  | v :: w :: _ :: _ => cases v <;> cases w <;> cases op <;> rfl

/-! ### Step by step -/

/-- A budget of `n` is used alike on both sides. -/
def AgreesWithin (n : Nat) : Prop :=
  ∀ ⦃env : Env⦄ ⦃t : Term⦄, env.Scoped → Term.Within env.Has t →
    (t.instantiate env.valuation).reduce n = readBackWith Value.readBack (interpret n env t)

namespace AgreesWithin

variable {n : Nat} {env : Env} (ih : AgreesWithin n) (henv : env.Scoped)

include ih henv

theorem operands {ts : List Term} (hts : ∀ t ∈ ts, Term.Within env.Has t) :
    (Term.instantiateAll env.valuation ts).mapM (Term.reduce n)
      = readBackWith (List.map Value.readBack) (ts.mapM (interpret n env)) := by
  rw [Term.instantiateAll_eq_map]
  exact readBackWith_mapM fun t h => ih henv (hts t h)

/-- A recursive binding is unfolded where it stands or where its name is reached. -/
theorem unfold {f : String} {τ : Ty} {b : Term} (hfix : Term.Within env.Has (.fix f τ b)) :
    ((Term.fix f τ b).instantiate env.valuation).reduce (n + 1)
      = readBackWith Value.readBack (interpret n (env.bind f (.suspended f τ b env)) b) := by
  have hbody := instantiate_bind henv f (.suspended f τ b env) b
  rw [Binding.readBack, Term.instantiate] at hbody
  rw [Term.instantiate, Term.reduce, hbody]
  exact ih (henv.unfold hfix) (hfix.fix.mono fun _ => Env.has_bind.mpr)

theorem var {x : String} (hx : env.Has x) :
    ((Term.var x).instantiate env.valuation).reduce (n + 1)
      = readBackWith Value.readBack (interpret (n + 1) env (.var x)) := by
  obtain ⟨c, hc⟩ := Option.ne_none_iff_exists'.mp hx
  rw [Term.instantiate, env.valuation_eq_map_lookup?, interpret, hc, Option.map_some,
    Option.getD_some]
  cases c with
  | value v =>
      rw [Binding.readBack]
      cases v with
      | int | bool | closure => rfl
  | suspended f τ b env' =>
      obtain ⟨hfix, henv'⟩ := henv.of_lookup? hc
      exact ih.unfold henv' hfix

/-- The arguments all become entries, or are put in all at once. -/
theorem call {ps : List (String × Ty)} {b : Term} (hb : Term.Within env.Has (.fn ps b))
    {vs : List Value} (hvs : ∀ v ∈ vs, v.Scoped) (hlen : vs.length = ps.length) :
    ((b.instantiate (env.valuation.hide (ps.map (·.1)))).instantiate
        (.ofArgs ps (vs.map Value.readBack))).reduce n
      = readBackWith Value.readBack (interpret n (env.bindAll ps vs) b) := by
  rw [instantiate_bindAll henv hlen]
  exact ih (henv.bindAll hvs ps) (hb.fn.mono fun _ => (Env.has_bindAll hlen).mpr)

theorem app {f : Term} {ts : List Term} (ht : Term.Within env.Has (.app f ts)) :
    ((Term.app f ts).instantiate env.valuation).reduce (n + 1)
      = readBackWith Value.readBack (interpret (n + 1) env (.app f ts)) := by
  obtain ⟨hf, hts⟩ := ht.app
  rw [Term.instantiate, Term.reduce, interpret]
  refine readBackWith_bind (ih henv hf) fun g hg => ?_
  have hgs := scoped_of_interpret henv hf hg
  cases g with
  | int | bool => rfl
  | closure ps b env' =>
      obtain ⟨hfn, henv'⟩ := hgs
      refine readBackWith_bind (ih.operands henv hts) fun vs hvs => ?_
      have hscoped := forall_of_mapM_eq_ok (fun t h v => scoped_of_interpret henv (hts t h)) hvs
      by_cases hlen : vs.length = ps.length
      · rw [if_neg (not_not.mpr hlen), if_neg (by simpa using hlen)]
        exact ih.call henv' hfn hscoped hlen
      · rw [if_pos hlen, if_pos (by simpa using hlen), List.length_map]
        rfl

end AgreesWithin

/--
**Evaluating a term with an environment put in is running it in the environment**, with the
same budget.
-/
theorem agreesWithin (n : Nat) : AgreesWithin n := by
  induction n with
  | zero =>
      intro env t henv ht
      rfl
  | succ n ih =>
      intro env t henv ht
      cases t with
      | int | bool | fn | stray => rfl
      | var x => exact ih.var henv (ht.free x (by simp))
      | prim op ts =>
          have hts := ih.operands henv fun t h => .all ht.wellFormed ht.free h
          rw [Term.instantiate, Term.reduce, interpret]
          refine readBackWith_bind hts fun vs _ => ?_
          rw [result?_readBack]
          cases result? op vs with
          | none => rfl
          | some v => rfl
      | ite c a b =>
          obtain ⟨hc, ha, hb⟩ := ht.ite
          rw [Term.instantiate, Term.reduce, interpret]
          refine readBackWith_bind (ih henv hc) fun v _ => ?_
          cases v with
          | bool k =>
              cases k with
              | true => exact ih henv ha
              | false => exact ih henv hb
          | int | closure => rfl
      | letIn x w b =>
          obtain ⟨hw, hb⟩ := ht.letIn
          rw [Term.instantiate, Term.reduce, interpret]
          refine readBackWith_bind (ih henv hw) fun v hv => ?_
          have hvs := scoped_of_interpret henv hw hv
          have hbody := instantiate_bind henv x (.value v) b
          rw [Binding.readBack] at hbody
          rw [hbody]
          exact ih (henv.bindValue hvs x) (hb.mono fun _ => Env.has_bind.mpr)
      | fix f τ b =>
          rw [interpret]
          exact ih.unfold henv ht
      | app f ts => exact ih.app henv ht

/-! ### Closed terms -/

/-- Evaluation and the interpreter use the budget alike. -/
theorem run_evaluate_eq {t : Term} (hc : t.Closed) (hw : t.WellFormed) (n : Nat)
    (names : Naming) :
    (names.run (t.evaluate n)).1 = readBackWith Value.readBack (interpret n .empty t) := by
  have hscoped : Env.empty.Scoped := trivial
  have hwithin : Term.Within Env.empty.Has t := ⟨hw, fun x hx => absurd hx (hc x)⟩
  have hagrees := agreesWithin n hscoped hwithin
  rw [Env.valuation, Term.instantiate_empty] at hagrees
  rw [Term.run_evaluate hc hw, hagrees]

section

variable {x : Except Halt Value}

theorem readBackWith_eq_ok {v : Term} :
    readBackWith Value.readBack x = .ok v ↔ ∃ w, x = .ok w ∧ w.readBack = v := by
  cases x with
  | ok w => simp [readBackWith]
  | error h => simp [readBackWith]

theorem readBackWith_eq_error {e : EvalError} :
    readBackWith Value.readBack x = .error (.error e) ↔
      ∃ f, x = .error (.failure f) ∧ f.readBack = e ∧ e.Writable := by
  cases x with
  | ok w => simp [readBackWith]
  | error h =>
      cases h with
      | failure f =>
          simp only [readBackWith, Halt.readBack, Except.error.injEq, EvalError.stop_eq_error_iff,
            Halt.failure.injEq, exists_eq_left']
          constructor
          · rintro ⟨rfl, h⟩
            exact ⟨rfl, h⟩
          · rintro ⟨rfl, h⟩
            exact ⟨rfl, h⟩
      | unknownTerm | outOfBudget => simp [readBackWith, Halt.readBack]

theorem readBackWith_eq_tooLong :
    readBackWith Value.readBack x = .error (.fault .integerTooLong) ↔
      ∃ f, x = .error (.failure f) ∧ ¬ f.readBack.Writable := by
  cases x with
  | ok w => simp [readBackWith]
  | error h =>
      cases h with
      | failure f => simp [readBackWith, Halt.readBack, EvalError.stop_eq_fault_iff]
      | unknownTerm | outOfBudget => simp [readBackWith, Halt.readBack]

theorem readBackWith_eq_outOfBudget :
    readBackWith Value.readBack x = .error .outOfBudget ↔ x = .error .outOfBudget := by
  cases x with
  | ok w => simp [readBackWith]
  | error h => cases h <;> simp [readBackWith, Halt.readBack, EvalError.stop_ne_outOfBudget]

end

/-- Within the budget the interpreter fails, and what it fails with cannot be written. -/
def FailsUnwritten (n : Nat) (t : Term) : Prop :=
  ∃ f, interpret n .empty t = .error (.failure f) ∧ ¬ f.readBack.Writable

/-- The fault of an evaluation is a failure that cannot be written. -/
theorem run_evaluate_eq_tooLong_iff {t : Term} (hc : t.Closed) (hw : t.WellFormed) (n : Nat)
    (names : Naming) :
    (names.run (t.evaluate n)).1 = .error (.fault .integerTooLong) ↔ FailsUnwritten n t := by
  rw [run_evaluate_eq hc hw, readBackWith_eq_tooLong, FailsUnwritten]

/--
**On closed terms evaluation agrees with the interpreter that keeps an environment.**  One
returns a value if the other returns a value that reads back as it, and one never ends if the
other never does.  One raises an error if the other fails in the same way with what reads back as
the same, as long as that can be written; if the other fails with what cannot, then that is the
fault that is raised, and there is no other.
-/
theorem evaluate_iff_interpret {t : Term} (hc : t.Closed) (hw : t.WellFormed) (names : Naming) :
    (∀ v, (∃ n, (names.run (t.evaluate n)).1 = .ok v) ↔
        ∃ n w, interpret n .empty t = .ok w ∧ w.readBack = v) ∧
      (∀ e, (∃ n, (names.run (t.evaluate n)).1 = .error (.error e)) ↔
        ∃ n f, interpret n .empty t = .error (.failure f) ∧ f.readBack = e ∧ e.Writable) ∧
      (∀ f, (∃ n, (names.run (t.evaluate n)).1 = .error (.fault f)) ↔
        f = .integerTooLong ∧ ∃ n, FailsUnwritten n t) ∧
      ((∀ n, (names.run (t.evaluate n)).1 = .error .outOfBudget) ↔
        ∀ n, interpret n .empty t = .error .outOfBudget) := by
  refine ⟨?_, ?_, ?_, ?_⟩
  · intro v
    refine exists_congr fun n => ?_
    rw [run_evaluate_eq hc hw, readBackWith_eq_ok]
  · intro e
    refine exists_congr fun n => ?_
    rw [run_evaluate_eq hc hw, readBackWith_eq_error]
  · intro f
    constructor
    · rintro ⟨n, h⟩
      obtain rfl := Term.eq_tooLong_of_run_evaluate hw h
      exact ⟨rfl, n, (run_evaluate_eq_tooLong_iff hc hw n names).mp h⟩
    · rintro ⟨rfl, n, h⟩
      exact ⟨n, (run_evaluate_eq_tooLong_iff hc hw n names).mpr h⟩
  · refine forall_congr' fun n => ?_
    rw [run_evaluate_eq hc hw, readBackWith_eq_outOfBudget]

/--
The closure keeps the number that `k` stood for, which a later `k` does not change.  It is no
condition, and it can be written; a product that is no function cannot.
-/
theorem evaluate_iff_interpret_shadowed :
    let t := Term.letIn "k" (.int 1) (.letIn "f" (.fn [("x", .int)]
      (.fn [("y", .int)] (.prim .plus [.var "x", .var "k"])))
        (.letIn "k" (.bool true) (.app (.var "f") [.int 5])))
    let v := Term.fn [("y", .int)] (.prim .plus [.int 5, .int 1])
    let asked := Term.ite t (.int 0) (.int 1)
    let called := Term.app .longProduct []
    (t.Closed ∧ t.WellFormed ∧ ∃ n, (({} : Naming).run (t.evaluate n)).1 = .ok v) ∧
      (asked.Closed ∧ asked.WellFormed ∧
        ∃ n, (({} : Naming).run (asked.evaluate n)).1 = .error (.error (.conditionNotBool v))) ∧
      called.Closed ∧ called.WellFormed ∧
        ∃ n, (({} : Naming).run (called.evaluate n)).1 = .error (.fault .integerTooLong) := by
  intro t v asked called
  have hc : t.Closed := by decide
  have hw : t.WellFormed := by decide
  obtain ⟨hvalue, -, -, -⟩ := evaluate_iff_interpret hc hw {}
  have hca : asked.Closed := by decide
  have hwa : asked.WellFormed := by decide
  obtain ⟨-, herror, -, -⟩ := evaluate_iff_interpret hca hwa {}
  have hv : (EvalError.conditionNotBool v).Writable := (EvalError.stop_eq_error_iff.mp rfl).2
  have hcc : called.Closed := by decide
  have hwc : called.WellFormed := by decide
  obtain ⟨-, -, hfault, -⟩ := evaluate_iff_interpret hcc hwc {}
  refine ⟨⟨hc, hw, (hvalue _).mpr ⟨5, _, rfl, rfl⟩⟩,
    ⟨hca, hwa, (herror _).mpr ⟨6, _, rfl, rfl, hv⟩⟩, hcc, hwc, (hfault _).mpr ⟨rfl, 3, _, rfl, ?_⟩⟩
  exact EvalError.not_writable_of_mem List.mem_cons_self Term.not_writable_longNumber

/-- Without a condition on the payload the agreement on errors fails. -/
theorem evaluate_iff_interpret_fails :
    ¬ ∀ t : Term, t.Closed → t.WellFormed → ∀ (names : Naming) (e : EvalError),
      (∃ n, (names.run (t.evaluate n)).1 = .error (.error e)) ↔
        ∃ n f, interpret n .empty t = .error (.failure f) ∧ f.readBack = e := by
  intro h
  have hc : (Term.app .longProduct []).Closed := by decide
  have hw : (Term.app .longProduct []).WellFormed := by decide
  obtain ⟨n, hn⟩ := (h _ hc hw {} (.notAFunction .longNumber)).mpr ⟨3, _, rfl, rfl⟩
  rw [run_evaluate_eq hc hw, readBackWith_eq_error] at hn
  obtain ⟨f, -, -, hwritable⟩ := hn
  exact EvalError.not_writable_of_mem List.mem_cons_self Term.not_writable_longNumber hwritable

end TypedLambda.Environment
