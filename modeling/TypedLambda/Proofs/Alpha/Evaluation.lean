/-
The names of binders make no difference to running a closed term.

Two closed terms that differ in those names alone are run side by side.  Each rule does the same
on both sides and leaves two closed terms that differ in nothing else, so the runs go on in
step: `Twins` is what holds of the two terms at every point, and `InStep` of what they end in.
Only one step looks at names, the one that puts terms in for them.  There the two valuations
have to give the same, but for names of binders, to names that refer to the same thing; and
under a further binder they do not lose that, because what they give is closed.

The names of binders do not count for whether an error can be written, either.  So where one run
fails with something that cannot be, the other does too.

Arguments are put in for one parameter after another, and no parameter of a function hides
another, as their names are distinct.
-/
import TypedLambda.Proofs.Alpha
import TypedLambda.Proofs.Environment.Agreement

namespace TypedLambda

/-! ### Terms in the place of names -/

/--
What stands for names that `s` relates is the same but for names of binders; where nothing stands
for them, `s'` relates them.
-/
structure Valuation.AlphaEq (s s' : Pairing) (σ ρ : Valuation) : Prop where
  of_some : ∀ x y r, s.Relates x y → σ x = some r →
    r.Closed ∧ ∃ r', ρ y = some r' ∧ r.AlphaEq r'
  of_none : ∀ x y, s.Relates x y → σ x = none → ρ y = none ∧ s'.Relates x y

namespace Valuation

variable {s s' : Pairing} {σ ρ : Valuation}

theorem hide_self (σ : Valuation) (x : String) : σ.hide [x] x = none := by simp [hide]

theorem hide_of_ne (σ : Valuation) {x y : String} (h : y ≠ x) : σ.hide [x] y = σ y := by
  simp [hide, h]

theorem hide_nil (σ : Valuation) : σ.hide [] = σ := by
  funext y
  simp [hide]

theorem hide_cons (σ : Valuation) (x : String) (xs : List String) :
    σ.hide (x :: xs) = (σ.hide [x]).hide xs := by
  funext y
  by_cases hy : y ∈ xs
  · simp [hide, hy]
  · simp [hide, hy]

theorem AlphaEq.extend (h : AlphaEq s s' σ ρ) (a b : String) :
    AlphaEq ((a, b) :: s) ((a, b) :: s') (σ.hide [a]) (ρ.hide [b]) := by
  constructor
  · rintro x y r (⟨rfl, rfl⟩ | ⟨hx, hy, hxy⟩) hr
    · rw [hide_self] at hr
      cases hr
    · rw [hide_of_ne _ hx] at hr
      rw [hide_of_ne _ hy]
      exact h.of_some x y r hxy hr
  · rintro x y (⟨rfl, rfl⟩ | ⟨hx, hy, hxy⟩) hnone
    · exact ⟨hide_self ρ y, Pairing.relates_self s' x y⟩
    · rw [hide_of_ne _ hx] at hnone
      rw [hide_of_ne _ hy]
      obtain ⟨hρ, hxy'⟩ := h.of_none x y hxy hnone
      exact ⟨hρ, Or.inr ⟨hx, hy, hxy'⟩⟩

theorem AlphaEq.extendMany (h : AlphaEq s s' σ ρ) {ps qs : List (String × Ty)}
    (hlen : ps.length = qs.length) :
    AlphaEq (s.extendMany ps qs) (s'.extendMany ps qs) (σ.hide (ps.map (·.1)))
      (ρ.hide (qs.map (·.1))) := by
  induction ps generalizing s s' σ ρ qs with
  | nil =>
      obtain rfl := List.length_eq_zero_iff.mp hlen.symm
      rw [List.map_nil, hide_nil, hide_nil]
      exact h
  | cons p ps ih =>
      obtain ⟨q, qs, rfl⟩ := List.exists_cons_of_length_eq_add_one hlen.symm
      rw [List.map_cons, List.map_cons, hide_cons σ, hide_cons ρ]
      exact ih (h.extend p.1 q.1) (by simpa using hlen)

theorem alphaEq_single {v w : Term} (hv : v.Closed) (h : v.AlphaEq w) (s : Pairing)
    (a b : String) : AlphaEq ((a, b) :: s) s (single a v) (single b w) := by
  constructor
  · rintro x y r (⟨rfl, rfl⟩ | ⟨hx, hy, hxy⟩) hr
    · simp only [single, if_true, Option.some.injEq] at hr
      rw [← hr]
      exact ⟨hv, w, by simp [single], h⟩
    · simp [single, hx] at hr
  · rintro x y (⟨rfl, rfl⟩ | ⟨hx, hy, hxy⟩) hnone
    · simp [single] at hnone
    · exact ⟨by simp [single, hy], hxy⟩

end Valuation

namespace Term

mutual

theorem AlphaUnder.instantiate {s s' : Pairing} {σ ρ : Valuation} {t u : Term}
    (h : AlphaUnder s t u) (hσ : Valuation.AlphaEq s s' σ ρ) :
    AlphaUnder s' (t.instantiate σ) (u.instantiate ρ) := by
  cases h with
  | int _ n => exact .int s' n
  | bool _ b => exact .bool s' b
  | stray _ text => exact .stray s' text
  | @var _ x y h =>
      cases hx : σ x with
      | none =>
          obtain ⟨hy, hxy⟩ := hσ.of_none x y h hx
          simp only [Term.instantiate, hx, hy, Option.getD_none]
          exact .var hxy
      | some r =>
          obtain ⟨hr, r', hy, hrr'⟩ := hσ.of_some x y r h hx
          simp only [Term.instantiate, hx, hy, Option.getD_some]
          exact hrr'.under hr s'
  | ite hc ha hb => exact .ite (hc.instantiate hσ) (ha.instantiate hσ) (hb.instantiate hσ)
  | prim op h => exact .prim op (h.instantiateAll hσ)
  | fn htypes h =>
      exact .fn htypes (h.instantiate (hσ.extendMany (length_eq_of_types htypes)))
  | fix τ h => exact .fix τ (h.instantiate (hσ.extend _ _))
  | letIn hv hb => exact .letIn (hv.instantiate hσ) (hb.instantiate (hσ.extend _ _))
  | app hf h => exact .app (hf.instantiate hσ) (h.instantiateAll hσ)

theorem AlphaAll.instantiateAll {s s' : Pairing} {σ ρ : Valuation} {ts us : List Term}
    (h : AlphaAll s ts us) (hσ : Valuation.AlphaEq s s' σ ρ) :
    AlphaAll s' (Term.instantiateAll σ ts) (Term.instantiateAll ρ us) := by
  cases h with
  | nil => exact .nil s'
  | cons h hs => exact .cons (h.instantiate hσ) (hs.instantiateAll hσ)

end

/-! ### Twins -/

/-- Terms that can be run and are the same but for names of binders. -/
structure Twins (t u : Term) : Prop where
  alphaEq : t.AlphaEq u
  left : t.IsProgram
  right : u.IsProgram

theorem IsProgram.twins {t : Term} (h : t.IsProgram) : Twins t t := ⟨.refl t, h, h⟩

theorem AlphaAll.twins {ts us : List Term} (h : AlphaAll [] ts us) (hts : ∀ t ∈ ts, t.IsProgram)
    (hus : ∀ u ∈ us, u.IsProgram) : List.Forall₂ Twins ts us := by
  induction ts generalizing us with
  | nil =>
      cases h
      exact .nil
  | cons t ts ih =>
      cases h with
      | cons h hs =>
          rw [List.forall_mem_cons] at hts hus
          exact .cons ⟨h, hts.1, hus.1⟩ (ih hs hts.2 hus.2)

theorem AlphaUnder.instantiate_single {x y : String} {b c v w : Term}
    (h : AlphaUnder [(x, y)] b c) (hvw : Twins v w) :
    AlphaEq (b.instantiate (.single x v)) (c.instantiate (.single y w)) :=
  h.instantiate (Valuation.alphaEq_single hvw.left.closed hvw.alphaEq [] x y)

/-- Twins put in for parameters, one after another. -/
theorem AlphaUnder.instantiate_ofArgs {s : Pairing} {ps qs : List (String × Ty)} {b c : Term}
    {vs ws : List Term} (h : AlphaUnder (s.extendMany ps qs) b c) (hlen : ps.length = qs.length)
    (hps : (ps.map (·.1)).Nodup) (hqs : (qs.map (·.1)).Nodup) (hvs : List.Forall₂ Twins vs ws)
    (hargs : vs.length = ps.length) :
    AlphaUnder s (b.instantiate (.ofArgs ps vs)) (c.instantiate (.ofArgs qs ws)) := by
  induction ps generalizing s b c qs vs ws with
  | nil =>
      obtain rfl := List.length_eq_zero_iff.mp hlen.symm
      have hempty : ∀ vs, Valuation.ofArgs [] vs = .empty := fun _ => rfl
      rw [hempty, hempty, instantiate_empty, instantiate_empty]
      exact h
  | cons p ps ih =>
      obtain ⟨q, qs, rfl⟩ := List.exists_cons_of_length_eq_add_one hlen.symm
      obtain ⟨v, vs, rfl⟩ := List.exists_cons_of_length_eq_add_one hargs
      obtain ⟨w, ws, hvw, hrest, rfl⟩ := List.forall₂_cons_left_iff.mp hvs
      rw [List.map_cons, List.nodup_cons] at hps hqs
      have hlen' : ps.length = qs.length := by simpa using hlen
      -- the other parameters have other names, so what stands for the first is not hidden
      have hfirst := (Valuation.alphaEq_single hvw.left.closed hvw.alphaEq s p.1 q.1).extendMany
        hlen'
      rw [Valuation.hide_single_of_not_mem hps.1, Valuation.hide_single_of_not_mem hqs.1]
        at hfirst
      rw [Valuation.ofArgs_cons, Valuation.ofArgs_cons,
        ← instantiate_instantiate (Valuation.closed_single hvw.left.closed _),
        ← instantiate_instantiate (Valuation.closed_single hvw.right.closed _)]
      exact ih (h.instantiate hfirst) hlen' hps.2 hqs.2 hrest (by simpa using hargs)

theorem Twins.call {ps qs : List (String × Ty)} {b c : Term} {vs ws : List Term}
    (h : Twins (fn ps b) (fn qs c)) (hvs : List.Forall₂ Twins vs ws)
    (hargs : vs.length = ps.length) :
    Twins (b.instantiate (.ofArgs ps vs)) (c.instantiate (.ofArgs qs ws)) := by
  obtain ⟨halpha, hfn, hfn'⟩ := h
  cases halpha with
  | fn htypes hb =>
      have hlen := length_eq_of_types htypes
      have hargs' : ws.length = qs.length := by rw [← hvs.length_eq, hargs, hlen]
      have hleft : ∀ v ∈ vs, v.IsProgram := fun v hv => by
        obtain ⟨w, -, hvw⟩ := exists_of_forall₂_of_mem hvs hv
        exact hvw.left
      have hright : ∀ w ∈ ws, w.IsProgram := fun w hw => by
        obtain ⟨v, -, hvw⟩ := exists_of_forall₂_of_mem hvs.flip hw
        exact hvw.right
      exact ⟨hb.instantiate_ofArgs hlen hfn.wellFormed.1 hfn'.wellFormed.1 hvs hargs,
        hfn.call hargs hleft, hfn'.call hargs' hright⟩

end Term

/-! ### What runs end in -/

/-- The same kind of error, with the same numbers, and terms that are the same but for binders. -/
inductive EvalError.AlphaEq : EvalError → EvalError → Prop where
  | freeVariable (x : String) : AlphaEq (.freeVariable x) (.freeVariable x)
  | badOperands (op : Prim) {vs ws : List Term} (h : List.Forall₂ Term.AlphaEq vs ws) :
      AlphaEq (.badOperands op vs) (.badOperands op ws)
  | conditionNotBool {v w : Term} (h : v.AlphaEq w) :
      AlphaEq (.conditionNotBool v) (.conditionNotBool w)
  | arityMismatch (m n : Nat) : AlphaEq (.arityMismatch m n) (.arityMismatch m n)
  | notAFunction {v w : Term} (h : v.AlphaEq w) : AlphaEq (.notAFunction v) (.notAFunction w)

/-- Both runs give a result, and `R` of the two, or both the same error, or no result in time. -/
inductive Alike {α β : Type} (R : α → β → Prop) : Except Stop α → Except Stop β → Prop where
  | ok {a : α} {b : β} (h : R a b) : Alike R (.ok a) (.ok b)
  | error {e e' : EvalError} (h : e.AlphaEq e') : Alike R (.error (.error e)) (.error (.error e'))
  | outOfBudget : Alike R (.error .outOfBudget) (.error .outOfBudget)

/-- The runs end alike but that errors have to be written to be reported. -/
inductive InStep {α β : Type} (R : α → β → Prop) : Except Stop α → Except Stop β → Prop where
  | ok {a : α} {b : β} (h : R a b) : InStep R (.ok a) (.ok b)
  | stop {e e' : EvalError} (h : e.AlphaEq e') : InStep R (.error e.stop) (.error e'.stop)
  | outOfBudget : InStep R (.error .outOfBudget) (.error .outOfBudget)

/-! ### What can be written -/

namespace Term

mutual

theorem AlphaUnder.integers_eq {s : Pairing} {t u : Term} (h : AlphaUnder s t u) :
    t.integers = u.integers := by
  cases h with
  | int | bool | var | stray => rfl
  | ite hc ha hb =>
      rw [integers, integers, hc.integers_eq, ha.integers_eq, hb.integers_eq]
  | prim _ h => exact h.integersAll_eq
  | fn _ h | fix _ h => exact h.integers_eq
  | letIn hv hb => rw [integers, integers, hv.integers_eq, hb.integers_eq]
  | app hf h => rw [integers, integers, hf.integers_eq, h.integersAll_eq]

theorem AlphaAll.integersAll_eq {s : Pairing} {ts us : List Term} (h : AlphaAll s ts us) :
    integersAll ts = integersAll us := by
  cases h with
  | nil => rfl
  | cons h hs => rw [integersAll, integersAll, h.integers_eq, hs.integersAll_eq]

end

/-- The names of binders do not count for whether a term can be written. -/
theorem AlphaUnder.writable_iff {s : Pairing} {t u : Term} (h : AlphaUnder s t u) :
    t.Writable ↔ u.Writable := by
  rw [Writable, Writable, h.integers_eq]

end Term

theorem EvalError.AlphaEq.writable_iff {e e' : EvalError} (h : e.AlphaEq e') :
    e.Writable ↔ e'.Writable := by
  cases h with
  | freeVariable | arityMismatch => exact Iff.rfl
  | badOperands op hvs =>
      rw [Writable, Writable, terms, terms]
      induction hvs with
      | nil => exact Iff.rfl
      | cons hv _ ih => rw [List.forall_mem_cons, List.forall_mem_cons, hv.writable_iff, ih]
  | conditionNotBool h | notAFunction h =>
      rw [Writable, Writable, terms, terms, List.forall_mem_singleton, List.forall_mem_singleton]
      exact h.writable_iff

/-! ### Runs in step -/

namespace InStep

variable {α α' β β' : Type} {R : α → α' → Prop} {S : β → β' → Prop}

theorem imp {S : α → α' → Prop} {x : Except Stop α} {y : Except Stop α'} (h : InStep R x y)
    (hRS : ∀ a b, R a b → S a b) : InStep S x y := by
  cases h with
  | ok h => exact .ok (hRS _ _ h)
  | stop h => exact .stop h
  | outOfBudget => exact .outOfBudget

theorem bind {x : Except Stop α} {y : Except Stop α'} {f : α → Except Stop β}
    {g : α' → Except Stop β'} (h : InStep R x y) (hfg : ∀ a b, R a b → InStep S (f a) (g b)) :
    InStep S (x >>= f) (y >>= g) := by
  cases h with
  | ok h => exact hfg _ _ h
  | stop h => exact .stop h
  | outOfBudget => exact .outOfBudget

theorem mapM {f : α → Except Stop β} {g : α' → Except Stop β'} {l : List α} {l' : List α'}
    (h : List.Forall₂ R l l') (hfg : ∀ a b, R a b → InStep S (f a) (g b)) :
    InStep (List.Forall₂ S) (l.mapM f) (l'.mapM g) := by
  induction h with
  | nil => exact .ok .nil
  | cons hab _ ih =>
      rw [List.mapM_cons, List.mapM_cons]
      exact (hfg _ _ hab).bind fun c d hcd => ih.bind fun cs ds hcds => .ok (.cons hcd hcds)

/-- Either the runs end alike, or in neither of them there is an error that can be written. -/
theorem alike_or_tooLong {x : Except Stop α} {y : Except Stop α'} (h : InStep R x y) :
    Alike R x y ∨ x = .error (.fault .integerTooLong) ∧ y = .error (.fault .integerTooLong) := by
  cases h with
  | ok h => exact .inl (.ok h)
  | outOfBudget => exact .inl .outOfBudget
  | @stop e e' h =>
      by_cases hwritable : e.Writable
      · rw [EvalError.stop_of_writable hwritable,
          EvalError.stop_of_writable (h.writable_iff.mp hwritable)]
        exact .inl (.error h)
      · rw [EvalError.stop_of_not_writable hwritable,
          EvalError.stop_of_not_writable (mt h.writable_iff.mpr hwritable)]
        exact .inr ⟨rfl, rfl⟩

end InStep

theorem Alike.ne_tooLong {α β : Type} {R : α → β → Prop} {x : Except Stop α} {y : Except Stop β}
    (h : Alike R x y) :
    x ≠ .error (.fault .integerTooLong) ∧ y ≠ .error (.fault .integerTooLong) := by
  cases h with
  | ok | error | outOfBudget => exact ⟨nofun, nofun⟩

/-! ### Operands -/

theorem Prim.ints_of_result {op : Prim} {vs : List Term} {v : Term}
    (h : op.apply? vs = some v) : ∀ u ∈ vs, ∃ n, u = .int n := by
  unfold Prim.apply? at h
  split at h <;> simp_all

/-- There is nothing in an integer that could have another name. -/
theorem forall₂_eq_of_ints {R : Term → Term → Prop} (hR : ∀ n w, R (.int n) w → w = .int n)
    {vs ws : List Term} (h : List.Forall₂ R vs ws) (hvs : ∀ v ∈ vs, ∃ n, v = .int n) :
    ws = vs := by
  induction h with
  | nil => rfl
  | cons hvw _ ih =>
      rw [List.forall_mem_cons] at hvs
      obtain ⟨⟨n, rfl⟩, hrest⟩ := hvs
      rw [hR n _ hvw, ih hrest]

theorem Prim.result_alphaEq (op : Prim) {vs ws : List Term}
    (h : List.Forall₂ Term.AlphaEq vs ws) : op.apply? ws = op.apply? vs := by
  have hleft : ∀ n w, Term.AlphaEq (.int n) w → w = .int n := by
    intro n w h
    cases h
    rfl
  have hright : ∀ n v, Term.AlphaEq v (.int n) → v = .int n := by
    intro n v h
    cases h
    rfl
  cases hv : op.apply? vs with
  | some v => rw [forall₂_eq_of_ints hleft h (ints_of_result hv), hv]
  | none =>
      cases hw : op.apply? ws with
      | none => rfl
      | some w =>
          rw [forall₂_eq_of_ints hright h.flip (ints_of_result hw), hw] at hv
          cases hv

namespace Term

/-- **Twins run in step.** -/
theorem Twins.reduce {t u : Term} (h : Twins t u) (n : Nat) :
    InStep Twins (t.reduce n) (u.reduce n) := by
  induction n generalizing t u with
  | zero => exact .outOfBudget
  | succ n ih =>
      have htwins := h
      obtain ⟨halpha, ht, hu⟩ := h
      cases halpha with
      | int | bool | fn => exact .ok htwins
      | var hxy =>
          obtain rfl := hxy
          exact .stop (.freeVariable _)
      | stray => exact ht.wellFormed.elim
      | prim op h =>
          rw [Term.reduce, Term.reduce]
          refine (InStep.mapM (h.twins ht.prim hu.prim) fun t u => ih).bind fun vs ws hvs => ?_
          have hvalues := hvs.imp fun v w hvw => hvw.alphaEq
          rw [op.result_alphaEq hvalues]
          cases hop : op.apply? vs with
          | none => exact .stop (.badOperands op hvalues)
          | some v => exact .ok (Prim.isClosedValue_of_result hop).isProgram.twins
      | ite hc ha hb =>
          obtain ⟨htc, hta, htb⟩ := ht.ite
          obtain ⟨huc, hua, hub⟩ := hu.ite
          rw [Term.reduce, Term.reduce]
          refine (ih ⟨hc, htc, huc⟩).bind fun v w hvw => ?_
          have hvalue := hvw.alphaEq
          cases hvalue with
          | bool _ b =>
              cases b with
              | true => exact ih ⟨ha, hta, hua⟩
              | false => exact ih ⟨hb, htb, hub⟩
          | _ => exact .stop (.conditionNotBool hvw.alphaEq)
      | letIn hv hb =>
          obtain ⟨htv, htb⟩ := ht.letIn
          obtain ⟨huv, hub⟩ := hu.letIn
          rw [Term.reduce, Term.reduce]
          refine (ih ⟨hv, htv, huv⟩).bind fun v w hvw => ?_
          exact ih ⟨hb.instantiate_single hvw, htb v hvw.left, hub w hvw.right⟩
      | fix τ hb =>
          rw [Term.reduce, Term.reduce]
          exact ih ⟨hb.instantiate_single htwins, ht.unfold, hu.unfold⟩
      | app hf h =>
          obtain ⟨htf, hts⟩ := ht.app
          obtain ⟨huf, hus⟩ := hu.app
          rw [Term.reduce, Term.reduce]
          refine (ih ⟨hf, htf, huf⟩).bind fun v w hvw => ?_
          have hvalue := hvw.alphaEq
          cases hvalue with
          | @fn _ ps qs b c htypes _ =>
              refine (InStep.mapM (h.twins hts hus) fun t u => ih).bind fun vs ws hvs => ?_
              rw [← length_eq_of_types htypes, ← hvs.length_eq]
              by_cases hargs : vs.length = ps.length
              · rw [if_neg (not_not.mpr hargs), if_neg (not_not.mpr hargs)]
                exact ih (hvw.call hvs hargs)
              · rw [if_pos hargs, if_pos hargs]
                exact .stop (.arityMismatch _ _)
          | _ => exact .stop (.notAFunction hvw.alphaEq)

/--
**Closed terms that differ in the names of binders alone run alike**, with whatever budget and
from whatever names used before, unless what a run fails with cannot be written.  Either both give
a value, and the values differ in the names of binders alone, or both give the same kind of error,
and the terms in it do, or both run out of budget.  If one fails with something that cannot be
written, so does the other, and then neither gives an error of the language.
-/
theorem evaluate_alphaEq {t u : Term} (h : t.AlphaEq u) (ht : t.Closed) (hu : u.Closed)
    (hwt : t.WellFormed) (hwu : u.WellFormed) (n : Nat) (names names' : Naming) :
    (Alike AlphaEq (names.run (t.evaluate n)).1 (names'.run (u.evaluate n)).1 ↔
        ¬ Environment.FailsUnwritten n t) ∧
      (Environment.FailsUnwritten n t ↔ Environment.FailsUnwritten n u) ∧
      (Environment.FailsUnwritten n t →
        (names.run (t.evaluate n)).1 = .error (.fault .integerTooLong) ∧
          (names'.run (u.evaluate n)).1 = .error (.fault .integerTooLong)) := by
  have htwins : Twins t u := ⟨h, ⟨ht, hwt⟩, ⟨hu, hwu⟩⟩
  have hstep : InStep AlphaEq (names.run (t.evaluate n)).1 (names'.run (u.evaluate n)).1 := by
    rw [run_evaluate ht hwt, run_evaluate hu hwu]
    exact (htwins.reduce n).imp fun v w hvw => hvw.alphaEq
  rw [← Environment.run_evaluate_eq_tooLong_iff ht hwt n names,
    ← Environment.run_evaluate_eq_tooLong_iff hu hwu n names']
  rcases hstep.alike_or_tooLong with halike | ⟨hx, hy⟩
  · obtain ⟨hx, hy⟩ := halike.ne_tooLong
    exact ⟨iff_of_true halike hx, iff_of_false hx hy, fun h => absurd h hx⟩
  · have hnot : ¬ Alike AlphaEq (names.run (t.evaluate n)).1 (names'.run (u.evaluate n)).1 :=
      fun halike => halike.ne_tooLong.1 hx
    exact ⟨iff_of_false hnot (not_not.mpr hx), iff_of_true hx hy, fun _ => ⟨hx, hy⟩⟩

/-- Functions whose parameters have each other's names give values that differ in a name. -/
theorem evaluate_alphaEq_exchanged :
    let t := app (fn [("x", .int), ("y", .int)]
      (fn [("z", .int)] (prim .minus [var "x", prim .plus [var "y", var "z"]]))) [int 1, int 2]
    let u := app (fn [("y", .int), ("x", .int)]
      (fn [("w", .int)] (prim .minus [var "y", prim .plus [var "x", var "w"]]))) [int 1, int 2]
    (t.AlphaEq u ∧ (t.Closed ∧ u.Closed) ∧ t.WellFormed ∧ u.WellFormed) ∧
      ((Naming.run {} (t.evaluate 2)).1 =
        .ok (fn [("z", .int)] (prim .minus [int 1, prim .plus [int 2, var "z"]]))) ∧
      ((Naming.run {} (u.evaluate 2)).1 =
        .ok (fn [("w", .int)] (prim .minus [int 1, prim .plus [int 2, var "w"]]))) ∧
      Alike AlphaEq (Naming.run {} (t.evaluate 2)).1 (Naming.run {} (u.evaluate 2)).1 := by
  intro t u
  have h : t.AlphaEq u := by decide
  have hc : t.Closed ∧ u.Closed := by decide
  have hw : t.WellFormed ∧ u.WellFormed := by decide
  have hwritten : ¬ Environment.FailsUnwritten 2 t := by
    rintro ⟨f, hf, -⟩
    cases hf
  obtain ⟨halike, -, -⟩ := evaluate_alphaEq h hc.1 hc.2 hw.1 hw.2 2 {} {}
  exact ⟨⟨h, hc, hw⟩, rfl, rfl, halike.mpr hwritten⟩

/-- With a condition that comes to a number that is too long neither run ends as is said. -/
theorem evaluate_alphaEq_fails :
    ¬ ∀ t u : Term, t.AlphaEq u → t.Closed → u.Closed → t.WellFormed → u.WellFormed →
      ∀ (n : Nat) (names names' : Naming),
        Alike AlphaEq (names.run (t.evaluate n)).1 (names'.run (u.evaluate n)).1 := by
  intro h
  let t := ite (letIn "x" longProduct (var "x")) (int 1) (int 2)
  let u := ite (letIn "y" longProduct (var "y")) (int 1) (int 2)
  have hc : t.Closed ∧ u.Closed := by decide
  have hw : t.WellFormed ∧ u.WellFormed := by decide
  have hbound : AlphaUnder [("x", "y")] (var "x") (var "y") := .var (Pairing.relates_self [] _ _)
  have halpha : t.AlphaEq u :=
    .ite (.letIn (AlphaEq.refl longProduct) hbound) (.int [] 1) (.int [] 2)
  have halike := h t u halpha hc.1 hc.2 hw.1 hw.2 4 {} {}
  have hlong : Environment.FailsUnwritten 4 t :=
    ⟨_, rfl, EvalError.not_writable_of_mem List.mem_cons_self not_writable_longNumber⟩
  exact halike.ne_tooLong.1
    ((Environment.run_evaluate_eq_tooLong_iff hc.1 hw.1 4 {}).mpr hlong)

/-- With a stray text they would differ: a binder that hides the target keeps it from being read. -/
example :
    let t := letIn "x" (fn [] (stray "?")) (fn [("x", .int)] (int 1))
    let u := letIn "x" (fn [] (stray "?")) (fn [("y", .int)] (int 1))
    t.AlphaEq u ∧ (Naming.run {} (t.evaluate 2)).1 = .ok (fn [("x", .int)] (int 1)) ∧
      (Naming.run {} (u.evaluate 2)).1 = .error (.fault (.unknownTerm "?")) :=
  ⟨by decide, rfl, rfl⟩

end Term

end TypedLambda
