/-
Why a term has no type.

The check of a term goes wrong at one place.  `Fails` says what is wrong there: one rule for
every test that is made, and in each of them what the test looks at has been given types.
`Checks` says how the check gets from a term to one of its parts, one rule for every part: all
that is checked before the part has a type, and the part is checked in the context that the
binder gives it.  A term is refused with an error exactly if parts of parts lead to a place that
fails with that error (`infer_eq_error_iff`).

So what is known of the place is brought up to the whole term one part at a time, and a lemma
about a single part is enough (`of_infer_eq_error`).
-/
import Mathlib.Logic.Relation
import TypedLambda.Proofs.Typing

namespace TypedLambda

/-! ### Tests -/

/-- How a list of arguments differs from the parameters. -/
inductive Unlike : List Ty → List Ty → TypeError → Prop
  | arity {σs τs : List Ty} (h : σs.length ≠ τs.length) :
    Unlike σs τs (.arityMismatch σs.length τs.length)
  /-- The first of several differences. -/
  | type (same : List Ty) {σ τ : Ty} {σs τs : List Ty} (hlen : σs.length = τs.length)
    (h : σ ≠ τ) : Unlike (same ++ σ :: σs) (same ++ τ :: τs) (.mismatch σ τ)

theorem firstDifference?_append (same : List Ty) {σ τ : Ty} (h : σ ≠ τ) (σs τs : List Ty) :
    firstDifference? (same ++ σ :: σs) (same ++ τ :: τs) = some (σ, τ) := by
  induction same with
  | nil => rw [List.nil_append, List.nil_append, firstDifference?, if_neg h]
  | cons ρ same ih => rw [List.cons_append, List.cons_append, firstDifference?, if_pos rfl, ih]

theorem exists_of_firstDifference?_eq_some {σs τs : List Ty} {σ τ : Ty}
    (h : firstDifference? σs τs = some (σ, τ)) :
    ∃ same σs' τs', σs = same ++ σ :: σs' ∧ τs = same ++ τ :: τs' ∧ σ ≠ τ := by
  induction σs generalizing τs with
  | nil => cases h
  | cons ρ σs ih =>
      cases τs with
      | nil => cases h
      | cons π τs =>
          by_cases hρ : ρ = π
          · rw [firstDifference?, if_pos hρ] at h
            obtain ⟨same, σs', τs', rfl, rfl, hne⟩ := ih h
            exact ⟨π :: same, σs', τs', by rw [hρ, List.cons_append], rfl, hne⟩
          · rw [firstDifference?, if_neg hρ] at h
            obtain ⟨rfl, rfl⟩ := Prod.mk.inj (Option.some.inj h)
            exact ⟨[], σs, τs, rfl, rfl, hρ⟩

theorem checkArgs_eq_error {σs τs : List Ty} {e : Untyped} :
    checkArgs σs τs = .error e ↔ ∃ f, Unlike σs τs f ∧ e = .error f := by
  constructor
  · intro h
    rw [checkArgs] at h
    by_cases hlen : σs.length = τs.length
    · rw [if_neg (not_not.mpr hlen)] at h
      rcases hd : firstDifference? σs τs with _ | ⟨σ, τ⟩
      · rw [hd] at h
        cases h
      · rw [hd] at h
        obtain ⟨same, σs', τs', rfl, rfl, hne⟩ := exists_of_firstDifference?_eq_some hd
        exact ⟨_, .type same (by simpa using hlen) hne, (Except.error.inj h).symm⟩
    · rw [if_pos hlen] at h
      exact ⟨_, .arity hlen, (Except.error.inj h).symm⟩
  · rintro ⟨f, hf, rfl⟩
    cases hf with
    | arity h => rw [checkArgs, if_pos h]
    | type same hlen h =>
        rw [checkArgs, if_neg (by simp [hlen]), firstDifference?_append same h]

theorem checkSame_self (σ : Ty) : checkSame σ σ = .ok () :=
  if_pos rfl

theorem checkSame_eq_error {σ τ : Ty} {e : Untyped} :
    checkSame σ τ = .error e ↔ σ ≠ τ ∧ e = .error (.mismatch σ τ) := by
  rw [checkSame]
  by_cases h : σ = τ
  · simp [h]
  · simp [h, eq_comm]

/-! ### Places -/

/-- A term where it stands, with the context that the binders above it give. -/
structure Site where
  context : Context
  term : Term

namespace Site

variable {Δ : Signatures}

abbrev infer (Δ : Signatures) (s : Site) : Except Untyped Ty :=
  s.term.infer Δ s.context

/-- The check of a term gets to this part of it. -/
inductive Checks (Δ : Signatures) : Site → Site → Prop
  | operand {Γ : Context} {op : Prim} {s : Signature} {before : List Term} (t : Term)
    (after : List Term) (hs : Δ op = some s) (hbefore : ∀ u ∈ before, ∃ τ, u.infer Δ Γ = .ok τ) :
    Checks Δ ⟨Γ, .prim op (before ++ t :: after)⟩ ⟨Γ, t⟩
  | cond (Γ : Context) (c a b : Term) : Checks Δ ⟨Γ, .ite c a b⟩ ⟨Γ, c⟩
  | thenBranch {Γ : Context} {c : Term} (a b : Term) (hc : c.infer Δ Γ = .ok .bool) :
    Checks Δ ⟨Γ, .ite c a b⟩ ⟨Γ, a⟩
  | elseBranch {Γ : Context} {c a : Term} {α : Ty} (b : Term) (hc : c.infer Δ Γ = .ok .bool)
    (ha : a.infer Δ Γ = .ok α) : Checks Δ ⟨Γ, .ite c a b⟩ ⟨Γ, b⟩
  | value (Γ : Context) (x : String) (v b : Term) : Checks Δ ⟨Γ, .letIn x v b⟩ ⟨Γ, v⟩
  | letBody {Γ : Context} {x : String} {v : Term} {σ : Ty} (b : Term)
    (hv : v.infer Δ Γ = .ok σ) : Checks Δ ⟨Γ, .letIn x v b⟩ ⟨Γ.extend x σ, b⟩
  | fixBody (Γ : Context) (f : String) (τ : Ty) (b : Term) :
    Checks Δ ⟨Γ, .fix f τ b⟩ ⟨Γ.extend f τ, b⟩
  | fnBody (Γ : Context) (ps : List (String × Ty)) (b : Term) :
    Checks Δ ⟨Γ, .fn ps b⟩ ⟨Γ.extendMany ps, b⟩
  | func (Γ : Context) (f : Term) (ts : List Term) : Checks Δ ⟨Γ, .app f ts⟩ ⟨Γ, f⟩
  | arg {Γ : Context} {f : Term} {σs : List Ty} {β : Ty} {before : List Term} (t : Term)
    (after : List Term) (hf : f.infer Δ Γ = .ok (.arrow σs β))
    (hbefore : ∀ u ∈ before, ∃ τ, u.infer Δ Γ = .ok τ) :
    Checks Δ ⟨Γ, .app f (before ++ t :: after)⟩ ⟨Γ, t⟩

/-- What the test at a place looks at has types, and the test fails. -/
inductive Fails (Δ : Signatures) : Site → Untyped → Prop
  | var {Γ : Context} {x : String} (h : Γ.lookup? x = none) :
    Fails Δ ⟨Γ, .var x⟩ (.error (.undefinedVariable x))
  | signature (Γ : Context) {op : Prim} (ts : List Term) (h : Δ op = none) :
    Fails Δ ⟨Γ, .prim op ts⟩ (.missingSignature op)
  | operands {Γ : Context} {op : Prim} {s : Signature} {ts : List Term} {τs : List Ty}
    {e : TypeError} (hs : Δ op = some s)
    (hts : List.Forall₂ (fun t τ => t.infer Δ Γ = .ok τ) ts τs) (h : Unlike s.params τs e) :
    Fails Δ ⟨Γ, .prim op ts⟩ (.error e)
  | cond {Γ : Context} {c : Term} {γ : Ty} (a b : Term) (hc : c.infer Δ Γ = .ok γ)
    (h : .bool ≠ γ) : Fails Δ ⟨Γ, .ite c a b⟩ (.error (.mismatch .bool γ))
  | branches {Γ : Context} {c a b : Term} {α β : Ty} (hc : c.infer Δ Γ = .ok .bool)
    (ha : a.infer Δ Γ = .ok α) (hb : b.infer Δ Γ = .ok β) (h : α ≠ β) :
    Fails Δ ⟨Γ, .ite c a b⟩ (.error (.mismatch α β))
  | declared {Γ : Context} {f : String} {τ β : Ty} {b : Term}
    (hb : b.infer Δ (Γ.extend f τ) = .ok β) (h : τ ≠ β) :
    Fails Δ ⟨Γ, .fix f τ b⟩ (.error (.mismatch τ β))
  | func {Γ : Context} {f : Term} {φ : Ty} (ts : List Term) (hf : f.infer Δ Γ = .ok φ)
    (h : ∀ σs β, φ ≠ .arrow σs β) : Fails Δ ⟨Γ, .app f ts⟩ (.error (.applyNonArrow φ))
  | args {Γ : Context} {f : Term} {ts : List Term} {σs τs : List Ty} {β : Ty} {e : TypeError}
    (hf : f.infer Δ Γ = .ok (.arrow σs β))
    (hts : List.Forall₂ (fun t τ => t.infer Δ Γ = .ok τ) ts τs) (h : Unlike σs τs e) :
    Fails Δ ⟨Γ, .app f ts⟩ (.error e)
  | stray (Γ : Context) (s : String) : Fails Δ ⟨Γ, .stray s⟩ (.fault (.unknownTerm s))

/-- Parts of parts lead to a place that fails with this error. -/
def Refused (Δ : Signatures) (p : Site) (e : Untyped) : Prop :=
  ∃ q, Relation.ReflTransGen (Checks Δ) p q ∧ Fails Δ q e

variable {p q : Site} {e : Untyped}

theorem Fails.refused (h : Fails Δ p e) : Refused Δ p e :=
  ⟨p, .refl, h⟩

theorem Refused.of_checks (h : Refused Δ q e) (hpq : Checks Δ p q) : Refused Δ p e := by
  obtain ⟨r, hqr, hr⟩ := h
  exact ⟨r, .head hpq hqr, hr⟩

/-- What is wrong with a part that is checked is reported for the whole. -/
theorem Checks.infer_eq_error (hpq : Checks Δ p q) (h : q.infer Δ = .error e) :
    p.infer Δ = .error e := by
  cases hpq <;> dsimp only [infer] at h ⊢
  case cond | value | fixBody | fnBody | func => rw [Term.infer, h, error_bind]
  case thenBranch hc => rw [Term.infer, hc, ok_bind, checkSame_self, ok_bind, h, error_bind]
  case elseBranch hc ha =>
    rw [Term.infer, hc, ok_bind, checkSame_self, ok_bind, ha, ok_bind, h, error_bind]
  case letBody hv => rw [Term.infer, hv, ok_bind, h]
  case operand t after hs hbefore =>
    have hts := mapM_eq_error.mpr ⟨_, t, after, rfl, hbefore, h⟩
    simp only [Term.infer, hs, Term.inferAll_eq_mapM, hts, error_bind]
  case arg t after hf hbefore =>
    have hts := mapM_eq_error.mpr ⟨_, t, after, rfl, hbefore, h⟩
    simp only [Term.infer, hf, Term.inferAll_eq_mapM, ok_bind, hts, error_bind]

theorem Fails.infer_eq_error (h : Fails Δ p e) : p.infer Δ = .error e := by
  cases h with
  | var h => simp only [infer, Term.infer, h]
  | signature Γ ts h => simp only [infer, Term.infer, h]
  | operands hs hts h =>
      have hargs := checkArgs_eq_error.mpr ⟨_, h, rfl⟩
      simp only [infer, Term.infer, hs, Term.inferAll_eq_mapM, mapM_eq_ok.mpr hts, ok_bind, hargs,
        error_bind]
  | args hf hts h =>
      have hargs := checkArgs_eq_error.mpr ⟨_, h, rfl⟩
      simp only [infer, Term.infer, hf, Term.inferAll_eq_mapM, mapM_eq_ok.mpr hts, ok_bind, hargs,
        error_bind]
  | cond a b hc h =>
      have hsame := checkSame_eq_error.mpr ⟨h, rfl⟩
      simp only [infer, Term.infer, hc, ok_bind, hsame, error_bind]
  | branches hc ha hb h =>
      have hsame := checkSame_eq_error.mpr ⟨h, rfl⟩
      simp only [infer, Term.infer, hc, ha, hb, checkSame_self, ok_bind, hsame, error_bind]
  | declared hb h =>
      have hsame := checkSame_eq_error.mpr ⟨h, rfl⟩
      simp only [infer, Term.infer, hb, ok_bind, hsame, error_bind]
  | func ts hf h => simp only [infer, Term.infer, hf, ok_bind]
  | stray Γ s => rfl

theorem refused_of_infer {Γ : Context} {t : Term} (h : t.infer Δ Γ = .error e) :
    Refused Δ ⟨Γ, t⟩ e := by
  -- the error is that of a part, to which the check gets, or all parts before it have types
  induction t using Term.induction generalizing Γ with
  | int | bool => cases h
  | var x =>
      rcases hx : Γ.lookup? x with _ | τ
      · rw [Term.infer, hx] at h
        obtain rfl := Except.error.inj h
        exact Fails.refused (.var hx)
      · rw [Term.infer, hx] at h
        cases h
  | stray s =>
      obtain rfl := Except.error.inj h
      exact Fails.refused (.stray Γ s)
  | prim op ts ih =>
      rcases hs : Δ op with _ | s
      · rw [Term.infer, hs] at h
        obtain rfl := Except.error.inj h
        exact Fails.refused (.signature Γ ts hs)
      · simp only [Term.infer, hs, Term.inferAll_eq_mapM, bind_eq_error, mapM_eq_error,
          mapM_eq_ok] at h
        rcases h with ⟨before, t, after, rfl, hbefore, ht⟩ | ⟨τs, hts, hargs | ⟨u, -, hret⟩⟩
        · exact (ih t (by simp) ht).of_checks (.operand t after hs hbefore)
        · obtain ⟨f, hf, rfl⟩ := checkArgs_eq_error.mp hargs
          exact Fails.refused (.operands hs hts hf)
        · cases hret
  | ite c a b ihc iha ihb =>
      simp only [Term.infer, bind_eq_error, checkSame_eq_ok, checkSame_eq_error] at h
      rcases h with hc | ⟨γ, hc, ⟨hne, rfl⟩ | ⟨-, rfl, ha | ⟨α, ha, hb | ⟨β, hb, h⟩⟩⟩⟩
      · exact (ihc hc).of_checks (.cond Γ c a b)
      · exact Fails.refused (.cond a b hc hne)
      · exact (iha ha).of_checks (.thenBranch a b hc)
      · exact (ihb hb).of_checks (.elseBranch b hc ha)
      · rcases h with ⟨hne, rfl⟩ | ⟨-, -, hret⟩
        · exact Fails.refused (.branches hc ha hb hne)
        · cases hret
  | letIn x v b ihv ihb =>
      simp only [Term.infer, bind_eq_error] at h
      rcases h with hv | ⟨σ, hv, hb⟩
      · exact (ihv hv).of_checks (.value Γ x v b)
      · exact (ihb hb).of_checks (.letBody b hv)
  | fix f τ b ih =>
      simp only [Term.infer, bind_eq_error, checkSame_eq_error] at h
      rcases h with hb | ⟨β, hb, ⟨hne, rfl⟩ | ⟨-, -, hret⟩⟩
      · exact (ih hb).of_checks (.fixBody Γ f τ b)
      · exact Fails.refused (.declared hb hne)
      · cases hret
  | fn ps b ih =>
      simp only [Term.infer, bind_eq_error] at h
      rcases h with hb | ⟨β, -, hret⟩
      · exact (ih hb).of_checks (.fnBody Γ ps b)
      · cases hret
  | app f ts ihf ih =>
      rw [Term.infer, bind_eq_error] at h
      rcases h with hf | ⟨φ, hf, h⟩
      · exact (ihf hf).of_checks (.func Γ f ts)
      · cases φ with
        | int | bool =>
            obtain rfl := Except.error.inj h
            exact Fails.refused (.func ts hf (by simp))
        | arrow σs β =>
            simp only [Term.inferAll_eq_mapM, bind_eq_error, mapM_eq_error, mapM_eq_ok] at h
            rcases h with ⟨before, t, after, rfl, hbefore, ht⟩ | ⟨τs, hts, hargs | ⟨-, -, hret⟩⟩
            · exact (ih t (by simp) ht).of_checks (.arg t after hf hbefore)
            · obtain ⟨f, hf', rfl⟩ := checkArgs_eq_error.mp hargs
              exact Fails.refused (.args hf hts hf')
            · cases hret

/-- **A term is refused with the error of the one place that its check leads to.** -/
theorem infer_eq_error_iff : p.infer Δ = .error e ↔ Refused Δ p e := by
  constructor
  · exact refused_of_infer
  · rintro ⟨q, hpq, hq⟩
    induction hpq using Relation.ReflTransGen.head_induction_on with
    | refl => exact hq.infer_eq_error
    | head hpr _ ih => exact hpr.infer_eq_error ih

/-- What holds of the place that fails, and of a term with a part it holds of, holds of the term. -/
theorem of_infer_eq_error {P : Site → Prop} (hchecks : ∀ p q, Checks Δ p q → P q → P p)
    (hfails : ∀ q, Fails Δ q e → P q) (h : p.infer Δ = .error e) : P p := by
  obtain ⟨q, hpq, hq⟩ := infer_eq_error_iff.mp h
  have hP : P q := hfails q hq
  clear h
  induction hpq using Relation.ReflTransGen.head_induction_on with
  | refl => exact hP
  | head hpr _ ih => exact hchecks _ _ hpr ih

end Site

end TypedLambda
