/-
The typing judgement.

`HasType` gives the rules by themselves: they speak of the bindings of a context and of the
types of the parts, and not of what is tested in which order.  A name has the type of its
innermost binding, the parameters of a function are added one after another so that the last
comes first, and the types of operands and arguments are the required ones, in order and number.

`infer` decides the judgement.  That what it finds follows from the rules is by induction on the
term, and that it finds what follows from the rules is by induction on the derivation; the
readings of the rules in `infer_prim_eq_ok` and its like carry both.  So a term has at most one
type.  For a term without a type the check ends in an error of the language, or in an operation
of the term that the table leaves out.
-/
import TypedLambda.Proofs.Typing.Refusal

namespace TypedLambda

/-! ### Bindings -/

namespace Context

variable {Γ : Context} {x : String} {τ : Ty}

/-- The innermost binding of the name is for this type. -/
def Binds (Γ : Context) (x : String) (τ : Ty) : Prop :=
  ∃ newer older, Γ.bindings = newer ++ (x, τ) :: older ∧ ∀ b ∈ newer, b.1 ≠ x

theorem lookup?_eq_some : Γ.lookup? x = some τ ↔ Γ.Binds x τ := by
  rw [lookup?, List.lookup_eq_some_iff, Binds]
  refine exists₂_congr fun newer older => and_congr_right fun _ => forall₂_congr fun b _ => ?_
  rw [bne_iff_ne, ne_comm]

theorem extendMany_eq (Γ : Context) (ps : List (String × Ty)) :
    Γ.extendMany ps = ⟨ps.reverse ++ Γ.bindings⟩ := by
  induction ps generalizing Γ with
  | nil => rfl
  | cons p ps ih => rw [extendMany_cons, ih, extend, List.reverse_cons, List.append_assoc]; rfl

end Context

/-! ### The judgement -/

mutual

inductive HasType (Δ : Signatures) : Context → Term → Ty → Prop
  | int (Γ : Context) (n : Int) : HasType Δ Γ (.int n) .int
  | bool (Γ : Context) (b : Bool) : HasType Δ Γ (.bool b) .bool
  | var {Γ : Context} {x : String} {τ : Ty} (h : Γ.Binds x τ) : HasType Δ Γ (.var x) τ
  | prim {Γ : Context} {op : Prim} {s : Signature} {ts : List Term} (hs : Δ op = some s)
    (hts : HaveTypes Δ Γ ts s.params) : HasType Δ Γ (.prim op ts) s.result
  | ite {Γ : Context} {c a b : Term} {τ : Ty} (hc : HasType Δ Γ c .bool) (ha : HasType Δ Γ a τ)
    (hb : HasType Δ Γ b τ) : HasType Δ Γ (.ite c a b) τ
  | letIn {Γ : Context} {x : String} {v b : Term} {σ τ : Ty} (hv : HasType Δ Γ v σ)
    (hb : HasType Δ ⟨(x, σ) :: Γ.bindings⟩ b τ) : HasType Δ Γ (.letIn x v b) τ
  | fix {Γ : Context} {f : String} {τ : Ty} {b : Term}
    (hb : HasType Δ ⟨(f, τ) :: Γ.bindings⟩ b τ) : HasType Δ Γ (.fix f τ b) τ
  | fn {Γ : Context} {ps : List (String × Ty)} {b : Term} {β : Ty}
    (hb : HasType Δ ⟨ps.reverse ++ Γ.bindings⟩ b β) :
    HasType Δ Γ (.fn ps b) (.arrow (ps.map (·.2)) β)
  | app {Γ : Context} {f : Term} {ts : List Term} {σs : List Ty} {β : Ty}
    (hf : HasType Δ Γ f (.arrow σs β)) (hts : HaveTypes Δ Γ ts σs) : HasType Δ Γ (.app f ts) β

/-- The terms have these types, one each. -/
inductive HaveTypes (Δ : Signatures) : Context → List Term → List Ty → Prop
  | nil (Γ : Context) : HaveTypes Δ Γ [] []
  | cons {Γ : Context} {t : Term} {τ : Ty} {ts : List Term} {τs : List Ty} (h : HasType Δ Γ t τ)
    (hs : HaveTypes Δ Γ ts τs) : HaveTypes Δ Γ (t :: ts) (τ :: τs)

end

namespace Term

variable {Δ : Signatures} {Γ : Context} {t : Term} {τ : Ty}

private theorem haveTypes_of_infer {ts : List Term} {τs : List Ty}
    (h : ∀ t ∈ ts, ∀ τ, t.infer Δ Γ = .ok τ → HasType Δ Γ t τ)
    (hts : List.Forall₂ (fun t τ => t.infer Δ Γ = .ok τ) ts τs) : HaveTypes Δ Γ ts τs := by
  induction hts with
  | nil => exact .nil Γ
  | cons ht _ ih =>
      rw [List.forall_mem_cons] at h
      exact .cons (h.1 _ ht) (ih h.2)

theorem hasType_of_infer (h : t.infer Δ Γ = .ok τ) : HasType Δ Γ t τ := by
  induction t using Term.induction generalizing Γ τ with
  | int n =>
      obtain rfl := Except.ok.inj h
      exact .int Γ n
  | bool b =>
      obtain rfl := Except.ok.inj h
      exact .bool Γ b
  | var x => exact .var (Context.lookup?_eq_some.mp (infer_var_eq_ok.mp h))
  | prim op ts ih =>
      obtain ⟨s, hs, rfl, hts⟩ := infer_prim_eq_ok.mp h
      exact .prim hs (haveTypes_of_infer (fun t ht σ => ih t ht) hts)
  | ite c a b ihc iha ihb =>
      obtain ⟨hc, ha, hb⟩ := infer_ite_eq_ok.mp h
      exact .ite (ihc hc) (iha ha) (ihb hb)
  | letIn x v b ihv ihb =>
      obtain ⟨σ, hv, hb⟩ := infer_letIn_eq_ok.mp h
      exact .letIn (ihv hv) (ihb hb)
  | fix f σ b ih =>
      obtain ⟨rfl, hb⟩ := infer_fix_eq_ok.mp h
      exact .fix (ih hb)
  | fn ps b ih =>
      obtain ⟨β, hb, rfl⟩ := infer_fn_eq_ok.mp h
      rw [Context.extendMany_eq] at hb
      exact .fn (ih hb)
  | app f ts ihf ih =>
      obtain ⟨σs, hf, hts⟩ := infer_app_eq_ok.mp h
      exact .app (ihf hf) (haveTypes_of_infer (fun t ht σ => ih t ht) hts)
  | stray s => cases h

end Term

mutual

theorem HasType.infer_eq {Δ : Signatures} {Γ : Context} {t : Term} {τ : Ty}
    (h : HasType Δ Γ t τ) : t.infer Δ Γ = .ok τ := by
  cases h with
  | int | bool => rfl
  | var h => exact Term.infer_var_eq_ok.mpr (Context.lookup?_eq_some.mpr h)
  | prim hs hts => exact Term.infer_prim_eq_ok.mpr ⟨_, hs, rfl, hts.infer_eq⟩
  | ite hc ha hb => exact Term.infer_ite_eq_ok.mpr ⟨hc.infer_eq, ha.infer_eq, hb.infer_eq⟩
  | letIn hv hb => exact Term.infer_letIn_eq_ok.mpr ⟨_, hv.infer_eq, hb.infer_eq⟩
  | fix hb => exact Term.infer_fix_eq_ok.mpr ⟨rfl, hb.infer_eq⟩
  | fn hb =>
      refine Term.infer_fn_eq_ok.mpr ⟨_, ?_, rfl⟩
      rw [Context.extendMany_eq]
      exact hb.infer_eq
  | app hf hts => exact Term.infer_app_eq_ok.mpr ⟨_, hf.infer_eq, hts.infer_eq⟩

theorem HaveTypes.infer_eq {Δ : Signatures} {Γ : Context} {ts : List Term} {τs : List Ty}
    (h : HaveTypes Δ Γ ts τs) : List.Forall₂ (fun t τ => t.infer Δ Γ = .ok τ) ts τs := by
  cases h with
  | nil => exact .nil
  | cons h hs => exact .cons h.infer_eq hs.infer_eq

end

theorem Term.infer_eq_ok_iff {Δ : Signatures} {Γ : Context} {t : Term} {τ : Ty} :
    t.infer Δ Γ = .ok τ ↔ HasType Δ Γ t τ :=
  ⟨Term.hasType_of_infer, HasType.infer_eq⟩

instance (Δ : Signatures) (Γ : Context) (t : Term) (τ : Ty) : Decidable (HasType Δ Γ t τ) :=
  decidable_of_iff _ Term.infer_eq_ok_iff

/-- A term has at most one type. -/
theorem HasType.unique {Δ : Signatures} {Γ : Context} {t : Term} {σ τ : Ty}
    (hσ : HasType Δ Γ t σ) (hτ : HasType Δ Γ t τ) : σ = τ :=
  Except.ok.inj (hσ.infer_eq.symm.trans hτ.infer_eq)

/-! ### Terms without a type -/

namespace Term

mutual

/-- The operations from left to right, each as often as it is used. -/
def prims : Term → List Prim
  | int _ | bool _ | var _ | stray _ => []
  | ite c a b => prims c ++ prims a ++ prims b
  | prim op ts => op :: primsAll ts
  | app f ts => prims f ++ primsAll ts
  | fn _ b | fix _ _ b => prims b
  | letIn _ v b => prims v ++ prims b

def primsAll : List Term → List Prim
  | [] => []
  | t :: ts => prims t ++ primsAll ts

end

theorem mem_primsAll_iff {op : Prim} {ts : List Term} :
    op ∈ primsAll ts ↔ ∃ t ∈ ts, op ∈ t.prims := by
  induction ts with
  | nil => simp [primsAll]
  | cons t ts ih => simp [primsAll, ih]

end Term

namespace Site

variable {Δ : Signatures} {p q : Site}

theorem Checks.mem_prims (hpq : Checks Δ p q) {op : Prim} (hq : op ∈ q.term.prims) :
    op ∈ p.term.prims := by
  cases hpq with
  | operand t after => exact List.mem_cons_of_mem _ (Term.mem_primsAll_iff.mpr ⟨t, by simp, hq⟩)
  | arg t after => exact List.mem_append_right _ (Term.mem_primsAll_iff.mpr ⟨t, by simp, hq⟩)
  | _ => simp_all [Term.prims]

theorem Checks.firstStray?_eq_none (hpq : Checks Δ p q) (hp : p.term.firstStray? = none) :
    q.term.firstStray? = none := by
  cases hpq with
  | operand t after => exact Term.firstStrayOf?_eq_none_iff.mp hp t (by simp)
  | arg t after =>
      exact Term.firstStrayOf?_eq_none_iff.mp (Option.or_eq_none_iff.mp hp).2 t (by simp)
  | _ => simp_all [Term.firstStray?]

end Site

namespace Term

variable {Δ : Signatures} {Γ : Context} {t : Term}

/-- An operation that is refused is one of those of the term. -/
theorem missing_of_infer {op : Prim} (h : t.infer Δ Γ = .error (.missingSignature op)) :
    op ∈ t.prims ∧ Δ op = none := by
  refine Site.of_infer_eq_error (p := ⟨Γ, t⟩) (P := fun p => op ∈ p.term.prims ∧ Δ op = none)
    (fun p q hpq hq => ⟨hpq.mem_prims hq.1, hq.2⟩) (fun q hq => ?_) h
  cases hq with
  | signature Γ ts hnone => exact ⟨List.mem_cons_self, hnone⟩

/-- Without a stray text there is no fault. -/
theorem infer_ne_fault (ht : t.firstStray? = none) (f : Fault) :
    t.infer Δ Γ ≠ .error (.fault f) := by
  intro h
  refine Site.of_infer_eq_error (p := ⟨Γ, t⟩) (P := (·.term.firstStray? ≠ none))
    (fun p q hpq hq hp => hq (hpq.firstStray?_eq_none hp)) (fun q hq => ?_) h ht
  cases hq with
  | stray Γ s => simp [firstStray?]

/--
**Inference decides the typing judgement.**  A type is found exactly if it follows from the rules.
If none does, a term without a stray text is refused with an error of the language, or for an
operation in it that has no signature.
-/
theorem infer_decides (Δ : Signatures) (Γ : Context) (t : Term) :
    (∀ τ, t.infer Δ Γ = .ok τ ↔ HasType Δ Γ t τ) ∧
      (t.firstStray? = none → (¬ ∃ τ, HasType Δ Γ t τ) →
        (∃ e, t.infer Δ Γ = .error (.error e)) ∨
          ∃ op ∈ t.prims, Δ op = none ∧ t.infer Δ Γ = .error (.missingSignature op)) := by
  refine ⟨fun τ => infer_eq_ok_iff, fun ht hnone => ?_⟩
  rcases h : t.infer Δ Γ with e | τ
  · cases e with
    | error e => exact Or.inl ⟨e, rfl⟩
    | missingSignature op =>
        obtain ⟨hop, hmissing⟩ := missing_of_infer h
        exact Or.inr ⟨op, hop, hmissing, rfl⟩
    | fault f => exact absurd h (infer_ne_fault ht f)
  · exact absurd ⟨τ, infer_eq_ok_iff.mp h⟩ hnone

/--
With a table for additions alone: a recursive function has its type by the rules, and a term
with a comparison has none.
-/
theorem infer_decides_partial :
    let Δ : Signatures := fun op => if op = .plus then some op.signature else none
    let t := fix "f" (.arrow [.bool, .int] .int) (fn [("x", .bool), ("z", .int)]
      (ite (var "x") (app (var "f") [bool false, prim .plus [var "z", var "y"]]) (var "y")))
    let u := ite (prim .lessThan [var "y", int 1]) (var "y") (int 0)
    let Γ : Context := ⟨[("y", .int), ("x", .int), ("y", .bool)]⟩
    HasType Δ Γ t (.arrow [.bool, .int] .int) ∧ u.firstStray? = none ∧
      (¬ ∃ τ, HasType Δ Γ u τ) ∧
      ((∃ e, u.infer Δ Γ = .error (.error e)) ∨
        ∃ op ∈ u.prims, Δ op = none ∧ u.infer Δ Γ = .error (.missingSignature op)) := by
  intro Δ t u Γ
  have ht : t.infer Δ Γ = .ok (.arrow [.bool, .int] .int) := by rfl
  have hu : u.infer Δ Γ = .error (.missingSignature .lessThan) := by rfl
  have hstray : u.firstStray? = none := by rfl
  have hnone : ¬ ∃ τ, HasType Δ Γ u τ := by
    rintro ⟨τ, hτ⟩
    rw [((infer_decides Δ Γ u).1 τ).mpr hτ] at hu
    cases hu
  exact ⟨((infer_decides Δ Γ t).1 _).mp ht, hstray, hnone, (infer_decides Δ Γ u).2 hstray hnone⟩

end Term

end TypedLambda
