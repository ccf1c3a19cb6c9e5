/-
The order in which a term is checked.

`checked` lists the places that the check of a term is done with, in the order in which it is
done with them: a place comes after its parts, and what is not looked at any more, because
something went wrong before it, is left out.  These are all the places that `Checks` leads to
(`mem_checked_iff`), so if a term is given a type then every place in its list has one.

On the way to a part that is refused, all that is checked before the part has a type, and what
comes after the part is the term that it is a part of.  So by induction along that way the list
falls into what has a type, the place that fails, and the terms around it that hand its error
on: the error that is reported is the first one in this order.
-/
import TypedLambda.Proofs.Typing.Judgement

namespace TypedLambda

/-- What comes after a result.  After an error nothing does. -/
def whenOk {ε α β : Type} (x : Except ε α) (f : α → List β) : List β :=
  match x with
  | .ok a => f a
  | .error _ => []

section

variable {ε α β : Type}

@[simp] theorem whenOk_ok (a : α) (f : α → List β) :
    whenOk (.ok a : Except ε α) f = f a := rfl

@[simp] theorem whenOk_error (e : ε) (f : α → List β) :
    whenOk (.error e) f = [] := rfl

theorem mem_whenOk {x : Except ε α} {f : α → List β} {b : β} :
    b ∈ whenOk x f ↔ ∃ a, x = .ok a ∧ b ∈ f a := by
  cases x with
  | error e => simp
  | ok a => simp

end

namespace Term

mutual

/-- The places that the check is done with, in this order. -/
def checked (Δ : Signatures) : Context → Term → List Site
  | Γ, int n => [⟨Γ, int n⟩]
  | Γ, bool b => [⟨Γ, bool b⟩]
  | Γ, var x => [⟨Γ, var x⟩]
  | Γ, prim op ts =>
    (match Δ op with
      | none => []
      | some _ => checkedAll Δ Γ ts) ++ [⟨Γ, prim op ts⟩]
  | Γ, ite c a b =>
    -- the condition has to be a boolean before the branches are looked at
    checked Δ Γ c ++ whenOk (infer Δ Γ c >>= checkSame .bool) (fun _ =>
      checked Δ Γ a ++ whenOk (infer Δ Γ a) (fun _ => checked Δ Γ b)) ++ [⟨Γ, ite c a b⟩]
  | Γ, letIn x v b =>
    checked Δ Γ v ++ whenOk (infer Δ Γ v) (fun σ => checked Δ (Γ.extend x σ) b) ++
      [⟨Γ, letIn x v b⟩]
  | Γ, fix f τ b => checked Δ (Γ.extend f τ) b ++ [⟨Γ, fix f τ b⟩]
  | Γ, fn ps b => checked Δ (Γ.extendMany ps) b ++ [⟨Γ, fn ps b⟩]
  | Γ, app f ts =>
    checked Δ Γ f ++ whenOk (infer Δ Γ f) (fun φ =>
      match φ with
      | .arrow _ _ => checkedAll Δ Γ ts
      | _ => []) ++ [⟨Γ, app f ts⟩]
  | Γ, stray s => [⟨Γ, stray s⟩]

def checkedAll (Δ : Signatures) : Context → List Term → List Site
  | _, [] => []
  | Γ, t :: ts => checked Δ Γ t ++ whenOk (infer Δ Γ t) (fun _ => checkedAll Δ Γ ts)

end

variable {Δ : Signatures} {Γ : Context}

/-- The first term that is refused is the last one that is checked. -/
theorem checkedAll_append_cons {before : List Term} {t : Term} {e : Untyped}
    (hbefore : ∀ u ∈ before, ∃ τ, u.infer Δ Γ = .ok τ) (ht : t.infer Δ Γ = .error e)
    (after : List Term) :
    checkedAll Δ Γ (before ++ t :: after) = checkedAll Δ Γ before ++ checked Δ Γ t := by
  induction before with
  | nil => simp only [List.nil_append, checkedAll, ht, whenOk_error, List.append_nil]
  | cons u before ih =>
      obtain ⟨⟨τ, hu⟩, hbefore⟩ := List.forall_mem_cons.mp hbefore
      rw [List.cons_append, checkedAll, checkedAll, hu, whenOk_ok, whenOk_ok, ih hbefore,
        List.append_assoc]

theorem mem_checkedAll {ts : List Term} {s : Site} :
    s ∈ checkedAll Δ Γ ts ↔ ∃ before t after, ts = before ++ t :: after ∧
      (∀ u ∈ before, ∃ τ, u.infer Δ Γ = .ok τ) ∧ s ∈ checked Δ Γ t := by
  induction ts with
  | nil => simp [checkedAll]
  | cons t ts ih =>
      rw [checkedAll, List.mem_append, mem_whenOk, ih]
      constructor
      · rintro (hs | ⟨τ, ht, before, u, after, rfl, hbefore, hs⟩)
        · exact ⟨[], t, ts, rfl, List.forall_mem_nil _, hs⟩
        · exact ⟨t :: before, u, after, rfl, List.forall_mem_cons.mpr ⟨⟨τ, ht⟩, hbefore⟩, hs⟩
      · rintro ⟨before, u, after, hts, hbefore, hs⟩
        cases before with
        | nil =>
            obtain ⟨rfl, -⟩ := List.cons.inj hts
            exact Or.inl hs
        | cons v before =>
            obtain ⟨rfl, rfl⟩ := List.cons.inj hts
            obtain ⟨⟨τ, ht⟩, hbefore⟩ := List.forall_mem_cons.mp hbefore
            exact Or.inr ⟨τ, ht, before, u, after, rfl, hbefore, hs⟩

end Term

namespace Site

variable {Δ : Signatures} {Γ : Context} {p q s u : Site} {e : Untyped}

abbrev checked (Δ : Signatures) (s : Site) : List Site := s.term.checked Δ s.context

/-! ### The places that are checked -/

theorem reaches_of_mem_checked {t : Term} (hs : s ∈ t.checked Δ Γ) :
    Relation.ReflTransGen (Checks Δ) ⟨Γ, t⟩ s := by
  induction t using Term.induction generalizing Γ with
  | int | bool | var | stray =>
      obtain rfl := List.mem_singleton.mp hs
      exact .refl
  | prim op ts ih =>
      rcases List.mem_append.mp hs with hs | hs
      · rcases hop : Δ op with _ | σ
        · simp [hop] at hs
        · rw [hop] at hs
          obtain ⟨before, t, after, rfl, hbefore, hs⟩ := Term.mem_checkedAll.mp hs
          exact .head (.operand t after hop hbefore) (ih t (by simp) hs)
      · obtain rfl := List.mem_singleton.mp hs
        exact .refl
  | ite c a b ihc iha ihb =>
      simp only [Term.checked, List.mem_append, List.mem_singleton, mem_whenOk, bind_eq_ok,
        checkSame_eq_ok] at hs
      rcases hs with (hs | ⟨-, ⟨_, hc, rfl⟩, hs | ⟨α, ha, hs⟩⟩) | rfl
      · exact .head (.cond Γ c a b) (ihc hs)
      · exact .head (.thenBranch a b hc) (iha hs)
      · exact .head (.elseBranch b hc ha) (ihb hs)
      · exact .refl
  | letIn x v b ihv ihb =>
      simp only [Term.checked, List.mem_append, List.mem_singleton, mem_whenOk] at hs
      rcases hs with (hs | ⟨σ, hv, hs⟩) | rfl
      · exact .head (.value Γ x v b) (ihv hs)
      · exact .head (.letBody b hv) (ihb hs)
      · exact .refl
  | fix f τ b ih =>
      rcases List.mem_append.mp hs with hs | hs
      · exact .head (.fixBody Γ f τ b) (ih hs)
      · obtain rfl := List.mem_singleton.mp hs
        exact .refl
  | fn ps b ih =>
      rcases List.mem_append.mp hs with hs | hs
      · exact .head (.fnBody Γ ps b) (ih hs)
      · obtain rfl := List.mem_singleton.mp hs
        exact .refl
  | app f ts ihf ih =>
      simp only [Term.checked, List.mem_append, List.mem_singleton, mem_whenOk] at hs
      rcases hs with (hs | ⟨φ, hf, hs⟩) | rfl
      · exact .head (.func Γ f ts) (ihf hs)
      · cases φ with
        | int | bool => cases hs
        | arrow σs β =>
            obtain ⟨before, t, after, rfl, hbefore, hs⟩ := Term.mem_checkedAll.mp hs
            exact .head (.arg t after hf hbefore) (ih t (by simp) hs)
      · exact .refl

theorem mem_checked_self (p : Site) : p ∈ p.checked Δ := by
  obtain ⟨Γ, t⟩ := p
  cases t <;> simp [checked, Term.checked]

theorem Checks.mem_checked (hpq : Checks Δ p q) (hs : s ∈ q.checked Δ) : s ∈ p.checked Δ := by
  cases hpq with dsimp only [checked] at hs ⊢
  | cond | value | func | fixBody | fnBody => simp [Term.checked, hs]
  | thenBranch a b hc => simp [Term.checked, hc, checkSame_self, hs]
  | elseBranch b hc ha => simp [Term.checked, hc, ha, checkSame_self, hs]
  | letBody b hv => simp [Term.checked, hv, hs]
  | operand t after hop hbefore =>
      have hall := Term.mem_checkedAll.mpr ⟨_, t, after, rfl, hbefore, hs⟩
      simp [Term.checked, hop, hall]
  | arg t after hf hbefore =>
      have hall := Term.mem_checkedAll.mpr ⟨_, t, after, rfl, hbefore, hs⟩
      simp [Term.checked, hf, hall]

/-- **What is listed are the places that the check gets to.** -/
theorem mem_checked_iff : s ∈ p.checked Δ ↔ Relation.ReflTransGen (Checks Δ) p s := by
  constructor
  · exact reaches_of_mem_checked
  · intro h
    induction h using Relation.ReflTransGen.head_induction_on with
    | refl => exact mem_checked_self s
    | head hpq _ ih => exact hpq.mem_checked ih

/-! ### Places with a type -/

/-- The place has a type by the rules. -/
def Typed (Δ : Signatures) (s : Site) : Prop := ∃ τ, HasType Δ s.context s.term τ

def AllTyped (Δ : Signatures) (l : List Site) : Prop := ∀ s ∈ l, s.Typed Δ

theorem allTyped_nil : AllTyped Δ [] := List.forall_mem_nil _

theorem AllTyped.append {l l' : List Site} (h : AllTyped Δ l) (h' : AllTyped Δ l') :
    AllTyped Δ (l ++ l') :=
  List.forall_mem_append.mpr ⟨h, h'⟩

/-- If a term is given a type then all that is checked for it has one. -/
theorem allTyped_of_infer {t : Term} {τ : Ty} (h : t.infer Δ Γ = .ok τ) :
    AllTyped Δ (t.checked Δ Γ) := by
  intro s hs
  rcases hinfer : s.infer Δ with e | σ
  · -- the error would have been handed on
    obtain ⟨u, hsu, hu⟩ := infer_eq_error_iff.mp hinfer
    have hrefused : infer Δ ⟨Γ, t⟩ = .error e :=
      infer_eq_error_iff.mpr ⟨u, (reaches_of_mem_checked hs).trans hsu, hu⟩
    rw [infer, h] at hrefused
    cases hrefused
  · exact ⟨σ, Term.hasType_of_infer hinfer⟩

theorem allTyped_checkedAll {ts : List Term} (h : ∀ t ∈ ts, ∃ τ, t.infer Δ Γ = .ok τ) :
    AllTyped Δ (Term.checkedAll Δ Γ ts) := by
  intro s hs
  obtain ⟨before, t, after, rfl, -, hs⟩ := Term.mem_checkedAll.mp hs
  obtain ⟨τ, ht⟩ := h t (by simp)
  exact allTyped_of_infer ht s hs

theorem allTyped_of_forall₂ {ts : List Term} {τs : List Ty}
    (h : List.Forall₂ (fun t τ => t.infer Δ Γ = .ok τ) ts τs) :
    AllTyped Δ (Term.checkedAll Δ Γ ts) :=
  allTyped_checkedAll fun _ ht => (exists_of_forall₂_of_mem h ht).imp fun _ => And.right

/-! ### The place that fails -/

/-- What is checked before a part that is refused has a type, and after it comes the whole. -/
theorem Checks.checked_eq (hpq : Checks Δ p q) (hq : q.infer Δ = .error e) :
    ∃ earlier, p.checked Δ = earlier ++ q.checked Δ ++ [p] ∧ AllTyped Δ earlier := by
  cases hpq with dsimp only [infer] at hq
  | cond | value | func =>
      refine ⟨[], ?_, allTyped_nil⟩
      simp [checked, Term.checked, hq]
  | fixBody | fnBody => exact ⟨[], rfl, allTyped_nil⟩
  | @thenBranch Γ c a b hc =>
      refine ⟨c.checked Δ Γ, ?_, allTyped_of_infer hc⟩
      simp [checked, Term.checked, hc, hq, checkSame_self]
  | @elseBranch Γ c a α b hc ha =>
      refine ⟨c.checked Δ Γ ++ a.checked Δ Γ, ?_,
        (allTyped_of_infer hc).append (allTyped_of_infer ha)⟩
      simp [checked, Term.checked, hc, ha, checkSame_self]
  | @letBody Γ x v σ b hv =>
      refine ⟨v.checked Δ Γ, ?_, allTyped_of_infer hv⟩
      simp [checked, Term.checked, hv]
  | @operand Γ op σ before t after hop hbefore =>
      refine ⟨Term.checkedAll Δ Γ before, ?_, allTyped_checkedAll hbefore⟩
      simp [checked, Term.checked, hop, Term.checkedAll_append_cons hbefore hq]
  | @arg Γ f σs β before t after hf hbefore =>
      refine ⟨f.checked Δ Γ ++ Term.checkedAll Δ Γ before, ?_,
        (allTyped_of_infer hf).append (allTyped_checkedAll hbefore)⟩
      simp [checked, Term.checked, hf, Term.checkedAll_append_cons hbefore hq]

/-- A term that is not a function has none of its arguments checked. -/
theorem checked_app_of_not_arrow {f : Term} {φ : Ty} (hf : f.infer Δ Γ = .ok φ)
    (h : ∀ σs β, φ ≠ .arrow σs β) (ts : List Term) :
    (Term.app f ts).checked Δ Γ = f.checked Δ Γ ++ [⟨Γ, .app f ts⟩] := by
  cases φ with
  | int | bool => rw [Term.checked, hf, whenOk_ok, List.append_nil]
  | arrow σs β => exact absurd rfl (h σs β)

/-- All that is checked below a place that fails has a type. -/
theorem Fails.checked_eq (h : Fails Δ p e) :
    ∃ parts, p.checked Δ = parts ++ [p] ∧ AllTyped Δ parts := by
  cases h with
  | var | stray => exact ⟨[], rfl, allTyped_nil⟩
  | signature Γ ts h =>
      refine ⟨[], ?_, allTyped_nil⟩
      simp [checked, Term.checked, h]
  | @operands Γ op s ts τs e hs hts h =>
      refine ⟨Term.checkedAll Δ Γ ts, ?_, allTyped_of_forall₂ hts⟩
      simp [checked, Term.checked, hs]
  | @cond Γ c γ a b hc h =>
      have hsame := checkSame_eq_error.mpr ⟨h, rfl⟩
      refine ⟨c.checked Δ Γ, ?_, allTyped_of_infer hc⟩
      simp [checked, Term.checked, hc, hsame]
  | @branches Γ c a b α β hc ha hb h =>
      refine ⟨c.checked Δ Γ ++ (a.checked Δ Γ ++ b.checked Δ Γ), ?_,
        (allTyped_of_infer hc).append ((allTyped_of_infer ha).append (allTyped_of_infer hb))⟩
      simp [checked, Term.checked, hc, ha, checkSame_self]
  | @declared Γ f τ β b hb h => exact ⟨_, rfl, allTyped_of_infer hb⟩
  | @func Γ f φ ts hf h =>
      exact ⟨f.checked Δ Γ, checked_app_of_not_arrow hf h ts, allTyped_of_infer hf⟩
  | @args Γ f ts σs τs β e hf hts h =>
      refine ⟨f.checked Δ Γ ++ Term.checkedAll Δ Γ ts, ?_,
        (allTyped_of_infer hf).append (allTyped_of_forall₂ hts)⟩
      simp [checked, Term.checked, hf]

/-- Around a place that fails: what comes before has a type, and what comes after is around it. -/
theorem Fails.checked_around (hu : Fails Δ u e) (hpu : Relation.ReflTransGen (Checks Δ) p u) :
    ∃ earlier above, p.checked Δ = earlier ++ u.checked Δ ++ above ∧ AllTyped Δ earlier ∧
      ∀ s ∈ above, Relation.TransGen (Checks Δ) s u := by
  induction hpu using Relation.ReflTransGen.head_induction_on with
  | refl => exact ⟨[], [], by simp, allTyped_nil, List.forall_mem_nil _⟩
  | @head p q hpq hqu ih =>
      obtain ⟨before, hp, hbefore⟩ := hpq.checked_eq (infer_eq_error_iff.mpr ⟨u, hqu, hu⟩)
      obtain ⟨earlier, above, hq, hearlier, habove⟩ := ih
      refine ⟨before ++ earlier, above ++ [p], ?_, hbefore.append hearlier, ?_⟩
      · rw [hp, hq]
        simp only [List.append_assoc]
      · exact List.forall_mem_append.mpr
          ⟨habove, List.forall_mem_singleton.mpr (.head' hpq hqu)⟩

end Site

theorem Unlike.ne_applyNonArrow {σs τs : List Ty} {e : TypeError} (h : Unlike σs τs e) (φ : Ty) :
    e ≠ .applyNonArrow φ := by
  cases h with
  | arity | type => simp

namespace Term

/--
**The error that is reported is the first one, and it is true.**  In the order of the check, the
places before `u`, those within `u` included, have types; `u` fails with the error, for the
reason that the error gives; and what comes after are terms around `u`.  If what is applied at
`u` is not a function, then nothing within `u` but that has been checked.
-/
theorem infer_first_error {Δ : Signatures} {Γ : Context} {t : Term} {e : TypeError}
    (h : t.infer Δ Γ = .error (.error e)) :
    ∃ (u : Site) (earlier parts above : List Site),
      Relation.ReflTransGen (Site.Checks Δ) ⟨Γ, t⟩ u ∧ Site.Fails Δ u (.error e) ∧
      t.checked Δ Γ = earlier ++ parts ++ u :: above ∧ u.checked Δ = parts ++ [u] ∧
      Site.AllTyped Δ (earlier ++ parts) ∧
      (∀ s ∈ above, Relation.TransGen (Site.Checks Δ) s u) ∧
      ∀ φ, e = .applyNonArrow φ →
        ∃ f ts, u.term = .app f ts ∧ parts = f.checked Δ u.context := by
  obtain ⟨u, hpu, hu⟩ := (Site.infer_eq_error_iff (p := ⟨Γ, t⟩)).mp h
  obtain ⟨earlier, above, ht, hearlier, habove⟩ := hu.checked_around hpu
  obtain ⟨parts, hparts, htyped⟩ := hu.checked_eq
  refine ⟨u, earlier, parts, above, hpu, hu, ?_, hparts, hearlier.append htyped, habove, ?_⟩
  · rw [hparts] at ht
    simpa using ht
  · rintro φ rfl
    cases hu with
    | operands _ _ hargs => exact absurd rfl (hargs.ne_applyNonArrow φ)
    | args _ _ hargs => exact absurd rfl (hargs.ne_applyNonArrow φ)
    | @func Γ f φ ts hf h =>
        refine ⟨f, ts, rfl, ?_⟩
        rw [Site.checked, Site.checked_app_of_not_arrow hf h] at hparts
        exact (List.append_cancel_right hparts).symm

/--
A number is applied below three binders, to a name that nothing stands for.  The argument and
the other branch, which is not right either, are not looked at.
-/
theorem infer_first_error_unchecked :
    let t := letIn "x" (int 1) (fn [("y", .bool), ("z", .int)]
      (fix "f" .int (ite (prim .lessThan [var "z", int 0]) (app (var "x") [var "w"]) (var "y"))))
    t.infer .standard .empty = .error (.error (.applyNonArrow .int)) ∧
      ∃ (u : Site) (earlier parts above : List Site),
        Site.Fails .standard u (.error (.applyNonArrow .int)) ∧
        t.checked .standard .empty = earlier ++ parts ++ u :: above ∧
        Site.AllTyped .standard (earlier ++ parts) ∧
        (∀ s ∈ above, Relation.TransGen (Site.Checks .standard) s u) ∧
        ∃ f ts, u.term = .app f ts ∧ parts = f.checked .standard u.context := by
  intro t
  have h : t.infer .standard .empty = .error (.error (.applyNonArrow .int)) := by rfl
  obtain ⟨u, earlier, parts, above, -, hu, ht, -, htyped, habove, happ⟩ := infer_first_error h
  exact ⟨h, u, earlier, parts, above, hu, ht, htyped, habove, happ .int rfl⟩

end Term

end TypedLambda
