/-
Terms that differ in nothing but the names of their binders.

Two terms are compared side by side.  What is known on the way down is a pairing: for the
binders passed so far, the name in the one term and the name in the other, the innermost
first.  Two names refer to the same thing if the innermost binder for the one is the innermost
binder for the other, or if neither has a binder and they are the same name.

The parameters of a function are paired from left to right.  Of parameters with the same
name the last one counts, as it does in a typing context; well formed terms have none.

`AlphaUnder` is the relation, one rule a form, and `alphaUnder` decides it.  What the pairing
says about names that are not free has no influence (`AlphaUnder.mono`), so closed terms that
are related are related below any binders.
-/
import TypedLambda.Proofs.WellFormed

namespace TypedLambda

/-- The names of the binders passed so far in two terms, the innermost first. -/
abbrev Pairing := List (String × String)

namespace Pairing

/-- The names refer to the same binder, or to none and are the same. -/
def Relates : Pairing → String → String → Prop
  | [], x, y => x = y
  | (a, b) :: s, x, y => x = a ∧ y = b ∨ x ≠ a ∧ y ≠ b ∧ Relates s x y

def decideRelates : (s : Pairing) → (x y : String) → Decidable (s.Relates x y)
  | [], x, y => inferInstanceAs (Decidable (x = y))
  | (a, b) :: s, x, y =>
    have := decideRelates s x y
    inferInstanceAs (Decidable (x = a ∧ y = b ∨ x ≠ a ∧ y ≠ b ∧ Relates s x y))

instance (s : Pairing) (x y : String) : Decidable (s.Relates x y) := decideRelates s x y

/-- The parameters of two functions, paired from left to right. -/
def extendMany : Pairing → List (String × Ty) → List (String × Ty) → Pairing
  | s, p :: ps, q :: qs => extendMany ((p.1, q.1) :: s) ps qs
  | s, _, _ => s

variable {s s' : Pairing} {x y a b : String}

theorem relates_self (s : Pairing) (a b : String) : Relates ((a, b) :: s) a b :=
  Or.inl ⟨rfl, rfl⟩

/-- Below one more binder names are related as before, if they were related as before above it. -/
theorem Relates.extend (h : Relates ((a, b) :: s) x y)
    (hs : x ≠ a → s.Relates x y → s'.Relates x y) : Relates ((a, b) :: s') x y := by
  rcases h with h | ⟨hx, hy, hxy⟩
  · exact Or.inl h
  · exact Or.inr ⟨hx, hy, hs hx hxy⟩

theorem Relates.extendMany {ps qs : List (String × Ty)} (hlen : ps.length = qs.length)
    (h : (s.extendMany ps qs).Relates x y)
    (hs : x ∉ ps.map (·.1) → s.Relates x y → s'.Relates x y) :
    (s'.extendMany ps qs).Relates x y := by
  induction ps generalizing qs s s' with
  | nil => exact hs (by simp) h
  | cons p ps ih =>
      obtain ⟨q, qs, rfl⟩ := List.exists_cons_of_length_eq_add_one hlen.symm
      refine ih (by simpa using hlen) h fun hps hxy => hxy.extend fun hp => hs ?_
      simp [hp, hps]

/-- A pairing of binders that have the same names relates every name to itself. -/
theorem relates_refl_extend (h : ∀ x, s.Relates x x) (a x : String) :
    Relates ((a, a) :: s) x x := by
  by_cases hx : x = a
  · exact Or.inl ⟨hx, hx⟩
  · exact Or.inr ⟨hx, hx, h x⟩

theorem relates_refl_extendMany (h : ∀ x, s.Relates x x) (ps : List (String × Ty)) (x : String) :
    (s.extendMany ps ps).Relates x x := by
  induction ps generalizing s with
  | nil => exact h x
  | cons p ps ih => exact ih (relates_refl_extend h p.1)

end Pairing

namespace Term

mutual

/-- The terms are the same but for the names of binders, below binders that are paired. -/
inductive AlphaUnder : Pairing → Term → Term → Prop where
  | int (s : Pairing) (n : Int) : AlphaUnder s (.int n) (.int n)
  | bool (s : Pairing) (b : Bool) : AlphaUnder s (.bool b) (.bool b)
  | var {s : Pairing} {x y : String} (h : s.Relates x y) : AlphaUnder s (.var x) (.var y)
  | ite {s : Pairing} {c a b c' a' b' : Term} (hc : AlphaUnder s c c') (ha : AlphaUnder s a a')
      (hb : AlphaUnder s b b') : AlphaUnder s (.ite c a b) (.ite c' a' b')
  | prim {s : Pairing} (op : Prim) {ts us : List Term} (h : AlphaAll s ts us) :
      AlphaUnder s (.prim op ts) (.prim op us)
  | fn {s : Pairing} {ps qs : List (String × Ty)} {b c : Term}
      (htypes : ps.map (·.2) = qs.map (·.2)) (h : AlphaUnder (s.extendMany ps qs) b c) :
      AlphaUnder s (.fn ps b) (.fn qs c)
  | fix {s : Pairing} {f g : String} (τ : Ty) {b c : Term} (h : AlphaUnder ((f, g) :: s) b c) :
      AlphaUnder s (.fix f τ b) (.fix g τ c)
  | letIn {s : Pairing} {x y : String} {v w b c : Term} (hv : AlphaUnder s v w)
      (hb : AlphaUnder ((x, y) :: s) b c) : AlphaUnder s (.letIn x v b) (.letIn y w c)
  | app {s : Pairing} {f g : Term} {ts us : List Term} (hf : AlphaUnder s f g)
      (h : AlphaAll s ts us) : AlphaUnder s (.app f ts) (.app g us)
  | stray (s : Pairing) (text : String) : AlphaUnder s (.stray text) (.stray text)

/-- The same at every place of two lists of one length. -/
inductive AlphaAll : Pairing → List Term → List Term → Prop where
  | nil (s : Pairing) : AlphaAll s [] []
  | cons {s : Pairing} {t u : Term} {ts us : List Term} (h : AlphaUnder s t u)
      (hs : AlphaAll s ts us) : AlphaAll s (t :: ts) (u :: us)

end

/-- The terms are the same but for the names of binders. -/
def AlphaEq (t u : Term) : Prop := AlphaUnder [] t u

theorem length_eq_of_types {ps qs : List (String × Ty)} (h : ps.map (·.2) = qs.map (·.2)) :
    ps.length = qs.length := by
  simpa using congrArg List.length h

/-! ### Deciding it -/

mutual

/-- Whether two terms are the same but for the names of binders. -/
def alphaUnder : Pairing → Term → Term → Bool
  | _, int m, int n => m == n
  | _, bool a, bool b => a == b
  | s, var x, var y => decide (s.Relates x y)
  | s, ite c a b, ite c' a' b' => alphaUnder s c c' && alphaUnder s a a' && alphaUnder s b b'
  | s, prim op ts, prim op' us => op == op' && alphaAll s ts us
  | s, fn ps b, fn qs c => ps.map (·.2) == qs.map (·.2) && alphaUnder (s.extendMany ps qs) b c
  | s, fix f τ b, fix g σ c => τ == σ && alphaUnder ((f, g) :: s) b c
  | s, letIn x v b, letIn y w c => alphaUnder s v w && alphaUnder ((x, y) :: s) b c
  | s, app f ts, app g us => alphaUnder s f g && alphaAll s ts us
  | _, stray a, stray b => a == b
  | _, _, _ => false

def alphaAll : Pairing → List Term → List Term → Bool
  | _, [], [] => true
  | s, t :: ts, u :: us => alphaUnder s t u && alphaAll s ts us
  | _, _, _ => false

end

mutual

theorem AlphaUnder.check {s : Pairing} {t u : Term} (h : AlphaUnder s t u) :
    alphaUnder s t u = true := by
  cases h with
  | int | bool | stray => simp [alphaUnder]
  | var h => simpa [alphaUnder] using h
  | ite hc ha hb => simp [alphaUnder, hc.check, ha.check, hb.check]
  | prim op h => simp [alphaUnder, h.check]
  | fn htypes h => simp [alphaUnder, htypes, h.check]
  | fix τ h => simp [alphaUnder, h.check]
  | letIn hv hb => simp [alphaUnder, hv.check, hb.check]
  | app hf h => simp [alphaUnder, hf.check, h.check]

theorem AlphaAll.check {s : Pairing} {ts us : List Term} (h : AlphaAll s ts us) :
    alphaAll s ts us = true := by
  cases h with
  | nil => rfl
  | cons h hs => simp [alphaAll, h.check, hs.check]

end

mutual

theorem alphaUnder_of_check (s : Pairing) (t u : Term) (h : alphaUnder s t u = true) :
    AlphaUnder s t u := by
  cases t <;> cases u <;>
    simp only [alphaUnder, Bool.and_eq_true, beq_iff_eq, decide_eq_true_eq, Bool.false_eq_true] at h
  case int.int => exact h ▸ .int s _
  case bool.bool => exact h ▸ .bool s _
  case var.var => exact .var h
  case ite.ite =>
    obtain ⟨⟨hc, ha⟩, hb⟩ := h
    exact .ite (alphaUnder_of_check s _ _ hc) (alphaUnder_of_check s _ _ ha)
      (alphaUnder_of_check s _ _ hb)
  case prim.prim =>
    obtain ⟨rfl, hts⟩ := h
    exact .prim _ (alphaAll_of_check s _ _ hts)
  case fn.fn =>
    obtain ⟨htypes, hb⟩ := h
    exact .fn htypes (alphaUnder_of_check _ _ _ hb)
  case fix.fix =>
    obtain ⟨rfl, hb⟩ := h
    exact .fix _ (alphaUnder_of_check _ _ _ hb)
  case letIn.letIn =>
    obtain ⟨hv, hb⟩ := h
    exact .letIn (alphaUnder_of_check s _ _ hv) (alphaUnder_of_check _ _ _ hb)
  case app.app =>
    obtain ⟨hf, hts⟩ := h
    exact .app (alphaUnder_of_check s _ _ hf) (alphaAll_of_check s _ _ hts)
  case stray.stray => exact h ▸ .stray s _

theorem alphaAll_of_check (s : Pairing) (ts us : List Term) (h : alphaAll s ts us = true) :
    AlphaAll s ts us := by
  cases ts <;> cases us <;> simp only [alphaAll, Bool.and_eq_true, Bool.false_eq_true] at h
  case nil.nil => exact .nil s
  case cons.cons =>
    obtain ⟨ht, hts⟩ := h
    exact .cons (alphaUnder_of_check s _ _ ht) (alphaAll_of_check s _ _ hts)

end

instance (s : Pairing) (t u : Term) : Decidable (AlphaUnder s t u) :=
  decidable_of_iff (alphaUnder s t u = true) ⟨alphaUnder_of_check s t u, AlphaUnder.check⟩

instance (t u : Term) : Decidable (AlphaEq t u) := inferInstanceAs (Decidable (AlphaUnder [] t u))

/-! ### Names that are free -/

mutual

/-- What is said about names that are not free does not count. -/
theorem AlphaUnder.mono {s s' : Pairing} {t u : Term} (h : AlphaUnder s t u)
    (hs : ∀ x ∈ t.freeNames, ∀ y, s.Relates x y → s'.Relates x y) : AlphaUnder s' t u := by
  cases h with
  | int _ n => exact .int s' n
  | bool _ b => exact .bool s' b
  | stray _ text => exact .stray s' text
  | @var _ x y h => exact .var (hs x (by simp) y h)
  | ite hc ha hb =>
      simp only [freeNames, List.mem_append] at hs
      exact .ite (hc.mono fun x hx => hs x (.inl (.inl hx)))
        (ha.mono fun x hx => hs x (.inl (.inr hx))) (hb.mono fun x hx => hs x (.inr hx))
  | prim op h => exact .prim op (h.mono hs)
  | @fn _ ps qs b c htypes h =>
      simp only [freeNames, List.mem_filter] at hs
      have hlen := length_eq_of_types htypes
      refine .fn htypes (h.mono fun x hx y hxy => hxy.extendMany hlen fun hps => hs x ⟨hx, ?_⟩ y)
      simpa using hps
  | fix τ h =>
      simp only [freeNames, List.mem_filter] at hs
      refine .fix τ (h.mono fun x hx y hxy => hxy.extend fun hf => hs x ⟨hx, ?_⟩ y)
      simpa using hf
  | letIn hv hb =>
      simp only [freeNames, List.mem_append, List.mem_filter] at hs
      refine .letIn (hv.mono fun z hz => hs z (.inl hz))
        (hb.mono fun z hz z' hzz' => hzz'.extend fun hx => hs z (.inr ⟨hz, ?_⟩) z')
      simpa using hx
  | app hf h =>
      simp only [freeNames, List.mem_append] at hs
      exact .app (hf.mono fun x hx => hs x (.inl hx)) (h.mono fun x hx => hs x (.inr hx))

theorem AlphaAll.mono {s s' : Pairing} {ts us : List Term} (h : AlphaAll s ts us)
    (hs : ∀ x ∈ freeNamesAll ts, ∀ y, s.Relates x y → s'.Relates x y) : AlphaAll s' ts us := by
  cases h with
  | nil => exact .nil s'
  | cons h hts =>
      simp only [freeNamesAll, List.mem_append] at hs
      exact .cons (h.mono fun x hx => hs x (.inl hx)) (hts.mono fun x hx => hs x (.inr hx))

end

/-- Closed terms that are related are related below any binders. -/
theorem AlphaEq.under {t u : Term} (h : AlphaEq t u) (ht : t.Closed) (s : Pairing) :
    AlphaUnder s t u :=
  AlphaUnder.mono h fun x hx => absurd hx (ht x)

theorem AlphaUnder.refl {s : Pairing} (hs : ∀ x, s.Relates x x) (t : Term) : AlphaUnder s t t := by
  have hall : ∀ {s : Pairing} {ts : List Term}, (∀ t ∈ ts, AlphaUnder s t t) →
      AlphaAll s ts ts := by
    intro s ts h
    induction ts with
    | nil => exact .nil s
    | cons t ts ih =>
        rw [List.forall_mem_cons] at h
        exact .cons h.1 (ih h.2)
  induction t using Term.induction generalizing s with
  | int n => exact .int s n
  | bool b => exact .bool s b
  | var x => exact .var (hs x)
  | ite c a b hc ha hb => exact .ite (hc hs) (ha hs) (hb hs)
  | prim op ts ih => exact .prim op (hall fun t ht => ih t ht hs)
  | fn ps b ih => exact .fn rfl (ih (Pairing.relates_refl_extendMany hs ps))
  | fix f τ b ih => exact .fix τ (ih (Pairing.relates_refl_extend hs f))
  | letIn x v b ihv ihb => exact .letIn (ihv hs) (ihb (Pairing.relates_refl_extend hs x))
  | app f ts ihf ih => exact .app (ihf hs) (hall fun t ht => ih t ht hs)
  | stray text => exact .stray s text

theorem AlphaEq.refl (t : Term) : AlphaEq t t := AlphaUnder.refl (s := []) (fun _ => rfl) t

end Term

end TypedLambda
