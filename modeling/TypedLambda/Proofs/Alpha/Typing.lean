/-
The names of binders make no difference to the type of a term.

Two contexts agree under a pairing if names that refer to the same thing have the same type in
them, or none in either; and a name without a type has to be the same name in both terms,
because the error says it.  Binders that are paired extend both contexts with the same type,
so agreement goes down through every form, and inference has nothing else to read from a
context.  Equality is that of the whole outcome, every error with what it says included.
-/
import TypedLambda.Proofs.Alpha
import TypedLambda.Proofs.Typing

namespace TypedLambda

/-- Names that refer to the same thing have the same type, or are the same and have none. -/
def Context.Agree (s : Pairing) (Γ Γ' : Context) : Prop :=
  ∀ x y, s.Relates x y → Γ.lookup? x = Γ'.lookup? y ∧ (Γ.lookup? x = none → x = y)

namespace Context.Agree

variable {s : Pairing} {Γ Γ' : Context}

theorem refl (Γ : Context) : Agree [] Γ Γ := by
  intro x y hxy
  obtain rfl : x = y := hxy
  exact ⟨rfl, fun _ => rfl⟩

theorem extend (h : Agree s Γ Γ') (a b : String) (τ : Ty) :
    Agree ((a, b) :: s) (Γ.extend a τ) (Γ'.extend b τ) := by
  rintro x y (⟨rfl, rfl⟩ | ⟨hx, hy, hxy⟩)
  · simp
  · rw [lookup?_extend_of_ne _ _ hx, lookup?_extend_of_ne _ _ hy]
    exact h x y hxy

theorem extendMany (h : Agree s Γ Γ') {ps qs : List (String × Ty)}
    (htypes : ps.map (·.2) = qs.map (·.2)) :
    Agree (s.extendMany ps qs) (Γ.extendMany ps) (Γ'.extendMany qs) := by
  induction ps generalizing s Γ Γ' qs with
  | nil =>
      obtain rfl : qs = [] := by simpa using htypes.symm
      exact h
  | cons p ps ih =>
      cases qs with
      | nil => cases htypes
      | cons q qs =>
          obtain ⟨hpq, hrest⟩ : p.2 = q.2 ∧ ps.map (·.2) = qs.map (·.2) := List.cons.inj htypes
          rw [extendMany_cons, extendMany_cons, ← hpq]
          exact ih (h.extend p.1 q.1 p.2) hrest

end Context.Agree

namespace Term

variable {Δ : Signatures}

mutual

theorem AlphaUnder.infer_eq {s : Pairing} {Γ Γ' : Context} {t u : Term} (h : AlphaUnder s t u)
    (hΓ : Context.Agree s Γ Γ') : t.infer Δ Γ = u.infer Δ Γ' := by
  cases h with
  | int | bool | stray => rfl
  | @var _ x y h =>
      obtain ⟨hlookup, hnone⟩ := hΓ x y h
      rw [infer, infer, ← hlookup]
      cases hx : Γ.lookup? x with
      | some τ => rfl
      | none => rw [hnone hx]
  | ite hc ha hb => rw [infer, infer, hc.infer_eq hΓ, ha.infer_eq hΓ, hb.infer_eq hΓ]
  | prim op h => rw [infer, infer, h.inferAll_eq hΓ]
  | fn htypes h => rw [infer, infer, h.infer_eq (hΓ.extendMany htypes), htypes]
  | fix τ h => rw [infer, infer, h.infer_eq (hΓ.extend _ _ τ)]
  | letIn hv hb =>
      rw [infer, infer, hv.infer_eq hΓ]
      simp only [fun τ => hb.infer_eq (hΓ.extend _ _ τ)]
  | app hf h => rw [infer, infer, hf.infer_eq hΓ, h.inferAll_eq hΓ]

theorem AlphaAll.inferAll_eq {s : Pairing} {Γ Γ' : Context} {ts us : List Term}
    (h : AlphaAll s ts us) (hΓ : Context.Agree s Γ Γ') :
    inferAll Δ Γ ts = inferAll Δ Γ' us := by
  cases h with
  | nil => rfl
  | cons h hs => rw [inferAll, inferAll, h.infer_eq hΓ, hs.inferAll_eq hΓ]

end

/--
**Terms that differ in the names of binders alone have the same type, or the same error.**  The
context and the table of signatures may be any.
-/
theorem infer_alphaEq {t u : Term} (h : AlphaEq t u) (Δ : Signatures) (Γ : Context) :
    t.infer Δ Γ = u.infer Δ Γ :=
  h.infer_eq (.refl Γ)

/-- A parameter that is named like a name of the context, in one of the two. -/
theorem infer_alphaEq_clash :
    let t := letIn "x" (fn [("x", .int), ("z", .bool)] (ite (var "z") (var "x") (var "w")))
      (app (var "x") [int 1, var "y"])
    let u := letIn "f" (fn [("y", .int), ("x", .bool)] (ite (var "x") (var "y") (var "w")))
      (app (var "f") [int 1, var "y"])
    let Γ : Context := ⟨[("w", .int), ("y", .bool)]⟩
    (t.AlphaEq u ∧ t ≠ u) ∧ t.infer .standard Γ = .ok .int ∧
      t.infer .standard Γ = u.infer .standard Γ := by
  intro t u Γ
  have h : t.AlphaEq u := by decide
  have hne : t ≠ u := by decide
  exact ⟨⟨h, hne⟩, rfl, infer_alphaEq h .standard Γ⟩

end Term

end TypedLambda
