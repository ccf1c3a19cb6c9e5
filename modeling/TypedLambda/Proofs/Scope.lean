/-
Terms over a set of names.

A term is within a set of names if it is well formed and no other name is free in it.  A binder
adds its own name for the body, and that is all there is to know about the parts of such a term.
-/
import TypedLambda.Proofs.WellFormed

namespace TypedLambda.Term

/-- Well formed, and only names of the set are free. -/
structure Within (S : String → Prop) (t : Term) : Prop where
  wellFormed : t.WellFormed
  free : ∀ z ∈ t.freeNames, S z

variable {S S' : String → Prop}

theorem Within.mono {t : Term} (h : Within S t) (hS : ∀ z, S z → S' z) : Within S' t :=
  ⟨h.wellFormed, fun z hz => hS z (h.free z hz)⟩

theorem Within.all {ts : List Term} (hwf : WellFormedAll ts)
    (hfree : ∀ z ∈ freeNamesAll ts, S z) {t : Term} (ht : t ∈ ts) : Within S t where
  wellFormed := wellFormedAll_iff.mp hwf t ht
  free z hz := hfree z (mem_freeNamesAll_iff.mpr ⟨t, ht, hz⟩)

theorem Within.ite {c a b : Term} (h : Within S (.ite c a b)) :
    Within S c ∧ Within S a ∧ Within S b := by
  obtain ⟨⟨hc, ha, hb⟩, hfree⟩ := h
  simp only [freeNames, List.mem_append] at hfree
  refine ⟨⟨hc, ?_⟩, ⟨ha, ?_⟩, ⟨hb, ?_⟩⟩
  · intro z hz
    exact hfree z (Or.inl (Or.inl hz))
  · intro z hz
    exact hfree z (Or.inl (Or.inr hz))
  · intro z hz
    exact hfree z (Or.inr hz)

theorem Within.app {f : Term} {ts : List Term} (h : Within S (.app f ts)) :
    Within S f ∧ ∀ t ∈ ts, Within S t := by
  obtain ⟨⟨hf, hts⟩, hfree⟩ := h
  simp only [freeNames, List.mem_append] at hfree
  refine ⟨⟨hf, ?_⟩, ?_⟩
  · intro z hz
    exact hfree z (Or.inl hz)
  · intro t ht
    exact Within.all hts (fun z hz => hfree z (Or.inr hz)) ht

theorem Within.fn {ps : List (String × Ty)} {b : Term} (h : Within S (.fn ps b)) :
    Within (fun z => z ∈ ps.map (·.1) ∨ S z) b := by
  obtain ⟨⟨-, hb⟩, hfree⟩ := h
  refine ⟨hb, ?_⟩
  intro z hz
  by_cases hzps : z ∈ ps.map (·.1)
  · exact Or.inl hzps
  · exact Or.inr (hfree z (List.mem_filter.mpr ⟨hz, decide_eq_true hzps⟩))

theorem Within.fix {f : String} {τ : Ty} {b : Term} (h : Within S (.fix f τ b)) :
    Within (fun z => z = f ∨ S z) b := by
  obtain ⟨hb, hfree⟩ := h
  refine ⟨hb, ?_⟩
  intro z hz
  by_cases hzf : z = f
  · exact Or.inl hzf
  · exact Or.inr (hfree z (List.mem_filter.mpr ⟨hz, decide_eq_true hzf⟩))

theorem Within.letIn {x : String} {v b : Term} (h : Within S (.letIn x v b)) :
    Within S v ∧ Within (fun z => z = x ∨ S z) b := by
  obtain ⟨⟨hv, hb⟩, hfree⟩ := h
  simp only [freeNames, List.mem_append, List.mem_filter, decide_eq_true_eq] at hfree
  refine ⟨⟨hv, ?_⟩, hb, ?_⟩
  · intro z hz
    exact hfree z (Or.inl hz)
  · intro z hz
    by_cases hzx : z = x
    · exact Or.inl hzx
    · exact Or.inr (hfree z (Or.inr ⟨hz, hzx⟩))

end TypedLambda.Term
