/-
Substitutions of closed terms for different names, in any order.

`applyAll` works from left to right, each substitution in the result of the one before.  With
closed replacements this is one `instantiate`, with the valuation in which the first
substitution for a name counts.  When no two are for the same name there is no first one to
tell from the others: the valuation is the list read as a set of pairs, and a set has no
order.
-/
import TypedLambda.Proofs.Instantiate

namespace TypedLambda

namespace Valuation

variable {ss ss' : List Substitution}

/-- The only substitution for a name is the first one for it. -/
theorem ofSubsts_of_mem (hss : (ss.map (·.target)).Nodup) {s : Substitution} (hs : s ∈ ss) :
    ofSubsts ss s.target = some s.replacement := by
  induction ss with
  | nil => cases hs
  | cons s₁ ss ih =>
      rw [List.map_cons, List.nodup_cons] at hss
      obtain ⟨hfirst, hrest⟩ := hss
      rcases List.mem_cons.mp hs with rfl | hs
      · simp [ofSubsts, Valuation.or, single]
      · have hne : s.target ≠ s₁.target := fun e => hfirst (e ▸ List.mem_map_of_mem hs)
        simpa [ofSubsts, Valuation.or, single, hne] using ih hrest hs

/-- With different targets a list of substitutions is the graph of its valuation. -/
theorem ofSubsts_eq_some_iff (hss : (ss.map (·.target)).Nodup) {x : String} {r : Term} :
    ofSubsts ss x = some r ↔ ⟨r, x⟩ ∈ ss :=
  ⟨mem_of_ofSubsts_eq_some, fun h => ofSubsts_of_mem hss h⟩

theorem ofSubsts_eq_of_perm (hss : (ss.map (·.target)).Nodup) (hperm : ss.Perm ss') :
    ofSubsts ss' = ofSubsts ss := by
  have hss' : (ss'.map (·.target)).Nodup := (hperm.map _).nodup_iff.mp hss
  funext x
  refine Option.ext fun r => ?_
  calc ofSubsts ss' x = some r
      ↔ ⟨r, x⟩ ∈ ss' := ofSubsts_eq_some_iff hss'
    _ ↔ ⟨r, x⟩ ∈ ss := hperm.mem_iff.symm
    _ ↔ ofSubsts ss x = some r := (ofSubsts_eq_some_iff hss).symm

end Valuation

namespace Substitution

/--
**Closed terms are put in for different names simultaneously.**  The substitutions may be made
in any order, and give the term in which each free occurrence of a target has become the
replacement for it and all else, the names of binders included, is as it was.  No name is
drawn.
-/
theorem applyAll_simultaneous {ss ss' : List Substitution} {t : Term}
    (hclosed : ∀ s ∈ ss, s.replacement.Closed) (hwf : ∀ s ∈ ss, s.replacement.WellFormed)
    (htargets : (ss.map (·.target)).Nodup) (hperm : ss.Perm ss') (ht : t.WellFormed)
    (names : Naming) :
    (∀ x r, Valuation.ofSubsts ss x = some r ↔ ⟨r, x⟩ ∈ ss) ∧
      names.run (applyAll ss t) = (.ok (t.instantiate (.ofSubsts ss)), names) ∧
      names.run (applyAll ss' t) = (.ok (t.instantiate (.ofSubsts ss)), names) := by
  refine ⟨fun x r => Valuation.ofSubsts_eq_some_iff htargets, ?_, ?_⟩
  · rw [applyAll_eq_instantiate hclosed hwf ht, Naming.run_pure]
  · rw [applyAll_eq_instantiate (fun s hs => hclosed s (hperm.mem_iff.mpr hs))
      (fun s hs => hwf s (hperm.mem_iff.mpr hs)) ht, Naming.run_pure,
      Valuation.ofSubsts_eq_of_perm htargets hperm]

/--
The binders reuse all the targets, and the replacement for `f` has a parameter that is
called like another target.
-/
theorem applyAll_simultaneous_shadowed :
    let inc : Term := .fn [("x", .int)] (.prim .plus [.var "x", .int 1])
    let body : Term := .letIn "x" (.app (.var "f") [.var "x"])
      (.fn [("f", .int), ("y", .int)]
        (.ite (.var "b") (.prim .plus [.var "f", .var "x"]) (.fix "b" .int (.var "b"))))
    let body' : Term := .letIn "x" (.app inc [.int 2])
      (.fn [("f", .int), ("y", .int)]
        (.ite (.bool true) (.prim .plus [.var "f", .var "x"]) (.fix "b" .int (.var "b"))))
    let ss : List Substitution := [⟨inc, "f"⟩, ⟨.int 2, "x"⟩, ⟨.bool true, "b"⟩]
    let ss' : List Substitution := [⟨.bool true, "b"⟩, ⟨inc, "f"⟩, ⟨.int 2, "x"⟩]
    let names : Naming := { supply := ⟨3⟩ }
    names.run (applyAll ss body) = (.ok body', names) ∧
      names.run (applyAll ss' body) = (.ok body', names) := by
  intro inc body body' ss ss' names
  have hperm : ss.Perm ss' := by decide
  have hbody : body.WellFormed := by decide
  obtain ⟨-, hrun, hrun'⟩ :=
    applyAll_simultaneous (by decide) (by decide) (by decide) hperm hbody names
  exact ⟨hrun, hrun'⟩

end Substitution

end TypedLambda
