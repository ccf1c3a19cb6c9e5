/-
Which names are free after a substitution.

One would like every free occurrence of the target to be replaced and nothing else to
change.  That is what happens, with one exception.  A binder that is renamed may be given
the name of the target: the draw avoids what is free in the replacement and in the body,
and the target need be neither.  The replacement then goes on into the body, takes the
renamed binder's occurrences for its own, and puts the names of the replacement where
there was a bound name.

`substitution_tfae` says that this is the only exception, and that it really occurs
whenever it can: unless the target is free in the replacement, every target that may still
be drawn is drawn for some term.
-/
import TypedLambda.Proofs.Subst
import Mathlib.Tactic.TFAE

namespace TypedLambda.Term

/-! ### A target that is drawn

The term is a binder that has to be renamed, around a use of it.  Other uses put the names
that would be drawn first out of the question.
-/

/-- A recursive binding for `y` that uses `y` and the given names. -/
def usesBelow (y : String) (ws : List String) : Term :=
  .fix y .int (.app (.var y) (ws.map .var))

theorem substWithin_var (n : Nat) (r : Term) (x y : String) :
    substWithin (n + 1) r x (.var y) = pure (if y = x then r else .var y) := by
  rw [substWithin]

theorem substWithin_app_vars (n : Nat) (r : Term) {x : String} (y : String) {ws : List String}
    (hws : x ∉ ws) :
    substWithin (n + 2) r x (.app (.var y) (ws.map .var))
      = pure (.app (if y = x then r else .var y) (ws.map .var)) := by
  have hvars : ∀ t ∈ ws.map Term.var, substWithin (n + 1) r x t = pure (id t) := by
    intro t ht
    obtain ⟨w, hw, rfl⟩ := List.mem_map.mp ht
    have hwx : w ≠ x := fun e => hws (e ▸ hw)
    rw [substWithin_var, if_neg hwx]
    rfl
  rw [substWithin, substWithin_var, mapM_eq_pure hvars]
  simp

theorem freeNames_vars (ws : List String) : freeNamesAll (ws.map .var) = ws := by
  induction ws with
  | nil => rfl
  | cons w ws ih => simp only [List.map_cons, freeNamesAll, freeNames, ih, List.singleton_append]

theorem wellFormed_usesBelow (y : String) (ws : List String) : (usesBelow y ws).WellFormed := by
  refine ⟨trivial, wellFormedAll_iff.mpr fun t ht => ?_⟩
  obtain ⟨w, -, rfl⟩ := List.mem_map.mp ht
  trivial

section

variable {names : Naming} {r : Term} {y : String} {n : Nat} {ws : List String}
  (hws : ∀ w, w ∈ ws ↔ ∃ m, names.next ≤ m ∧ m < n ∧ w = Supply.nameAt y m)

include hws

theorem base_not_mem : y ∉ ws := by
  intro hmem
  obtain ⟨m, -, -, hm⟩ := (hws y).mp hmem
  exact Supply.nameAt_ne_base y m hm.symm

theorem nameAt_not_mem : Supply.nameAt y n ∉ ws := by
  intro hmem
  obtain ⟨m, -, hlt, hm⟩ := (hws _).mp hmem
  exact absurd (Supply.nameAt_injective y hm) (Nat.ne_of_gt hlt)

/-- The names to be avoided are all before the target, and the target is not among them. -/
theorem freshOutside_usesBelow (hn : names.next ≤ n) (hout : Supply.nameAt y n ∉ r.freeNames) :
    names.supply.freshOutside y
      (r.freeNames ++ (Term.app (.var y) (ws.map .var)).freeNames ++ [])
        = (Supply.nameAt y n, ⟨n + 1⟩) := by
  refine Supply.freshOutside_eq hn (fun m hm hlt => ?_) ?_
  · have hmem := (hws _).mpr ⟨m, hm, hlt, rfl⟩
    simp [freeNames, freeNames_vars, hmem]
  · simp [freeNames, freeNames_vars, hout, nameAt_not_mem hws, Supply.nameAt_ne_base]

theorem run_avoidCapture_usesBelow (k : Nat) (hy : y ∈ r.freeNames) (hn : names.next ≤ n)
    (hout : Supply.nameAt y n ∉ r.freeNames) :
    names.run (avoidCapture (fun new old body => substWithin (k + 2) (.var new) old body)
      r.freeNames [] y (.app (.var y) (ws.map .var))) =
        (.ok (Supply.nameAt y n, .app (.var (Supply.nameAt y n)) (ws.map .var)),
          ⟨⟨n + 1⟩, ⟨y, Supply.nameAt y n⟩ :: names.renamed⟩) := by
  have hwf : (Term.app (.var y) (ws.map .var)).WellFormed := wellFormed_usesBelow y ws
  have hfresh := names.run_freshBinder y
    (r.freeNames ++ (Term.app (.var y) (ws.map .var)).freeNames ++ [])
  rw [freshOutside_usesBelow hws hn hout] at hfresh
  rw [avoidCapture, if_pos hy, freeNames?_eq_ok hwf,
    Naming.run_bind_ok (names.run_liftExcept_ok _), Naming.run_bind_ok hfresh,
    substWithin_app_vars k _ y (base_not_mem hws), if_pos rfl, pure_bind, Naming.run_pure]

/-- The binder is given the name of the target, and its use is replaced. -/
theorem run_subst_usesBelow (hr : r.WellFormed) (hy : y ∈ r.freeNames) (hn : names.next ≤ n)
    (hout : Supply.nameAt y n ∉ r.freeNames) :
    names.run (r.subst (Supply.nameAt y n) (usesBelow y ws)) =
      (.ok (.fix (Supply.nameAt y n) .int (.app r (ws.map .var))),
        ⟨⟨n + 1⟩, ⟨y, Supply.nameAt y n⟩ :: names.renamed⟩) := by
  have hyx : y ≠ Supply.nameAt y n := (Supply.nameAt_ne_base y n).symm
  obtain ⟨k, hk⟩ : ∃ k, (usesBelow y ws).height = k + 3 :=
    ⟨max 1 (heightAll (ws.map .var)) - 1, by simp only [usesBelow, height]; omega⟩
  have hbody := substWithin_app_vars k r (Supply.nameAt y n) (nameAt_not_mem hws)
  rw [if_pos rfl] at hbody
  rw [subst, hk, usesBelow, substWithin, if_neg hyx, freeNames?_eq_ok hr,
    Naming.run_bind_ok (names.run_liftExcept_ok _),
    Naming.run_bind_ok (run_avoidCapture_usesBelow hws k hy hn hout)]
  show Naming.run _ (substWithin (k + 2) r _ (.app (.var _) (ws.map .var)) >>= _) = _
  rw [hbody, pure_bind, Naming.run_pure]

end

/-- A target that may be drawn and is not free in the replacement lets a name escape. -/
theorem exists_escape {names : Naming} {r : Term} (hr : r.WellFormed) {x : String}
    (hdraw : names.MayDraw r x) (hx : x ∉ r.freeNames) :
    ∃ t t' names' y, t.WellFormed ∧ names.run (r.subst x t) = (.ok t', names') ∧
      x ∉ t.freeNames ∧ y ∉ t.freeNames ∧ y ∈ t'.freeNames := by
  obtain ⟨y, hy, n, hn, rfl⟩ := hdraw
  let ws := (List.range' names.next (n - names.next)).map (Supply.nameAt y)
  have hws : ∀ w, w ∈ ws ↔ ∃ m, names.next ≤ m ∧ m < n ∧ w = Supply.nameAt y m := by
    intro w
    simp only [ws, List.mem_map, List.mem_range'_1]
    constructor
    · rintro ⟨m, ⟨hm, hlt⟩, rfl⟩
      exact ⟨m, hm, by omega, rfl⟩
    · rintro ⟨m, hm, hlt, rfl⟩
      exact ⟨m, ⟨hm, by omega⟩, rfl⟩
  refine ⟨usesBelow y ws, _, _, y, wellFormed_usesBelow y ws,
    run_subst_usesBelow hws hr hy hn hx, ?_, ?_, ?_⟩
  · simp [usesBelow, freeNames, freeNames_vars, nameAt_not_mem hws]
  · simp [usesBelow, freeNames]
  · simp [freeNames, hy, (Supply.nameAt_ne_base y n).symm]

/-! ### The free names -/

theorem mem_freeNames_of_toNameless {r t t' : Term} {x : String}
    (h : t'.toNameless = r.toNameless.subst x t.toNameless) (z : String) :
    z ∈ t'.freeNames ↔
      if x ∈ t.freeNames then z ∈ t.freeNames ∧ z ≠ x ∨ z ∈ r.freeNames else z ∈ t.freeNames := by
  rw [← mem_freeNames_toNameless, h, Nameless.mem_freeNames_subst]
  simp only [mem_freeNames_toNameless]
  by_cases hx : x ∈ t.freeNames
  · simp [hx]
  · have hne : z ∈ t.freeNames → z ≠ x := fun hz e => hx (e ▸ hz)
    simpa [hx] using hne

/--
**When every free occurrence is replaced and nothing else is.**  For a replacement, a target
and the names used so far, these are the same: a target that may still be drawn is free in the
replacement; in every term exactly the free occurrences are replaced; and the free names of the
result are always those of the term without the target, and those of the replacement if the
target was free.
-/
theorem substitution_tfae {r : Term} (hr : r.WellFormed) (x : String) (names : Naming) :
    List.TFAE [
      names.MayDraw r x → x ∈ r.freeNames,
      ∀ t : Term, t.WellFormed → ∃ t' names', names.run (r.subst x t) = (.ok t', names') ∧
        t'.toNameless = r.toNameless.subst x t.toNameless,
      ∀ t : Term, t.WellFormed → ∃ t' names', names.run (r.subst x t) = (.ok t', names') ∧
        ∀ z, z ∈ t'.freeNames ↔ if x ∈ t.freeNames
          then z ∈ t.freeNames ∧ z ≠ x ∨ z ∈ r.freeNames else z ∈ t.freeNames] := by
  tfae_have 1 → 2 := by
    intro hx t ht
    obtain ⟨t', names', hrun, -, hsub⟩ := run_subst x hr ht names
    exact ⟨t', names', hrun, hsub.nameless hx⟩
  tfae_have 2 → 3 := by
    intro h t ht
    obtain ⟨t', names', hrun, ht'⟩ := h t ht
    exact ⟨t', names', hrun, mem_freeNames_of_toNameless ht'⟩
  tfae_have 3 → 1 := by
    intro h hdraw
    by_contra hx
    obtain ⟨t, t', names', y, ht, hrun, hxt, hyt, hyt'⟩ := exists_escape hr hdraw hx
    obtain ⟨t'', names'', hrun', hfree⟩ := h t ht
    rw [hrun] at hrun'
    obtain ⟨rfl, -⟩ := hrun'
    have hy := (hfree y).mp hyt'
    rw [if_neg hxt] at hy
    exact hyt hy
  tfae_finish

/-- No draw for `y` can give `x`, so putting `y` in the place of `x` is always right. -/
theorem substitution_tfae_undrawn :
    (Term.var "y").WellFormed ∧ ∀ t : Term, t.WellFormed → ∃ t' names',
      ({} : Naming).run ((Term.var "y").subst "x" t) = (.ok t', names') ∧
        ∀ z, z ∈ t'.freeNames ↔ if "x" ∈ t.freeNames
          then z ∈ t.freeNames ∧ z ≠ "x" ∨ z ∈ (Term.var "y").freeNames
          else z ∈ t.freeNames := by
  have hdraw : ({} : Naming).MayDraw (.var "y") "x" → "x" ∈ (Term.var "y").freeNames := by
    rintro ⟨b, hb, n, -, hx⟩
    have hlen := Supply.length_lt_length_nameAt b n
    rw [← hx, List.mem_singleton.mp hb] at hlen
    exact absurd hlen (by decide)
  have hy : (Term.var "y").WellFormed := trivial
  exact ⟨hy, ((substitution_tfae hy "x" {}).out 0 2).mp hdraw⟩

/--
A bound name is taken for the target: `fn (y) => y` with `y` in the place of `y_0` becomes
`fn (y_0) => y`, in which `y` is free.
-/
theorem freeNames_subst_fails :
    ¬ ∀ (r t : Term) (x : String) (names : Naming), r.WellFormed → t.WellFormed →
      ∃ t' names', names.run (r.subst x t) = (.ok t', names') ∧
        ∀ z, z ∈ t'.freeNames ↔ if x ∈ t.freeNames
          then z ∈ t.freeNames ∧ z ≠ x ∨ z ∈ r.freeNames else z ∈ t.freeNames := by
  intro h
  obtain ⟨t', names', hrun, hfree⟩ :=
    h (.var "y") (.fn [("y", .int)] (.var "y")) "y_0" {} (by decide) (by decide)
  have hcapture : ({} : Naming).run ((Term.var "y").subst "y_0" (.fn [("y", .int)] (.var "y")))
      = (.ok (.fn [("y_0", .int)] (.var "y")), ⟨⟨1⟩, [⟨"y", "y_0"⟩]⟩) := rfl
  rw [hcapture] at hrun
  obtain ⟨rfl, -⟩ := hrun
  exact absurd ((hfree "y").mp (by decide)) (by decide)

end TypedLambda.Term
