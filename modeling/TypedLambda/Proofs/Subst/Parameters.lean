/-
Renaming the parameters of a literal one after another is renaming them at once.

A parameter is renamed by a substitution of its own, in a body that the ones before have changed.
Inner binders may be in its way and are then renamed in their turn, but up to the names of binders
such a substitution puts one free name in the place of another and does nothing else.  What is
left to see is that none of them meets the names another one deals with.  A new name is none of the
parameters still to come, since those count as taken, so no later renaming picks it up.  It
may well be the name of a binder inside; the nameless form of a body has no such names.

The loop is stated with substitutions in full, and the substitution that runs it has a bound.  All
bodies on the way are as high as the first, and that height is the bound.
-/
import TypedLambda.Proofs.Alpha.Nameless
import TypedLambda.Proofs.Subst.Rules

namespace TypedLambda

namespace Nameless

/-- A name in its own place changes nothing. -/
theorem subst_free_self (y : String) (t : Nameless) : subst (free y) y t = t := by
  have hleaf : ∀ (_ : Nat), ∀ x ∈ t.freeNames, (if x = y then free y else free x) = free x := by
    intro _ x _
    by_cases hx : x = y
    · rw [if_pos hx, hx]
    · rw [if_neg hx]
  rw [subst, mapFree_congr hleaf, mapFree_free]

end Nameless

namespace Term

variable {rename rename' : String → String → Term → NamingM Term} {n : Nat}
  {dangerous taken : List String} {names names' : Naming} {b b' : Term}

/-! ### Renaming by full substitutions -/

/-- One name is put in the place of another, by a substitution. -/
def renameFree (new old : String) (b : Term) : NamingM Term :=
  (var new).subst old b

theorem renames_renameFree (n : Nat) : Renames renameFree n := by
  intro names new old b hb _
  have hnew : (var new).WellFormed := trivial
  exact run_subst old hnew hb names

section

variable (h : ∀ new old b, b.height = n → rename new old b = rename' new old b)

include h

/-- In bodies of one height the ways of renaming may be exchanged if they agree there. -/
theorem avoidCapture_congr (hn : b.height = n) (y : String) :
    avoidCapture rename dangerous taken y b = avoidCapture rename' dangerous taken y b := by
  have hbody : ∀ fresh, rename fresh y b = rename' fresh y b := fun fresh => h fresh y b hn
  simp only [avoidCapture, hbody]

theorem run_avoidCaptures_congr (hrename : Renames rename n) (hb : b.WellFormed)
    (hn : b.height = n) (ps : List (String × Ty)) :
    names.run (avoidCaptures rename dangerous taken ps b)
      = names.run (avoidCaptures rename' dangerous taken ps b) := by
  induction ps generalizing names taken b with
  | nil => rfl
  | cons p ps ih =>
      obtain ⟨y, τ⟩ := p
      obtain ⟨y', b₁, names₁, hy, -, hkept⟩ :=
        run_avoidCapture hrename hb (Nat.le_of_eq hn) dangerous taken y names
      have hrest : names₁.run (avoidCaptures rename dangerous (y' :: taken) ps b₁)
          = names₁.run (avoidCaptures rename' dangerous (y' :: taken) ps b₁) :=
        ih hkept.wellFormed (hkept.height.trans hn)
      rw [avoidCaptures, avoidCaptures, ← avoidCapture_congr h hn, Naming.run_bind_ok hy,
        Naming.run_bind_ok hy, Naming.run_bind, Naming.run_bind, hrest]

end

/-! ### What a body becomes -/

/-- What a name is called after the parameters of the first list have become those of the second. -/
def renamedTo : List (String × Ty) → List (String × Ty) → String → String
  | p :: ps, p' :: ps', x => if x = p.1 then p'.1 else renamedTo ps ps' x
  | _, _, x => x

theorem renamedTo_of_not_mem {ps : List (String × Ty)} (ps' : List (String × Ty)) {x : String}
    (hx : x ∉ ps.map (·.1)) : renamedTo ps ps' x = x := by
  induction ps generalizing ps' with
  | nil => rfl
  | cons p ps ih =>
      rw [List.map_cons, List.mem_cons, not_or] at hx
      cases ps' with
      | nil => rfl
      | cons p' ps' => rw [renamedTo, if_neg hx.1, ih ps' hx.2]

/-- Keeping one binder from capturing puts its new name in the place of its old one. -/
theorem toNameless_of_run_avoidCapture (hrename : Renames rename n) (hb : b.WellFormed)
    (hn : b.height ≤ n) {y y' : String}
    (hrun : names.run (avoidCapture rename dangerous taken y b) = (.ok (y', b'), names')) :
    b'.toNameless = Nameless.subst (.free y') y b.toNameless := by
  rw [avoidCapture] at hrun
  by_cases hy : y ∈ dangerous
  · obtain ⟨k, names₁, hdraw, -, -, -⟩ :=
      names.exists_run_freshBinder y (dangerous ++ b.freeNames ++ taken)
    obtain ⟨b₁, names₂, hb₁, -, hsubst⟩ := hrename names₁ (Supply.nameAt y k) y b hb hn
    rw [if_pos hy, freeNames?_eq_ok hb, Naming.run_bind_ok (names.run_liftExcept_ok _),
      Naming.run_bind_ok hdraw, Naming.run_bind_ok hb₁] at hrun
    cases hrun
    exact hsubst.nameless_drawn
  · rw [if_neg hy] at hrun
    cases hrun
    exact (Nameless.subst_free_self _ _).symm

theorem toNameless_of_run_avoidCaptures (hrename : Renames rename n) (hb : b.WellFormed)
    (hn : b.height ≤ n) {ps ps' : List (String × Ty)} (hnodup : (ps.map (·.1)).Nodup)
    (htaken : ∀ z ∈ ps.map (·.1), z ∈ taken)
    (hrun : names.run (avoidCaptures rename dangerous taken ps b) = (.ok (ps', b'), names')) :
    b'.toNameless = b.toNameless.mapFree (fun _ x => .free (renamedTo ps ps' x)) 0 := by
  induction ps generalizing taken names b ps' with
  | nil =>
      cases hrun
      exact (Nameless.mapFree_free 0 _).symm
  | cons p ps ih =>
      obtain ⟨y, τ⟩ := p
      obtain ⟨y', b₁, names₁, hy, -, hkept⟩ :=
        run_avoidCapture hrename hb hn dangerous taken y names
      rw [avoidCaptures, Naming.run_bind_ok hy] at hrun
      obtain ⟨⟨ps₁, b₂⟩, names₂, hps, hret⟩ := Naming.run_bind_eq_ok hrun
      cases hret
      rw [List.map_cons] at hnodup htaken
      obtain ⟨hyps, hnodup⟩ := List.nodup_cons.mp hnodup
      have hlater : ∀ z ∈ ps.map (·.1), z ∈ y' :: taken := by
        intro z hz
        exact List.mem_cons_of_mem y' (htaken z (List.mem_cons_of_mem y hz))
      -- the new name is none of the parameters to come, so it is not renamed once more
      have hy'ps : y' ∉ ps.map (·.1) := by
        rcases hkept.not_taken with rfl | hnot
        · exact hyps
        · exact fun hmem => hnot (htaken y' (List.mem_cons_of_mem y hmem))
      have hfirst := toNameless_of_run_avoidCapture hrename hb hn hy
      have hrest := ih hkept.wellFormed (hkept.height.symm ▸ hn) hnodup hlater hps
      rw [hrest, hfirst, Nameless.subst, Nameless.mapFree_mapFree]
      refine Nameless.mapFree_congr (fun d x _ => ?_) 0
      by_cases hx : x = y
      · simp [hx, renamedTo, renamedTo_of_not_mem _ hy'ps]
      · simp [hx, renamedTo]

/-! ### A literal and its parameters -/

/-- Parameters and body before and after the parameters have been renamed, all at once. -/
structure RenamedAtOnce (dangerous : List String) (ps : List (String × Ty)) (b : Term)
    (ps' : List (String × Ty)) (b' : Term) : Prop where
  nodup : (ps'.map (·.1)).Nodup
  /-- Exactly the dangerous names are changed, into ones that are not; the types stay. -/
  params : List.Forall₂
    (fun p p' => p'.1 ∉ dangerous ∧ (p'.1 = p.1 ↔ p.1 ∉ dangerous) ∧ p'.2 = p.2) ps ps'
  body : b'.toNameless = b.toNameless.mapFree (fun _ x => .free (renamedTo ps ps' x)) 0
  alphaEq : AlphaEq (.fn ps b) (.fn ps' b')

theorem NewName.eq_iff {y y' : String} (h : NewName names dangerous y y') :
    y' = y ↔ y ∉ dangerous := by
  constructor
  · intro heq
    exact heq ▸ h.not_dangerous
  · intro hy
    rcases h.origin with heq | ⟨hmem, -⟩
    · exact heq
    · exact absurd hmem hy

theorem AllKeptApart.alphaEq {ps ps' : List (String × Ty)}
    (h : AllKeptApart names dangerous [] ps b ps' b') (hfn : (fn ps b).WellFormed) :
    AlphaEq (.fn ps b) (.fn ps' b') := by
  have hfn' : (fn ps' b').WellFormed := ⟨h.nodup, h.wellFormed⟩
  have hbind : b'.toNameless.bind (ps'.map (·.1)) = b.toNameless.bind (ps.map (·.1)) := h.bind
  rw [alphaEq_iff_toNameless_eq hfn hfn', toNameless, toNameless, h.types, hbind]

/-- A substitution that goes below a literal renames its parameters and goes on in the new body. -/
theorem run_subst_fn {r : Term} {x : String} {ps ps' : List (String × Ty)} (hr : r.WellFormed)
    (hx : x ∉ ps.map (·.1)) (hb : b.WellFormed) (hheight : b'.height = b.height)
    (hnodup : (ps'.map (·.1)).Nodup)
    (hrun : names.run (avoidCaptures renameFree r.freeNames (ps.map (·.1)) ps b)
      = (.ok (ps', b'), names')) :
    names.run (r.subst x (.fn ps b)) = names'.run (do return .fn ps' (← r.subst x b')) := by
  have hagree : ∀ (new old : String) (c : Term), c.height = b.height →
      renameFree new old c = substWithin b.height (.var new) old c := by
    intro new old c hc
    rw [renameFree, subst, hc]
  rw [run_avoidCaptures_congr hagree (renames_renameFree b.height) hb rfl] at hrun
  rw [subst, height, substWithin, if_neg hx, freeNames?_eq_ok hr,
    Naming.run_bind_ok (names.run_liftExcept_ok _), Naming.run_bind_ok hrun, subst, hheight]
  simp only [fn?_eq_ok hnodup]
  rfl

/--
**Renaming parameters one after another is renaming them at once.**  Whatever names are dangerous
and whatever numbers come next, the loop ends with parameters that are named apart.  None of them
is dangerous, and those that were not are as before.  In the body every free name is what its
parameter is called now, and the literal is the same up to the names of binders.  A substitution
goes on from there.
-/
theorem parameters_renamed_at_once {ps : List (String × Ty)} (hfn : (fn ps b).WellFormed)
    (dangerous : List String) (names : Naming) :
    ∃ ps' b' names',
      names.run (avoidCaptures renameFree dangerous (ps.map (·.1)) ps b)
        = (.ok (ps', b'), names') ∧
      RenamedAtOnce dangerous ps b ps' b' ∧
      ∀ (r : Term) (x : String), r.WellFormed → r.freeNames = dangerous → x ∉ ps.map (·.1) →
        names.run (r.subst x (.fn ps b)) = names'.run (do return .fn ps' (← r.subst x b')) := by
  obtain ⟨hnodup, hb⟩ := hfn
  have htaken : ∀ z ∈ ps.map (·.1), z ∈ ps.map (·.1) := fun _ hz => hz
  obtain ⟨ps', b', names', hrun, -, hall⟩ := run_avoidCaptures (renames_renameFree b.height)
    dangerous (ps.map (·.1)) [] ps hb (Nat.le_refl _) hnodup (by simp) names
  refine ⟨ps', b', names', hrun, ⟨hall.nodup, ?_, ?_, hall.alphaEq ⟨hnodup, hb⟩⟩, ?_⟩
  · exact hall.params.imp fun p p' h => ⟨h.1.not_dangerous, h.1.eq_iff, h.2⟩
  · exact toNameless_of_run_avoidCaptures (renames_renameFree b.height) hb (Nat.le_refl _) hnodup
      htaken hrun
  · rintro r x hr rfl hx
    exact run_subst_fn hr hx hb hall.height hall.nodup hrun

/--
Two of three parameters are dangerous.  The first may not be called like its sibling, and what it is
called is the name of a binder inside.
-/
theorem parameters_renamed_at_once_nested :
    let ps : List (String × Ty) := [("y", .int), ("y_0", .bool), ("z", .int)]
    let b : Term := .app (.var "x")
      [.fn [("y_1", .int)] (.app (.var "y") [.var "y_1"]), .var "y_0", .var "z"]
    let dangerous : List String := ["y", "z"]
    let names : Naming := {}
    (fn ps b).WellFormed ∧
      (names.run (avoidCaptures renameFree dangerous (ps.map (·.1)) ps b)).1 =
        .ok ([("y_1", .int), ("y_0", .bool), ("z_3", .int)],
          .app (.var "x")
            [.fn [("y_1_2", .int)] (.app (.var "y_1") [.var "y_1_2"]), .var "y_0", .var "z_3"]) ∧
      ∃ ps' b' names',
        names.run (avoidCaptures renameFree dangerous (ps.map (·.1)) ps b)
          = (.ok (ps', b'), names') ∧
        RenamedAtOnce dangerous ps b ps' b' ∧
        ∀ (r : Term) (x : String), r.WellFormed → r.freeNames = dangerous → x ∉ ps.map (·.1) →
          names.run (r.subst x (.fn ps b)) = names'.run (do return .fn ps' (← r.subst x b')) := by
  intro ps b dangerous names
  have hfn : (fn ps b).WellFormed := by decide
  exact ⟨hfn, by decide, parameters_renamed_at_once hfn dangerous names⟩

end Term

end TypedLambda
