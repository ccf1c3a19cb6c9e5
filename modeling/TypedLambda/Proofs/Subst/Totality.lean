/-
Substitution is total on well formed terms.

That it gives a result, and no fault, is known from `Proofs/Subst.lean`, and that it goes by the
rules, each search for a name included, from `Proofs/Subst/Rules.lean`.  What is left is
what the result looks like.  `BuiltLike r t t'` says that `t'` is built as `t` is, with
other names for binders and occurrences, and with `r` in the place of some occurrences.  The
parameters of a literal may be called otherwise, but there are as many of them, with the same
types in the same order.

The body of a binder is changed twice, first by a renaming and then by the replacement.  A renaming
is a replacement too, so both steps are of this kind; and putting something in after a name was
put in comes to putting it in at once.
-/
import TypedLambda.Proofs.Subst.Rules

namespace TypedLambda.Term

/-! ### Terms that are built alike -/

mutual

/-- Built as the first term, but for names, and with `r` in the place of some occurrences. -/
inductive BuiltLike (r : Term) : Term → Term → Prop where
  | int (n : Int) : BuiltLike r (.int n) (.int n)
  | bool (b : Bool) : BuiltLike r (.bool b) (.bool b)
  | name (x y : String) : BuiltLike r (.var x) (.var y)
  | put (x : String) : BuiltLike r (.var x) r
  | ite {c a b c' a' b' : Term} (hc : BuiltLike r c c') (ha : BuiltLike r a a')
      (hb : BuiltLike r b b') : BuiltLike r (.ite c a b) (.ite c' a' b')
  | prim (op : Prim) {ts ts' : List Term} (hts : BuiltLikeAll r ts ts') :
      BuiltLike r (.prim op ts) (.prim op ts')
  /-- The number, the order and the types of the parameters are the same. -/
  | fn {ps ps' : List (String × Ty)} {b b' : Term} (hτ : ps'.map (·.2) = ps.map (·.2))
      (hb : BuiltLike r b b') : BuiltLike r (.fn ps b) (.fn ps' b')
  | fix (f f' : String) (τ : Ty) {b b' : Term} (hb : BuiltLike r b b') :
      BuiltLike r (.fix f τ b) (.fix f' τ b')
  | letIn (y y' : String) {v v' b b' : Term} (hv : BuiltLike r v v') (hb : BuiltLike r b b') :
      BuiltLike r (.letIn y v b) (.letIn y' v' b')
  | app {f f' : Term} {ts ts' : List Term} (hf : BuiltLike r f f') (hts : BuiltLikeAll r ts ts') :
      BuiltLike r (.app f ts) (.app f' ts')
  | stray (s : String) : BuiltLike r (.stray s) (.stray s)

/-- As many terms, each built as the one in its place. -/
inductive BuiltLikeAll (r : Term) : List Term → List Term → Prop where
  | nil : BuiltLikeAll r [] []
  | cons {t t' : Term} {ts ts' : List Term} (ht : BuiltLike r t t') (hts : BuiltLikeAll r ts ts') :
      BuiltLikeAll r (t :: ts) (t' :: ts')

end

theorem builtLikeAll_refl {r : Term} {ts : List Term} (h : ∀ t ∈ ts, BuiltLike r t t) :
    BuiltLikeAll r ts ts := by
  induction ts with
  | nil => exact .nil
  | cons t ts ih =>
      rw [List.forall_mem_cons] at h
      exact .cons h.1 (ih h.2)

theorem BuiltLike.refl (r t : Term) : BuiltLike r t t := by
  induction t using Term.induction with
  | int n => exact .int n
  | bool b => exact .bool b
  | var x => exact .name x x
  | ite c a b hc ha hb => exact .ite hc ha hb
  | prim op ts ih => exact .prim op (builtLikeAll_refl ih)
  | fn ps b ih => exact .fn rfl ih
  | fix f τ b ih => exact .fix f f τ ih
  | letIn x v b hv hb => exact .letIn x x hv hb
  | app f ts hf ih => exact .app hf (builtLikeAll_refl ih)
  | stray s => exact .stray s

mutual

/-- A name that was put in is a name like any other. -/
theorem BuiltLike.after_name {z : String} {r t t₁ t' : Term} (h : BuiltLike (.var z) t t₁)
    (h' : BuiltLike r t₁ t') : BuiltLike r t t' := by
  cases h with
  | int n => exact h'
  | bool b => exact h'
  | stray s => exact h'
  | name x y =>
      cases h' with
      | name _ y' => exact .name x y'
      | put => exact .put x
  | put x =>
      cases h' with
      | name _ y' => exact .name x y'
      | put => exact .put x
  | ite hc ha hb =>
      cases h' with
      | ite hc' ha' hb' => exact .ite (hc.after_name hc') (ha.after_name ha') (hb.after_name hb')
  | prim op hts =>
      cases h' with
      | prim _ hts' => exact .prim op (hts.after_name hts')
  | fn hτ hb =>
      cases h' with
      | fn hτ' hb' => exact .fn (hτ'.trans hτ) (hb.after_name hb')
  | fix f f₁ τ hb =>
      cases h' with
      | fix _ f' _ hb' => exact .fix f f' τ (hb.after_name hb')
  | letIn y y₁ hv hb =>
      cases h' with
      | letIn _ y' hv' hb' => exact .letIn y y' (hv.after_name hv') (hb.after_name hb')
  | app hf hts =>
      cases h' with
      | app hf' hts' => exact .app (hf.after_name hf') (hts.after_name hts')

theorem BuiltLikeAll.after_name {z : String} {r : Term} {ts ts₁ ts' : List Term}
    (h : BuiltLikeAll (.var z) ts ts₁) (h' : BuiltLikeAll r ts₁ ts') : BuiltLikeAll r ts ts' := by
  cases h with
  | nil => cases h'; exact .nil
  | cons ht hts =>
      cases h' with
      | cons ht' hts' => exact .cons (ht.after_name ht') (hts.after_name hts')

end

/-! ### The rules build alike -/

mutual

theorem Replaces.builtLike {names names' : Naming} {r t t' : Term} {x : String}
    (h : Replaces names r x t t' names') : BuiltLike r t t' := by
  match h with
  | .int _ _ _ n => exact .int n
  | .bool _ _ _ b => exact .bool b
  | .target _ _ x => exact .put x
  | .other _ _ _ => exact .name _ _
  | .ite hc ha hb => exact .ite hc.builtLike ha.builtLike hb.builtLike
  | .prim op hts => exact .prim op hts.builtLikeAll
  | .app hf hts => exact .app hf.builtLike hts.builtLikeAll
  | .letShadowed b hv => exact .letIn x x hv.builtLike (.refl r b)
  | .letIn _ hv hkept hb =>
      obtain ⟨z, hbody⟩ := hkept.exists_builtLike
      exact .letIn _ _ hv.builtLike (hbody.after_name hb.builtLike)
  | .fixShadowed _ _ _ _ _ => exact .refl r _
  | .fix τ _ hkept hb =>
      obtain ⟨z, hbody⟩ := hkept.exists_builtLike
      exact .fix _ _ τ (hbody.after_name hb.builtLike)
  | .fnShadowed _ _ _ _ => exact .refl r _
  | .fn _ hkept hb _ =>
      obtain ⟨hτ, z, hbody⟩ := hkept.builtLike
      exact .fn hτ (hbody.after_name hb.builtLike)

theorem ReplacesAll.builtLikeAll {names names' : Naming} {r : Term} {x : String}
    {ts ts' : List Term} (h : ReplacesAll names r x ts ts' names') : BuiltLikeAll r ts ts' := by
  match h with
  | .nil _ _ _ => exact .nil
  | .cons ht hts => exact .cons ht.builtLike hts.builtLikeAll

theorem Avoids.exists_builtLike {names names' : Naming} {dangerous taken : List String}
    {y y' : String} {b b' : Term} (h : Avoids names dangerous taken y b y' b' names') :
    ∃ z, BuiltLike (.var z) b b' := by
  match h with
  | .keep _ _ _ _ => exact ⟨y, .refl _ b⟩
  | .rename _ _ _ hb => exact ⟨y', hb.builtLike⟩

theorem AvoidsAll.builtLike {names names' : Naming} {dangerous taken : List String}
    {ps ps' : List (String × Ty)} {b b' : Term}
    (h : AvoidsAll names dangerous taken ps b ps' b' names') :
    ps'.map (·.2) = ps.map (·.2) ∧ ∃ z, BuiltLike (.var z) b b' := by
  match h with
  | .nil _ _ _ _ => exact ⟨rfl, "", .refl _ b⟩
  | .cons τ hy hps =>
      obtain ⟨z, hfirst⟩ := hy.exists_builtLike
      obtain ⟨hτ, z', hrest⟩ := hps.builtLike
      exact ⟨congrArg (τ :: ·) hτ, z', hfirst.after_name hrest⟩

end

/-! ### Totality -/

/--
**Substitution is total.**  On well formed terms it comes to its end by the rules, from whatever
names were used before, and every search for a new name on the way takes at most one draw more
than there are names to avoid.  It meets no fault: the result is well formed, so no literal in it
names a parameter twice.  The result is built as the term is, with every literal having
parameters of the same types as before, in the same order.
-/
theorem subst_total {r t : Term} (hr : r.WellFormed) (ht : t.WellFormed) (x : String)
    (names : Naming) :
    ∃ t' names', names.run (r.subst x t) = (.ok t', names') ∧ Replaces names r x t t' names' ∧
      t'.WellFormed ∧ BuiltLike r t t' := by
  obtain ⟨t', names', hrun, -, hsub⟩ := run_subst x hr ht names
  have hrules := replaces_of_run hr ht hrun
  exact ⟨t', names', hrun, hrules, hsub.wellFormed, hrules.builtLike⟩

/--
The first name drawn for `y` is that of another parameter, and the second that of a binder further
inside, which the renaming has to rename in its turn.
-/
theorem subst_total_siblings :
    let r := app (var "y") [var "z"]
    let t := fn [("y", .int), ("y_0", .bool), ("z", .int)]
      (app (var "x") [fn [("y_1", .int)] (app (var "y") [var "y_1"]), var "y_0", var "z"])
    (r.WellFormed ∧ t.WellFormed) ∧
      (Naming.run {} (r.subst "x" t)).1 =
        .ok (fn [("y_1", .int), ("y_0", .bool), ("z_3", .int)]
          (app (app (var "y") [var "z"])
            [fn [("y_1_2", .int)] (app (var "y_1") [var "y_1_2"]), var "y_0", var "z_3"])) ∧
      ∃ t' names', Naming.run {} (r.subst "x" t) = (.ok t', names') ∧
        Replaces {} r "x" t t' names' ∧ t'.WellFormed ∧ BuiltLike r t t' := by
  intro r t
  have hr : r.WellFormed := by decide
  have ht : t.WellFormed := by decide
  exact ⟨⟨hr, ht⟩, rfl, subst_total hr ht "x" {}⟩

end TypedLambda.Term
