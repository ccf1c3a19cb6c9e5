/-
Substitution always succeeds, and up to the names of binders it is replacement.

The recursion is not on the term: a binder that would capture has its body rewritten by a
substitution of its own before the replacement goes on into what came out.  What makes
this end is that putting a name in the place of a name keeps the height, so the bound that
was enough for the body is enough for the body renamed.  `run_substWithin` is therefore one
induction on the bound, for all replacements at once: the induction hypothesis for a body
is used once as the renaming that `Proofs/Subst/Capture.lean` asks for, and once more for
the replacement itself.

The one thing that can go wrong is that a name is drawn that is the target.  A binder of
that name would look like an occurrence to be replaced.  The draw avoids what is free in
the replacement and in the body, but not the target, so the statement has to say that no
such draw can happen.
-/
import TypedLambda.Proofs.Subst.Capture

namespace TypedLambda.Term

/-! ### Putting the parts together -/

section

variable {names : Naming} {r : Term} {x : String}

theorem Substituted.ite {c a b c' a' b' : Term} (hc : Substituted names r x c c')
    (ha : Substituted names r x a a') (hb : Substituted names r x b b') :
    Substituted names r x (.ite c a b) (.ite c' a' b') := by
  refine ⟨⟨hc.wellFormed, ha.wellFormed, hb.wellFormed⟩, fun hr => ?_, fun hx => ?_⟩
  · simp only [Term.height, hc.height hr, ha.height hr, hb.height hr]
  · simp only [toNameless, Nameless.subst_ite, hc.nameless hx, ha.nameless hx, hb.nameless hx]

theorem Substituted.wellFormedAll {ts ts' : List Term}
    (h : List.Forall₂ (Substituted names r x) ts ts') : WellFormedAll ts' := by
  induction h with
  | nil => trivial
  | cons ht _ ih => exact ⟨ht.wellFormed, ih⟩

theorem Substituted.heightAll {ts ts' : List Term}
    (h : List.Forall₂ (Substituted names r x) ts ts') (hr : r.height = 1) :
    Term.heightAll ts' = Term.heightAll ts := by
  induction h with
  | nil => rfl
  | cons ht _ ih => simp only [Term.heightAll, ht.height hr, ih]

theorem Substituted.namelessAll {ts ts' : List Term}
    (h : List.Forall₂ (Substituted names r x) ts ts')
    (hx : names.MayDraw r x → x ∈ r.freeNames) :
    toNamelessAll ts' = (toNamelessAll ts).map (r.toNameless.subst x) := by
  induction h with
  | nil => rfl
  | cons ht _ ih => simp only [toNamelessAll, List.map_cons, ht.nameless hx, ih]

theorem Substituted.prim (op : Prim) {ts ts' : List Term}
    (h : List.Forall₂ (Substituted names r x) ts ts') :
    Substituted names r x (.prim op ts) (.prim op ts') := by
  refine ⟨wellFormedAll h, fun hr => ?_, fun hx => ?_⟩
  · simp only [Term.height, heightAll h hr]
  · simp only [toNameless, Nameless.subst_prim, namelessAll h hx]

theorem Substituted.app {f f' : Term} {ts ts' : List Term} (hf : Substituted names r x f f')
    (h : List.Forall₂ (Substituted names r x) ts ts') :
    Substituted names r x (.app f ts) (.app f' ts') := by
  refine ⟨⟨hf.wellFormed, wellFormedAll h⟩, fun hr => ?_, fun hx => ?_⟩
  · simp only [Term.height, hf.height hr, heightAll h hr]
  · simp only [toNameless, Nameless.subst_app, hf.nameless hx, namelessAll h hx]

/--
Replacing below binders that were kept from capturing: the renaming cancels against the
new names, and what is left is the replacement in the body as it was.
-/
theorem Substituted.bind {ys ys' : List String} {b b₁ b' : Term}
    (hback : b₁.toNameless.bind ys' = b.toNameless.bind ys)
    (hout : ∀ y ∈ ys', y ∉ r.freeNames) (hxys : x ∉ ys') (hb' : Substituted names r x b₁ b')
    (hx : names.MayDraw r x → x ∈ r.freeNames) :
    b'.toNameless.bind ys' = r.toNameless.subst x (b.toNameless.bind ys) := by
  have hout' : ∀ y ∈ ys', y ∉ r.toNameless.freeNames :=
    fun y hy h => hout y hy (mem_freeNames_toNameless.mp h)
  rw [hb'.nameless hx, ← Nameless.subst_bind hxys hout', hback]

theorem KeptApart.bind_substituted {taken : List String} {y y' : String} {b b₁ b' : Term}
    (hkept : KeptApart names r.freeNames taken y b y' b₁)
    (hb' : Substituted names r x b₁ b') (hxy : x ≠ y)
    (hx : names.MayDraw r x → x ∈ r.freeNames) :
    b'.toNameless.bind [y'] = r.toNameless.subst x (b.toNameless.bind [y]) := by
  refine Substituted.bind (hkept.bind [] [] (by simp) (by simp)) ?_ ?_ hb' hx
  · intro z hz
    rw [List.mem_singleton.mp hz]
    exact hkept.newName.not_dangerous
  · simpa using hkept.newName.ne hx hxy

theorem Substituted.fix {f f' : String} (τ : Ty) {b b₁ b' : Term}
    (hkept : KeptApart names r.freeNames [] f b f' b₁) (hb' : Substituted names r x b₁ b')
    (hxf : x ≠ f) : Substituted names r x (.fix f τ b) (.fix f' τ b') := by
  refine ⟨hb'.wellFormed, fun hr => ?_, fun hx => ?_⟩
  · simp only [Term.height, hb'.height hr, hkept.height]
  · simp only [toNameless, Nameless.subst_fix, hkept.bind_substituted hb' hxf hx]

theorem Substituted.letIn {y y' : String} {v v' b b₁ b' : Term}
    (hv : Substituted names r x v v') (hkept : KeptApart names r.freeNames [] y b y' b₁)
    (hb' : Substituted names r x b₁ b') (hxy : x ≠ y) :
    Substituted names r x (.letIn y v b) (.letIn y' v' b') := by
  refine ⟨⟨hv.wellFormed, hb'.wellFormed⟩, fun hr => ?_, fun hx => ?_⟩
  · simp only [Term.height, hv.height hr, hb'.height hr, hkept.height]
  · simp only [toNameless, Nameless.subst_letIn, hv.nameless hx,
      hkept.bind_substituted hb' hxy hx]

/-- Every new parameter comes from an old one. -/
theorem AllKeptApart.exists_param {xs dangerous : List String} {ps ps' : List (String × Ty)}
    {b b' : Term} (h : AllKeptApart names dangerous xs ps b ps' b') {y : String}
    (hy : y ∈ ps'.map (·.1)) : ∃ z ∈ ps.map (·.1), NewName names dangerous z y := by
  obtain ⟨p', hp', rfl⟩ := List.mem_map.mp hy
  have hparams := h.params
  clear h hy
  induction hparams with
  | nil => simp at hp'
  | @cons q q' _ _ hq _ ih =>
      rcases List.mem_cons.mp hp' with rfl | hp'
      · exact ⟨q.1, by simp, hq.1⟩
      · obtain ⟨z, hz, hnew⟩ := ih hp'
        exact ⟨z, by simp [hz], hnew⟩

theorem AllKeptApart.types {xs dangerous : List String} {ps ps' : List (String × Ty)}
    {b b' : Term} (h : AllKeptApart names dangerous xs ps b ps' b') :
    ps'.map (·.2) = ps.map (·.2) := by
  have hparams := h.params
  clear h
  induction hparams with
  | nil => rfl
  | cons hq _ ih => simp only [List.map_cons, hq.2, ih]

theorem Substituted.fn {ps ps' : List (String × Ty)} {b b₁ b' : Term}
    (hall : AllKeptApart names r.freeNames [] ps b ps' b₁) (hb' : Substituted names r x b₁ b')
    (hxps : x ∉ ps.map (·.1)) : Substituted names r x (.fn ps b) (.fn ps' b') := by
  refine ⟨⟨hall.nodup, hb'.wellFormed⟩, fun hr => ?_, fun hx => ?_⟩
  · simp only [Term.height, hb'.height hr, hall.height]
  · have hbind : b'.toNameless.bind (ps'.map (·.1))
        = r.toNameless.subst x (b.toNameless.bind (ps.map (·.1))) := by
      refine Substituted.bind hall.bind (fun y hy => ?_) (fun hxps' => ?_) hb' hx
      · obtain ⟨z, -, hnew⟩ := hall.exists_param hy
        exact hnew.not_dangerous
      · obtain ⟨z, hz, hnew⟩ := hall.exists_param hxps'
        exact hnew.ne hx (fun e => hxps (e ▸ hz)) rfl
    simp only [toNameless, Nameless.subst_fn, hall.types, hbind]

end

/-! ### The recursion

One lemma for each form with a binder, given that the bound below is enough for the parts.
-/

/-- A bound of `n` is enough for terms up to height `n`. -/
def SubstitutesWithin (n : Nat) : Prop :=
  ∀ (r t : Term) (x : String) (names : Naming), r.WellFormed → t.WellFormed → t.height ≤ n →
    ∃ t' names', names.run (substWithin n r x t) = (.ok t', names') ∧
      names.next ≤ names'.next ∧ Substituted names r x t t'

namespace SubstitutesWithin

variable {n : Nat}

theorem renames (ih : SubstitutesWithin n) :
    Renames (fun new old body => substWithin n (.var new) old body) n :=
  fun names new old b hb hn => ih (.var new) b old names trivial hb hn

variable {r : Term} {x : String} (hr : r.WellFormed) (names : Naming)

include hr

theorem mapM (ih : SubstitutesWithin n) {ts : List Term} (hts : WellFormedAll ts)
    (hn : Term.heightAll ts ≤ n) :
    ∃ ts' names', names.run (ts.mapM (substWithin n r x)) = (.ok ts', names') ∧
      names.next ≤ names'.next ∧ List.Forall₂ (Substituted names r x) ts ts' := by
  refine names.run_mapM fun t ht names₁ hle₁ => ?_
  obtain ⟨t', names₂, hrun, hle₂, hsub⟩ := ih r t x names₁ hr (wellFormedAll_iff.mp hts t ht)
    (Nat.le_trans (height_le_heightAll ht) hn)
  exact ⟨t', names₂, hrun, hle₂, hsub.mono hle₁⟩

theorem fix (ih : SubstitutesWithin n) (f : String) (τ : Ty) {b : Term} (hb : b.WellFormed)
    (hn : b.height ≤ n) :
    ∃ t' names', names.run (substWithin (n + 1) r x (.fix f τ b)) = (.ok t', names') ∧
      names.next ≤ names'.next ∧ Substituted names r x (.fix f τ b) t' := by
  by_cases hf : f = x
  · refine ⟨.fix f τ b, names, ?_, Nat.le_refl _, hb, fun _ => rfl, fun _ => ?_⟩
    · rw [substWithin, if_pos hf, Naming.run_pure]
    · rw [toNameless, Nameless.subst_fix,
        Nameless.subst_bind_of_mem (List.mem_singleton.mpr hf.symm)]
  · obtain ⟨f', b₁, names₁, hf', hle₁, hkept⟩ :=
      run_avoidCapture ih.renames hb hn r.freeNames [] f names
    obtain ⟨b', names₂, hb', hle₂, hsb⟩ :=
      ih r b₁ x names₁ hr hkept.wellFormed (by rw [hkept.height]; exact hn)
    refine ⟨.fix f' τ b', names₂, ?_, Nat.le_trans hle₁ hle₂,
      .fix τ hkept (hsb.mono hle₁) (Ne.symm hf)⟩
    rw [substWithin, if_neg hf, freeNames?_eq_ok hr,
      Naming.run_bind_ok (names.run_liftExcept_ok _), Naming.run_bind_ok hf',
      Naming.run_bind_ok hb', Naming.run_pure]

theorem letIn (ih : SubstitutesWithin n) (y : String) {v b : Term} (hv : v.WellFormed)
    (hb : b.WellFormed) (hvn : v.height ≤ n) (hbn : b.height ≤ n) :
    ∃ t' names', names.run (substWithin (n + 1) r x (.letIn y v b)) = (.ok t', names') ∧
      names.next ≤ names'.next ∧ Substituted names r x (.letIn y v b) t' := by
  obtain ⟨v', names₁, hv', hle₁, hsv⟩ := ih r v x names hr hv hvn
  by_cases hy : y = x
  · refine ⟨.letIn y v' b, names₁, ?_, hle₁, ⟨hsv.wellFormed, hb⟩, fun hr => ?_, fun hx => ?_⟩
    · rw [substWithin, Naming.run_bind_ok hv', if_pos hy, Naming.run_pure]
    · simp only [Term.height, hsv.height hr]
    · rw [toNameless, toNameless, Nameless.subst_letIn, hsv.nameless hx,
        Nameless.subst_bind_of_mem (List.mem_singleton.mpr hy.symm)]
  · obtain ⟨y', b₁, names₂, hy', hle₂, hkept⟩ :=
      run_avoidCapture ih.renames hb hbn r.freeNames [] y names₁
    obtain ⟨b', names₃, hb', hle₃, hsb⟩ :=
      ih r b₁ x names₂ hr hkept.wellFormed (by rw [hkept.height]; exact hbn)
    refine ⟨.letIn y' v' b', names₃, ?_, by omega,
      hsv.letIn (hkept.mono hle₁) (hsb.mono (Nat.le_trans hle₁ hle₂)) (Ne.symm hy)⟩
    rw [substWithin, Naming.run_bind_ok hv', if_neg hy, freeNames?_eq_ok hr,
      Naming.run_bind_ok (names₁.run_liftExcept_ok _), Naming.run_bind_ok hy',
      Naming.run_bind_ok hb', Naming.run_pure]

theorem fn (ih : SubstitutesWithin n) {ps : List (String × Ty)} {b : Term}
    (hps : (ps.map (·.1)).Nodup) (hb : b.WellFormed) (hn : b.height ≤ n) :
    ∃ t' names', names.run (substWithin (n + 1) r x (.fn ps b)) = (.ok t', names') ∧
      names.next ≤ names'.next ∧ Substituted names r x (.fn ps b) t' := by
  by_cases hx : x ∈ ps.map (·.1)
  · refine ⟨.fn ps b, names, ?_, Nat.le_refl _, ⟨hps, hb⟩, fun _ => rfl, fun _ => ?_⟩
    · rw [substWithin, if_pos hx, Naming.run_pure]
    · rw [toNameless, Nameless.subst_fn, Nameless.subst_bind_of_mem hx]
  · obtain ⟨ps', b₁, names₁, hps', hle₁, hall⟩ :=
      run_avoidCaptures ih.renames r.freeNames (ps.map (·.1)) [] ps hb hn hps
        (by simp) names
    obtain ⟨b', names₂, hb', hle₂, hsb⟩ :=
      ih r b₁ x names₁ hr hall.wellFormed (by rw [hall.height]; exact hn)
    refine ⟨.fn ps' b', names₂, ?_, Nat.le_trans hle₁ hle₂, .fn hall (hsb.mono hle₁) hx⟩
    rw [substWithin, if_neg hx, freeNames?_eq_ok hr,
      Naming.run_bind_ok (names.run_liftExcept_ok _), Naming.run_bind_ok hps',
      Naming.run_bind_ok hb', fn?_eq_ok hall.nodup, Naming.run_liftExcept_ok]

end SubstitutesWithin

theorem substitutesWithin (n : Nat) : SubstitutesWithin n := by
  induction n with
  | zero => exact fun _ t _ _ _ _ hn => absurd hn (Nat.not_le.mpr t.height_pos)
  | succ n ih =>
      intro r t x names hr ht hn
      cases t with
      | int k => exact ⟨.int k, names, rfl, Nat.le_refl _, trivial, fun _ => rfl, fun _ => rfl⟩
      | bool k => exact ⟨.bool k, names, rfl, Nat.le_refl _, trivial, fun _ => rfl, fun _ => rfl⟩
      | stray s => exact ht.elim
      | var y =>
          by_cases hy : y = x
          · refine ⟨r, names, ?_, Nat.le_refl _, hr, id, fun _ => ?_⟩
            · rw [substWithin, if_pos hy, Naming.run_pure]
            · rw [toNameless, Nameless.subst_free, if_pos hy]
          · refine ⟨.var y, names, ?_, Nat.le_refl _, trivial, fun _ => rfl, fun _ => ?_⟩
            · rw [substWithin, if_neg hy, Naming.run_pure]
            · rw [toNameless, Nameless.subst_free, if_neg hy]
      | ite c a b =>
          obtain ⟨hwc, hwa, hwb⟩ := ht
          simp only [Term.height] at hn
          obtain ⟨c', names₁, hc, hle₁, hsc⟩ := ih r c x names hr hwc (by omega)
          obtain ⟨a', names₂, ha, hle₂, hsa⟩ := ih r a x names₁ hr hwa (by omega)
          obtain ⟨b', names₃, hb, hle₃, hsb⟩ := ih r b x names₂ hr hwb (by omega)
          refine ⟨.ite c' a' b', names₃, ?_, by omega,
            hsc.ite (hsa.mono hle₁) (hsb.mono (Nat.le_trans hle₁ hle₂))⟩
          rw [substWithin, Naming.run_bind_ok hc, Naming.run_bind_ok ha, Naming.run_bind_ok hb,
            Naming.run_pure]
      | prim op ts =>
          simp only [Term.height] at hn
          obtain ⟨ts', names₁, hts, hle₁, hsts⟩ := ih.mapM hr names ht (by omega)
          refine ⟨.prim op ts', names₁, ?_, hle₁, .prim op hsts⟩
          rw [substWithin, Naming.run_bind_ok hts, Naming.run_pure]
      | app f ts =>
          simp only [Term.height] at hn
          obtain ⟨f', names₁, hf, hle₁, hsf⟩ := ih r f x names hr ht.1 (by omega)
          obtain ⟨ts', names₂, hts, hle₂, hsts⟩ := ih.mapM hr names₁ ht.2 (by omega)
          refine ⟨.app f' ts', names₂, ?_, Nat.le_trans hle₁ hle₂,
            hsf.app (hsts.imp fun _ _ h => h.mono hle₁)⟩
          rw [substWithin, Naming.run_bind_ok hf, Naming.run_bind_ok hts, Naming.run_pure]
      | fix f τ b =>
          simp only [Term.height] at hn
          exact ih.fix hr names f τ ht (by omega)
      | letIn y v b =>
          simp only [Term.height] at hn
          exact ih.letIn hr names y ht.1 ht.2 (by omega) (by omega)
      | fn ps b =>
          simp only [Term.height] at hn
          exact ih.fn hr names ht.1 ht.2 (by omega)

/-- Substitution succeeds on every well formed term. -/
theorem run_subst {r t : Term} (x : String) (hr : r.WellFormed) (ht : t.WellFormed)
    (names : Naming) :
    ∃ t' names', names.run (r.subst x t) = (.ok t', names') ∧ names.next ≤ names'.next ∧
      Substituted names r x t t' :=
  substitutesWithin t.height r t x names hr ht (Nat.le_refl _)

/--
**Up to the names of binders, substitution is replacement.**  The nameless form of the
result is the nameless form of the term with that of the replacement in the place of every
free occurrence of the target, unless the target may still be drawn for a binder.
-/
theorem toNameless_subst {r t : Term} {x : String} {names : Naming} (hr : r.WellFormed)
    (ht : t.WellFormed) (hx : ¬ names.MayDraw r x) :
    ∃ t' names', names.run (r.subst x t) = (.ok t', names') ∧
      t'.toNameless = r.toNameless.subst x t.toNameless := by
  obtain ⟨t', names', hrun, -, hsub⟩ := run_subst x hr ht names
  exact ⟨t', names', hrun, hsub.nameless fun h => absurd h hx⟩

/-- The new name of the outer binder is that of the inner one, which is renamed in its turn. -/
theorem toNameless_subst_nested :
    (Term.var "y").WellFormed ∧
    (Term.fn [("y", .int)] (.app (.var "x")
      [.fn [("y_0", .int)] (.app (.var "y") [.var "y_0", .var "x"])])).WellFormed ∧
    ¬ ({} : Naming).MayDraw (.var "y") "x" ∧
    ∃ t' names', ({} : Naming).run ((Term.var "y").subst "x" (.fn [("y", .int)] (.app (.var "x")
        [.fn [("y_0", .int)] (.app (.var "y") [.var "y_0", .var "x"])]))) = (.ok t', names') ∧
      t'.toNameless = (Term.var "y").toNameless.subst "x" (Term.fn [("y", .int)] (.app (.var "x")
        [.fn [("y_0", .int)] (.app (.var "y") [.var "y_0", .var "x"])])).toNameless := by
  have hdraw : ¬ ({} : Naming).MayDraw (.var "y") "x" := by
    rintro ⟨b, hb, n, -, hx⟩
    have hlen := Supply.length_lt_length_nameAt b n
    rw [← hx, List.mem_singleton.mp hb] at hlen
    exact absurd hlen (by decide)
  exact ⟨by decide, by decide, hdraw, toNameless_subst (by decide) (by decide) hdraw⟩

end TypedLambda.Term
