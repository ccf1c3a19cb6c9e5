/-
What the type of a term depends on.

The rule for each form is read off `infer` once, as an equivalence: the form has the type
exactly when its parts have the types the rule asks for.  Every proof about typed terms
goes through these and does not look at the order in which the parts are checked.

Of a context only the types of the free names count.  `infer_congr` says so for the whole
outcome, errors included, and two facts come from it: a term that has a type in the empty
context is closed, and a closed term has the same outcome in every context.

`infer_instantiate` is the substitution lemma, again for the whole outcome.  The terms put in
for names are closed and have the types that the context gives to those names, so nothing that
is inferred can tell a name from the term put in for it.
-/
import TypedLambda.Typing
import TypedLambda.Proofs.Instantiate
import TypedLambda.Proofs.Results

namespace TypedLambda

namespace Context

theorem lookup?_empty (x : String) : empty.lookup? x = none := rfl

theorem extendMany_cons (Γ : Context) (p : String × Ty) (ps : List (String × Ty)) :
    Γ.extendMany (p :: ps) = (Γ.extend p.1 p.2).extendMany ps := rfl

/-- Contexts that agree on a name go on to agree on it under every binder. -/
theorem lookup?_extend_congr {Γ Γ' : Context} {x y : String} (τ : Ty)
    (h : y ≠ x → Γ.lookup? y = Γ'.lookup? y) :
    (Γ.extend x τ).lookup? y = (Γ'.extend x τ).lookup? y := by
  by_cases hy : y = x
  · rw [hy, lookup?_extend_self, lookup?_extend_self]
  · rw [lookup?_extend_of_ne _ _ hy, lookup?_extend_of_ne _ _ hy, h hy]

theorem lookup?_extendMany_congr {Γ Γ' : Context} {y : String} (ps : List (String × Ty))
    (h : y ∉ ps.map (·.1) → Γ.lookup? y = Γ'.lookup? y) :
    (Γ.extendMany ps).lookup? y = (Γ'.extendMany ps).lookup? y := by
  induction ps generalizing Γ Γ' with
  | nil => exact h (by simp)
  | cons p ps ih =>
      rw [extendMany_cons, extendMany_cons]
      refine ih fun hps => lookup?_extend_congr p.2 fun hp => h ?_
      simpa [hp] using hps

theorem lookup?_extendMany_of_not_mem (Γ : Context) {ps : List (String × Ty)} {y : String}
    (hy : y ∉ ps.map (·.1)) : (Γ.extendMany ps).lookup? y = Γ.lookup? y := by
  induction ps generalizing Γ with
  | nil => rfl
  | cons p ps ih =>
      rw [List.map_cons, List.mem_cons, not_or] at hy
      rw [extendMany_cons, ih _ hy.2, lookup?_extend_of_ne _ _ hy.1]

theorem lookup?_extend_eq_none {Γ : Context} {x y : String} {τ : Ty} :
    (Γ.extend x τ).lookup? y = none ↔ y ≠ x ∧ Γ.lookup? y = none := by
  by_cases hy : y = x
  · simp [hy]
  · simp [hy, lookup?_extend_of_ne]

theorem lookup?_extendMany_eq_none {Γ : Context} {ps : List (String × Ty)} {y : String} :
    (Γ.extendMany ps).lookup? y = none ↔ y ∉ ps.map (·.1) ∧ Γ.lookup? y = none := by
  induction ps generalizing Γ with
  | nil => simp [extendMany]
  | cons p ps ih =>
      rw [extendMany_cons, ih, lookup?_extend_eq_none, List.map_cons, List.mem_cons, not_or]
      tauto

end Context

/-! ### The rules -/

theorem firstDifference?_eq_none {σs τs : List Ty} (hlen : σs.length = τs.length) :
    firstDifference? σs τs = none ↔ σs = τs := by
  induction σs generalizing τs with
  | nil =>
      rw [List.length_nil, eq_comm, List.length_eq_zero_iff] at hlen
      simp [hlen, firstDifference?]
  | cons σ σs ih =>
      obtain ⟨τ, τs, rfl⟩ := List.exists_cons_of_length_eq_add_one hlen.symm
      by_cases hστ : σ = τ
      · simp [firstDifference?, hστ, ih (by simpa using hlen)]
      · simp [firstDifference?, hστ]

theorem checkArgs_eq_ok {σs τs : List Ty} {u : Unit} :
    checkArgs σs τs = .ok u ↔ σs = τs := by
  rw [checkArgs]
  by_cases hlen : σs.length = τs.length
  · rw [if_neg (not_not.mpr hlen), ← firstDifference?_eq_none hlen]
    cases firstDifference? σs τs with
    | none => simp
    | some p => simp
  · rw [if_pos hlen]
    have hne : σs ≠ τs := fun h => hlen (congrArg _ h)
    simp [hne]

theorem checkSame_eq_ok {σ τ : Ty} {u : Unit} : checkSame σ τ = .ok u ↔ σ = τ := by
  rw [checkSame]
  by_cases h : σ = τ
  · simp [h]
  · simp [h]

namespace Term

variable {Δ : Signatures} {Γ : Context} {τ : Ty}

attribute [simp] infer

theorem inferAll_eq_mapM (Δ : Signatures) (Γ : Context) (ts : List Term) :
    inferAll Δ Γ ts = ts.mapM (infer Δ Γ) := by
  induction ts with
  | nil => rfl
  | cons t ts ih => rw [inferAll, ih, List.mapM_cons]

theorem infer_var_eq_ok {x : String} :
    (var x).infer Δ Γ = .ok τ ↔ Γ.lookup? x = some τ := by
  rw [infer]
  cases Γ.lookup? x with
  | none => simp
  | some σ => simp

theorem infer_prim_eq_ok {op : Prim} {ts : List Term} :
    (prim op ts).infer Δ Γ = .ok τ ↔ ∃ s, Δ op = some s ∧ s.result = τ ∧
      List.Forall₂ (fun t σ => t.infer Δ Γ = .ok σ) ts s.params := by
  rw [infer]
  cases Δ op with
  | none => simp
  | some s =>
      simp only [inferAll_eq_mapM, bind_eq_ok, mapM_eq_ok, checkArgs_eq_ok, pure_eq_ok,
        Option.some.injEq]
      constructor
      · rintro ⟨τs, hts, -, rfl, hτ⟩
        exact ⟨s, rfl, hτ, hts⟩
      · rintro ⟨s, rfl, hτ, hts⟩
        exact ⟨s.params, hts, (), rfl, hτ⟩

theorem infer_ite_eq_ok {c a b : Term} :
    (ite c a b).infer Δ Γ = .ok τ ↔
      c.infer Δ Γ = .ok .bool ∧ a.infer Δ Γ = .ok τ ∧ b.infer Δ Γ = .ok τ := by
  simp only [infer, bind_eq_ok, checkSame_eq_ok, pure_eq_ok]
  constructor
  · rintro ⟨γ, hc, -, rfl, α, ha, β, hb, -, rfl, rfl⟩
    exact ⟨hc, ha, hb⟩
  · rintro ⟨hc, ha, hb⟩
    exact ⟨_, hc, (), rfl, τ, ha, τ, hb, (), rfl, rfl⟩

theorem infer_letIn_eq_ok {x : String} {v b : Term} :
    (letIn x v b).infer Δ Γ = .ok τ ↔
      ∃ σ, v.infer Δ Γ = .ok σ ∧ b.infer Δ (Γ.extend x σ) = .ok τ := by
  rw [infer, bind_eq_ok]

theorem infer_fix_eq_ok {f : String} {σ : Ty} {b : Term} :
    (fix f σ b).infer Δ Γ = .ok τ ↔ σ = τ ∧ b.infer Δ (Γ.extend f τ) = .ok τ := by
  simp only [infer, bind_eq_ok, checkSame_eq_ok, pure_eq_ok]
  constructor
  · rintro ⟨β, hb, -, rfl, rfl⟩
    exact ⟨rfl, hb⟩
  · rintro ⟨rfl, hb⟩
    exact ⟨σ, hb, (), rfl, rfl⟩

theorem infer_fn_eq_ok {ps : List (String × Ty)} {b : Term} :
    (fn ps b).infer Δ Γ = .ok τ ↔
      ∃ β, b.infer Δ (Γ.extendMany ps) = .ok β ∧ .arrow (ps.map (·.2)) β = τ := by
  simp only [infer, bind_eq_ok, pure_eq_ok]

theorem infer_app_eq_ok {f : Term} {ts : List Term} :
    (app f ts).infer Δ Γ = .ok τ ↔ ∃ σs, f.infer Δ Γ = .ok (.arrow σs τ) ∧
      List.Forall₂ (fun t σ => t.infer Δ Γ = .ok σ) ts σs := by
  rw [infer, bind_eq_ok]
  constructor
  · rintro ⟨φ, hf, h⟩
    cases φ with
    | arrow σs β =>
        simp only [inferAll_eq_mapM, bind_eq_ok, mapM_eq_ok, checkArgs_eq_ok, pure_eq_ok] at h
        obtain ⟨τs, hts, -, rfl, rfl⟩ := h
        exact ⟨σs, hf, hts⟩
    | int => cases h
    | bool => cases h
  · rintro ⟨σs, hf, hts⟩
    refine ⟨_, hf, ?_⟩
    simp only [inferAll_eq_mapM, bind_eq_ok, mapM_eq_ok, checkArgs_eq_ok, pure_eq_ok]
    exact ⟨σs, hts, (), rfl, trivial⟩

/-! ### Contexts matter by the types of the free names -/

private theorem inferAll_congr {Γ Γ' : Context} {ts : List Term}
    (h : ∀ t ∈ ts, t.infer Δ Γ = t.infer Δ Γ') : inferAll Δ Γ ts = inferAll Δ Γ' ts := by
  induction ts with
  | nil => rfl
  | cons t ts ih =>
      rw [inferAll, inferAll, h t (by simp), ih fun u hu => h u (by simp [hu])]

/-- **Contexts that agree on the free names of a term give it the same outcome.** -/
theorem infer_congr {Γ Γ' : Context} {t : Term}
    (h : ∀ x ∈ t.freeNames, Γ.lookup? x = Γ'.lookup? x) : t.infer Δ Γ = t.infer Δ Γ' := by
  induction t using Term.induction generalizing Γ Γ' with
  | int | bool | stray => rfl
  | var x => rw [infer, infer, h x (by simp [freeNames])]
  | prim op ts ih =>
      have hts : inferAll Δ Γ ts = inferAll Δ Γ' ts :=
        inferAll_congr fun t ht => ih t ht fun x hx =>
          h x (mem_freeNamesAll_iff.mpr ⟨t, ht, hx⟩)
      rw [infer, infer, hts]
  | ite c a b ihc iha ihb =>
      simp only [freeNames, List.mem_append] at h
      rw [infer, infer, ihc fun x hx => h x (.inl (.inl hx)),
        iha fun x hx => h x (.inl (.inr hx)), ihb fun x hx => h x (.inr hx)]
  | letIn y v b ihv ihb =>
      simp only [freeNames, List.mem_append, List.mem_filter] at h
      have hb : ∀ σ, b.infer Δ (Γ.extend y σ) = b.infer Δ (Γ'.extend y σ) := fun σ =>
        ihb fun x hx => Context.lookup?_extend_congr σ fun hxy =>
          h x (.inr ⟨hx, by simpa using hxy⟩)
      rw [infer, infer, ihv fun x hx => h x (.inl hx)]
      simp only [hb]
  | fix f σ b ih =>
      simp only [freeNames, List.mem_filter] at h
      have hb : b.infer Δ (Γ.extend f σ) = b.infer Δ (Γ'.extend f σ) :=
        ih fun x hx => Context.lookup?_extend_congr σ fun hxf =>
          h x ⟨hx, by simpa using hxf⟩
      rw [infer, infer, hb]
  | fn ps b ih =>
      simp only [freeNames, List.mem_filter] at h
      have hb : b.infer Δ (Γ.extendMany ps) = b.infer Δ (Γ'.extendMany ps) :=
        ih fun x hx => Context.lookup?_extendMany_congr ps fun hxps =>
          h x ⟨hx, by simpa using hxps⟩
      rw [infer, infer, hb]
  | app f ts ihf ih =>
      simp only [freeNames, List.mem_append] at h
      have hts : inferAll Δ Γ ts = inferAll Δ Γ' ts :=
        inferAll_congr fun t ht => ih t ht fun x hx =>
          h x (.inr (mem_freeNamesAll_iff.mpr ⟨t, ht, hx⟩))
      rw [infer, infer, ihf fun x hx => h x (.inl hx), hts]

theorem infer_of_closed {t : Term} (ht : t.Closed) (Γ : Context) :
    t.infer Δ Γ = t.infer Δ .empty :=
  infer_congr fun x hx => absurd hx (ht x)

/-- The free names of a typed term are bound. -/
theorem lookup?_ne_none_of_infer {t : Term} (ht : t.infer Δ Γ = .ok τ) {x : String}
    (hx : x ∈ t.freeNames) : Γ.lookup? x ≠ none := by
  induction t using Term.induction generalizing Γ τ with
  | int | bool | stray => simp [freeNames] at hx
  | var y =>
      rw [freeNames, List.mem_singleton] at hx
      rw [hx, infer_var_eq_ok.mp ht]
      simp
  | prim op ts ih =>
      obtain ⟨s, -, -, hts⟩ := infer_prim_eq_ok.mp ht
      obtain ⟨t, hmem, hxt⟩ := mem_freeNamesAll_iff.mp hx
      obtain ⟨σ, -, hσ⟩ := exists_of_forall₂_of_mem hts hmem
      exact ih t hmem hσ hxt
  | ite c a b ihc iha ihb =>
      obtain ⟨hc, ha, hb⟩ := infer_ite_eq_ok.mp ht
      simp only [freeNames, List.mem_append] at hx
      rcases hx with (hx | hx) | hx
      · exact ihc hc hx
      · exact iha ha hx
      · exact ihb hb hx
  | letIn y v b ihv ihb =>
      obtain ⟨σ, hv, hb⟩ := infer_letIn_eq_ok.mp ht
      simp only [freeNames, List.mem_append, List.mem_filter, decide_eq_true_eq] at hx
      rcases hx with hx | ⟨hx, hne⟩
      · exact ihv hv hx
      · simpa [Context.lookup?_extend_of_ne _ _ hne] using ihb hb hx
  | fix f σ b ih =>
      obtain ⟨-, hb⟩ := infer_fix_eq_ok.mp ht
      simp only [freeNames, List.mem_filter, decide_eq_true_eq] at hx
      simpa [Context.lookup?_extend_of_ne _ _ hx.2] using ih hb hx.1
  | fn ps b ih =>
      obtain ⟨β, hb, -⟩ := infer_fn_eq_ok.mp ht
      simp only [freeNames, List.mem_filter] at hx
      have hps : x ∉ ps.map (·.1) := by simpa using hx.2
      simpa [Context.lookup?_extendMany_of_not_mem _ hps] using ih hb hx.1
  | app f ts ihf ih =>
      obtain ⟨σs, hf, hts⟩ := infer_app_eq_ok.mp ht
      simp only [freeNames, List.mem_append] at hx
      rcases hx with hx | hx
      · exact ihf hf hx
      · obtain ⟨t, hmem, hxt⟩ := mem_freeNamesAll_iff.mp hx
        obtain ⟨σ, -, hσ⟩ := exists_of_forall₂_of_mem hts hmem
        exact ih t hmem hσ hxt

theorem closed_of_infer {t : Term} (ht : t.infer Δ .empty = .ok τ) : t.Closed :=
  fun _ hx => lookup?_ne_none_of_infer ht hx (Context.lookup?_empty _)

end Term

/-! ### Typed terms in the place of names -/

/--
What stands for a name has the type that `Γ` gives to the name; where nothing stands for it,
`Γ'` gives it the same type.
-/
structure Valuation.Types (Δ : Signatures) (σ : Valuation) (Γ Γ' : Context) : Prop where
  of_some : ∀ x r, σ x = some r → ∃ τ, Γ.lookup? x = some τ ∧ r.infer Δ .empty = .ok τ
  of_none : ∀ x, σ x = none → Γ'.lookup? x = Γ.lookup? x

namespace Valuation

variable {Δ : Signatures} {Γ Γ' : Context} {σ : Valuation}

/-- Contexts that agree on the names of a binder, and are as before elsewhere. -/
theorem Types.hide (hσ : σ.Types Δ Γ Γ') {Γ₁ Γ₁' : Context} {xs : List String}
    (hin : ∀ x ∈ xs, Γ₁'.lookup? x = Γ₁.lookup? x)
    (hout : ∀ x, x ∉ xs → Γ₁.lookup? x = Γ.lookup? x ∧ Γ₁'.lookup? x = Γ'.lookup? x) :
    (σ.hide xs).Types Δ Γ₁ Γ₁' := by
  constructor
  · intro x r hr
    by_cases hx : x ∈ xs
    · simp [Valuation.hide, hx] at hr
    · rw [(hout x hx).1]
      exact hσ.of_some x r (hide_eq_some hr)
  · intro x hnone
    by_cases hx : x ∈ xs
    · exact hin x hx
    · rw [(hout x hx).1, (hout x hx).2]
      exact hσ.of_none x (by simpa [Valuation.hide, hx] using hnone)

theorem Types.extend (hσ : σ.Types Δ Γ Γ') (x : String) (τ : Ty) :
    (σ.hide [x]).Types Δ (Γ.extend x τ) (Γ'.extend x τ) := by
  refine hσ.hide (fun y hy => ?_) fun y hy => ?_
  · rw [List.mem_singleton.mp hy, Context.lookup?_extend_self, Context.lookup?_extend_self]
  · have hne : y ≠ x := by simpa using hy
    rw [Context.lookup?_extend_of_ne _ _ hne, Context.lookup?_extend_of_ne _ _ hne]
    exact ⟨rfl, rfl⟩

theorem Types.extendMany (hσ : σ.Types Δ Γ Γ') (ps : List (String × Ty)) :
    (σ.hide (ps.map (·.1))).Types Δ (Γ.extendMany ps) (Γ'.extendMany ps) := by
  refine hσ.hide (fun y hy => ?_) fun y hy => ?_
  · exact Context.lookup?_extendMany_congr ps fun h => absurd hy h
  · rw [Context.lookup?_extendMany_of_not_mem _ hy, Context.lookup?_extendMany_of_not_mem _ hy]
    exact ⟨rfl, rfl⟩

theorem Types.closed (hσ : σ.Types Δ Γ Γ') : σ.Closed := by
  intro x r hr
  obtain ⟨τ, -, hτ⟩ := hσ.of_some x r hr
  exact Term.closed_of_infer hτ

/-- One more term, for a name that is added to the context. -/
theorem Types.single_or (hσ : σ.Types Δ Γ Γ') {x : String} {r : Term} {τ : Ty}
    (hr : r.infer Δ .empty = .ok τ) : ((single x r).or σ).Types Δ (Γ.extend x τ) Γ' := by
  constructor
  · intro y s hs
    by_cases hy : y = x
    · obtain rfl : r = s := by simpa [Valuation.or, single, hy] using hs
      rw [hy, Context.lookup?_extend_self]
      exact ⟨τ, rfl, hr⟩
    · rw [Context.lookup?_extend_of_ne _ _ hy]
      exact hσ.of_some y s (by simpa [Valuation.or, single, hy] using hs)
  · intro y hnone
    have hy : y ≠ x := by
      intro hy
      simp [Valuation.or, single, hy] at hnone
    rw [Context.lookup?_extend_of_ne _ _ hy]
    exact hσ.of_none y (by simpa [Valuation.or, single, hy] using hnone)

theorem types_single {x : String} {r : Term} {τ : Ty} (hr : r.infer Δ .empty = .ok τ) :
    (single x r).Types Δ (Context.empty.extend x τ) .empty := by
  have hempty : Valuation.empty.Types Δ .empty .empty :=
    ⟨by simp [Valuation.empty], fun _ _ => rfl⟩
  have h := hempty.single_or (x := x) hr
  rwa [or_empty] at h

/--
What is known of each argument and the type of its parameter is known of what stands for a name
and the type of the name.  The last of several equal parameters would give the type and the
first the argument, so they have to be distinct.
-/
theorem exists_lookup?_of_ofArgs {R : Term → Ty → Prop} {ps : List (String × Ty)}
    {vs : List Term} (hnodup : (ps.map (·.1)).Nodup) (hvs : List.Forall₂ R vs (ps.map (·.2)))
    (Γ : Context) {x : String} {r : Term} (hr : ofArgs ps vs x = some r) :
    ∃ τ, (Γ.extendMany ps).lookup? x = some τ ∧ R r τ := by
  induction ps generalizing vs Γ with
  | nil => simp [ofArgs] at hr
  | cons p ps ih =>
      obtain ⟨v, vs, hv, hrest, rfl⟩ := List.forall₂_cons_right_iff.mp hvs
      rw [List.map_cons, List.nodup_cons] at hnodup
      rw [ofArgs_cons] at hr
      rw [Context.extendMany_cons]
      by_cases hx : x = p.1
      · simp only [Valuation.or, single, hx, if_true, Option.some_or, Option.some.injEq] at hr
        rw [hx, ← hr, Context.lookup?_extendMany_of_not_mem _ hnodup.1,
          Context.lookup?_extend_self]
        exact ⟨p.2, rfl, hv⟩
      · simp only [Valuation.or, single, hx, if_false, Option.none_or] at hr
        exact ih hnodup.2 hrest _ hr

theorem types_ofArgs {ps : List (String × Ty)} {vs : List Term}
    (hnodup : (ps.map (·.1)).Nodup)
    (hvs : List.Forall₂ (fun v τ => v.infer Δ .empty = .ok τ) vs (ps.map (·.2))) :
    (ofArgs ps vs).Types Δ (Context.empty.extendMany ps) .empty := by
  constructor
  · intro x r hr
    exact exists_lookup?_of_ofArgs hnodup hvs .empty hr
  · intro x hnone
    have hlen : vs.length = ps.length := by simpa using hvs.length_eq
    have hx : x ∉ ps.map (·.1) := fun hx => ofArgs_ne_none hlen hx hnone
    rw [Context.lookup?_extendMany_of_not_mem _ hx]

end Valuation

namespace Term

variable {Δ : Signatures}

private theorem inferAll_instantiateAll {σ : Valuation} {Γ Γ' : Context} {ts : List Term}
    (h : ∀ t ∈ ts, (t.instantiate σ).infer Δ Γ' = t.infer Δ Γ) :
    inferAll Δ Γ' (instantiateAll σ ts) = inferAll Δ Γ ts := by
  induction ts with
  | nil => rfl
  | cons t ts ih =>
      rw [instantiateAll, inferAll, inferAll, h t (by simp), ih fun u hu => h u (by simp [hu])]

/-- **Putting typed terms in for names changes nothing about the outcome.** -/
theorem infer_instantiate {σ : Valuation} {Γ Γ' : Context} (hσ : σ.Types Δ Γ Γ') (t : Term) :
    (t.instantiate σ).infer Δ Γ' = t.infer Δ Γ := by
  induction t using Term.induction generalizing σ Γ Γ' with
  | int | bool | stray => rfl
  | var x =>
      rcases hx : σ x with _ | r
      · simp only [instantiate, hx, Option.getD_none, infer, hσ.of_none x hx]
      · obtain ⟨τ, hτ, hr⟩ := hσ.of_some x r hx
        simp only [instantiate, hx, Option.getD_some]
        rw [infer_of_closed (closed_of_infer hr), hr, infer, hτ]
  | prim op ts ih =>
      have hts := inferAll_instantiateAll fun t ht => ih t ht hσ
      simp only [instantiate, infer, hts]
  | ite c a b ihc iha ihb => simp only [instantiate, infer, ihc hσ, iha hσ, ihb hσ]
  | letIn y v b ihv ihb =>
      have hb := fun τ => ihb (hσ.extend y τ)
      simp only [instantiate, infer, ihv hσ, hb]
  | fix f τ b ih => simp only [instantiate, infer, ih (hσ.extend f τ)]
  | fn ps b ih => simp only [instantiate, infer, ih (hσ.extendMany ps)]
  | app f ts ihf ih =>
      have hts := inferAll_instantiateAll fun t ht => ih t ht hσ
      simp only [instantiate, infer, ihf hσ, hts]

end Term

end TypedLambda
