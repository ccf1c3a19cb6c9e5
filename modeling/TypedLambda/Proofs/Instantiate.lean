/-
Putting closed terms in the place of names.

Evaluation only ever substitutes closed terms into closed surroundings, and then nothing is
dangerous: no binder is renamed, no name is drawn, and substitutions for several names can
be made at once.  `instantiate` is that plain operation.  A valuation says what stands for
each name, and a binder hides its own names from it.

Two substitutions with closed terms, one after the other, are one with the two valuations
put together, the first one first.  This is what turns a list of substitutions, which are made
from left to right, into a single valuation; the parameters of a function are the case that
evaluation needs.
-/
import TypedLambda.Proofs.Naming
import TypedLambda.Proofs.WellFormed

namespace TypedLambda

/-- What stands for each name, if anything does. -/
abbrev Valuation := String → Option Term

namespace Valuation

/-- Nothing stands for any name. -/
def empty : Valuation := fun _ => none

/-- One term for one name. -/
def single (x : String) (r : Term) : Valuation := fun y => if y = x then some r else none

/-- Terms for parameters, in order. -/
def ofArgs (ps : List (String × Ty)) (vs : List Term) : Valuation :=
  fun y => ((ps.map (·.1)).zip vs).lookup y

/-- Below a binder for `xs` nothing stands for them any more. -/
def hide (σ : Valuation) (xs : List String) : Valuation := fun y => if y ∈ xs then none else σ y

/-- The first valuation, and the second for the names that the first leaves out. -/
def or (σ ρ : Valuation) : Valuation := fun y => (σ y).or (ρ y)

def Closed (σ : Valuation) : Prop := ∀ x r, σ x = some r → r.Closed

def WellFormed (σ : Valuation) : Prop := ∀ x r, σ x = some r → r.WellFormed

theorem hide_eq_some {σ : Valuation} {xs : List String} {x : String} {r : Term}
    (h : σ.hide xs x = some r) : σ x = some r := by
  by_cases hx : x ∈ xs
  · simp [hide, hx] at h
  · simpa [hide, hx] using h

theorem Closed.hide {σ : Valuation} (h : σ.Closed) (xs : List String) : (σ.hide xs).Closed :=
  fun x r hr => h x r (hide_eq_some hr)

theorem WellFormed.hide {σ : Valuation} (h : σ.WellFormed) (xs : List String) :
    (σ.hide xs).WellFormed :=
  fun x r hr => h x r (hide_eq_some hr)

theorem Closed.or {σ ρ : Valuation} (hσ : σ.Closed) (hρ : ρ.Closed) : (σ.or ρ).Closed := by
  intro x r hr
  rcases Option.or_eq_some_iff.mp hr with h | ⟨-, h⟩
  · exact hσ x r h
  · exact hρ x r h

theorem WellFormed.or {σ ρ : Valuation} (hσ : σ.WellFormed) (hρ : ρ.WellFormed) :
    (σ.or ρ).WellFormed := by
  intro x r hr
  rcases Option.or_eq_some_iff.mp hr with h | ⟨-, h⟩
  · exact hσ x r h
  · exact hρ x r h

theorem closed_single {r : Term} (hr : r.Closed) (x : String) : (single x r).Closed := by
  intro y s hs
  by_cases hy : y = x
  · simp only [single, hy, if_true, Option.some.injEq] at hs
    exact hs ▸ hr
  · simp [single, hy] at hs

theorem wellFormed_single {r : Term} (hr : r.WellFormed) (x : String) :
    (single x r).WellFormed := by
  intro y s hs
  by_cases hy : y = x
  · simp only [single, hy, if_true, Option.some.injEq] at hs
    exact hs ▸ hr
  · simp [single, hy] at hs

theorem hide_or (σ ρ : Valuation) (xs : List String) :
    (σ.or ρ).hide xs = (σ.hide xs).or (ρ.hide xs) := by
  funext y
  by_cases hy : y ∈ xs
  · simp [hide, Valuation.or, hy]
  · simp [hide, Valuation.or, hy]

theorem or_empty (σ : Valuation) : σ.or empty = σ := by
  funext y
  simp [Valuation.or, empty]

theorem hide_empty (xs : List String) : empty.hide xs = empty := by
  funext y
  simp [hide, empty]

theorem hide_single_of_mem {x : String} {xs : List String} (hx : x ∈ xs) (r : Term) :
    (single x r).hide xs = empty := by
  funext y
  by_cases hy : y ∈ xs
  · simp [hide, empty, hy]
  · have hyx : y ≠ x := fun e => hy (e ▸ hx)
    simp [hide, single, empty, hy, hyx]

theorem hide_single_of_not_mem {x : String} {xs : List String} (hx : x ∉ xs) (r : Term) :
    (single x r).hide xs = single x r := by
  funext y
  by_cases hy : y ∈ xs
  · have hyx : y ≠ x := fun e => hx (e ▸ hy)
    simp [hide, single, hy, hyx]
  · simp [hide, hy]

end Valuation

namespace Term

mutual

@[simp] def instantiate : Valuation → Term → Term
  | _, int n => int n
  | _, bool b => bool b
  | σ, var x => (σ x).getD (var x)
  | σ, ite c a b => ite (instantiate σ c) (instantiate σ a) (instantiate σ b)
  | σ, prim op ts => prim op (instantiateAll σ ts)
  | σ, fn ps b => fn ps (instantiate (σ.hide (ps.map (·.1))) b)
  | σ, fix f τ b => fix f τ (instantiate (σ.hide [f]) b)
  | σ, letIn x v b => letIn x (instantiate σ v) (instantiate (σ.hide [x]) b)
  | σ, app f ts => app (instantiate σ f) (instantiateAll σ ts)
  | _, stray s => stray s

def instantiateAll : Valuation → List Term → List Term
  | _, [] => []
  | σ, t :: ts => instantiate σ t :: instantiateAll σ ts

end

theorem instantiateAll_eq_map (σ : Valuation) (ts : List Term) :
    instantiateAll σ ts = ts.map (instantiate σ) := by
  induction ts with
  | nil => rfl
  | cons t ts ih => simp [instantiateAll, ih]

/-- Only what stands for the free names counts. -/
theorem instantiate_congr {σ ρ : Valuation} {t : Term} (h : ∀ x ∈ t.freeNames, σ x = ρ x) :
    t.instantiate σ = t.instantiate ρ := by
  have hbelow : ∀ {σ ρ : Valuation} {b : Term} (xs : List String),
      (∀ x ∈ b.freeNames, x ∉ xs → σ x = ρ x) → ∀ x ∈ b.freeNames, σ.hide xs x = ρ.hide xs x := by
    intro σ ρ b xs h x hx
    by_cases hxs : x ∈ xs
    · simp [Valuation.hide, hxs]
    · simp [Valuation.hide, hxs, h x hx hxs]
  induction t using Term.induction generalizing σ ρ with
  | int | bool | stray => rfl
  | var x => simp only [instantiate, h x (by simp [freeNames])]
  | ite c a b ihc iha ihb =>
      simp only [freeNames, List.mem_append] at h
      simp only [instantiate]
      rw [ihc fun x hx => h x (.inl (.inl hx)), iha fun x hx => h x (.inl (.inr hx)),
        ihb fun x hx => h x (.inr hx)]
  | prim op ts ih =>
      simp only [instantiate, instantiateAll_eq_map]
      rw [List.map_congr_left fun t ht => ih t ht fun x hx =>
        h x (mem_freeNamesAll_iff.mpr ⟨t, ht, hx⟩)]
  | fn ps b ih =>
      simp only [freeNames, List.mem_filter] at h
      simp only [instantiate]
      rw [ih (hbelow _ fun x hx hps => h x ⟨hx, by simpa using hps⟩)]
  | fix f τ b ih =>
      simp only [freeNames, List.mem_filter] at h
      simp only [instantiate]
      rw [ih (hbelow [f] fun x hx hf => h x ⟨hx, by simpa using hf⟩)]
  | letIn y v b ihv ihb =>
      simp only [freeNames, List.mem_append, List.mem_filter] at h
      simp only [instantiate]
      rw [ihv fun x hx => h x (.inl hx),
        ihb (hbelow [y] fun x hx hy => h x (.inr ⟨hx, by simpa using hy⟩))]
  | app f ts ihf ih =>
      simp only [freeNames, List.mem_append] at h
      simp only [instantiate, instantiateAll_eq_map]
      rw [ihf fun x hx => h x (.inl hx), List.map_congr_left fun t ht => ih t ht fun x hx =>
        h x (.inr (mem_freeNamesAll_iff.mpr ⟨t, ht, hx⟩))]

@[simp] theorem instantiate_empty (t : Term) : t.instantiate Valuation.empty = t := by
  induction t using Term.induction with
  | int | bool | var | stray => rfl
  | ite c a b ihc iha ihb => simp only [instantiate, ihc, iha, ihb]
  | prim op ts ih =>
      simp only [instantiate, instantiateAll_eq_map]
      rw [List.map_congr_left ih, List.map_id']
  | fn ps b ih => simp only [instantiate, Valuation.hide_empty, ih]
  | fix f τ b ih => simp only [instantiate, Valuation.hide_empty, ih]
  | letIn x v b ihv ihb => simp only [instantiate, Valuation.hide_empty, ihv, ihb]
  | app f ts ihf ih =>
      simp only [instantiate, instantiateAll_eq_map, ihf]
      rw [List.map_congr_left ih, List.map_id']

/-- A closed term has no place to put anything in. -/
theorem instantiate_of_closed {t : Term} (ht : t.Closed) (σ : Valuation) : t.instantiate σ = t := by
  have h : t.instantiate σ = t.instantiate .empty :=
    instantiate_congr fun x hx => absurd hx (ht x)
  rw [h, instantiate_empty]

/-- Two valuations one after the other are one. -/
theorem instantiate_instantiate {σ : Valuation} (hσ : σ.Closed) (ρ : Valuation) (t : Term) :
    (t.instantiate σ).instantiate ρ = t.instantiate (σ.or ρ) := by
  induction t using Term.induction generalizing σ ρ with
  | int | bool | stray => rfl
  | var x =>
      rcases hx : σ x with _ | r
      · simp [instantiate, Valuation.or, hx]
      · simp [instantiate, Valuation.or, hx, instantiate_of_closed (hσ x r hx)]
  | ite c a b ihc iha ihb => simp only [instantiate, ihc hσ, iha hσ, ihb hσ]
  | prim op ts ih =>
      simp only [instantiate, instantiateAll_eq_map, List.map_map]
      congr 1
      exact List.map_congr_left fun t ht => ih t ht hσ ρ
  | fn ps b ih => simp only [instantiate, ih (hσ.hide _), Valuation.hide_or]
  | fix f τ b ih => simp only [instantiate, ih (hσ.hide _), Valuation.hide_or]
  | letIn x v b ihv ihb =>
      simp only [instantiate, ihv hσ, ihb (hσ.hide _), Valuation.hide_or]
  | app f ts ihf ih =>
      simp only [instantiate, instantiateAll_eq_map, List.map_map, ihf hσ]
      congr 1
      exact List.map_congr_left fun t ht => ih t ht hσ ρ

private theorem mem_freeNamesAll_instantiateAll {σ : Valuation} {z : String} {ts : List Term}
    (h : ∀ t ∈ ts, (z ∈ (t.instantiate σ).freeNames ↔ z ∈ t.freeNames ∧ σ z = none)) :
    z ∈ freeNamesAll (instantiateAll σ ts) ↔ z ∈ freeNamesAll ts ∧ σ z = none := by
  induction ts with
  | nil => simp [instantiateAll, freeNamesAll]
  | cons t ts ih =>
      simp only [instantiateAll, freeNamesAll, List.mem_append, h t (by simp),
        ih fun u hu => h u (by simp [hu]), or_and_right]

/-- A name stays free if nothing stands for it. -/
theorem mem_freeNames_instantiate {σ : Valuation} (hσ : σ.Closed) {t : Term} {z : String} :
    z ∈ (t.instantiate σ).freeNames ↔ z ∈ t.freeNames ∧ σ z = none := by
  induction t using Term.induction generalizing σ with
  | int | bool | stray => simp [instantiate, freeNames]
  | var x =>
      rcases hx : σ x with _ | r
      · simp only [instantiate, hx, Option.getD_none, freeNames, List.mem_singleton]
        grind
      · have hr : z ∉ r.freeNames := hσ x r hx z
        simp only [instantiate, hx, Option.getD_some, freeNames, List.mem_singleton]
        grind
  | ite c a b ihc iha ihb =>
      simp only [instantiate, freeNames, List.mem_append, ihc hσ, iha hσ, ihb hσ, or_and_right]
  | prim op ts ih => exact mem_freeNamesAll_instantiateAll fun t ht => ih t ht hσ
  | fn ps b ih =>
      simp only [instantiate, freeNames, List.mem_filter, ih (hσ.hide _), Valuation.hide]
      grind
  | fix f τ b ih =>
      simp only [instantiate, freeNames, List.mem_filter, ih (hσ.hide _), Valuation.hide]
      grind
  | letIn x v b ihv ihb =>
      simp only [instantiate, freeNames, List.mem_append, List.mem_filter, ihv hσ,
        ihb (hσ.hide _), Valuation.hide]
      grind
  | app f ts ihf ih =>
      simp only [instantiate, freeNames, List.mem_append, ihf hσ, or_and_right,
        mem_freeNamesAll_instantiateAll fun t ht => ih t ht hσ]

theorem closed_instantiate {σ : Valuation} (hσ : σ.Closed) {t : Term}
    (h : ∀ x ∈ t.freeNames, σ x ≠ none) : (t.instantiate σ).Closed := by
  intro z hz
  obtain ⟨hfree, hnone⟩ := (mem_freeNames_instantiate hσ).mp hz
  exact h z hfree hnone

theorem closed_instantiate_single {x : String} {r t : Term} (hr : r.Closed)
    (ht : ∀ y ∈ t.freeNames, y = x) : (t.instantiate (.single x r)).Closed :=
  closed_instantiate (Valuation.closed_single hr x) fun y hy => by
    simp [Valuation.single, ht y hy]

private theorem wellFormedAll_instantiateAll {σ : Valuation} {ts : List Term}
    (h : ∀ t ∈ ts, (t.instantiate σ).WellFormed) : WellFormedAll (instantiateAll σ ts) := by
  rw [instantiateAll_eq_map, wellFormedAll_iff]
  intro u hu
  obtain ⟨t, ht, rfl⟩ := List.mem_map.mp hu
  exact h t ht

theorem wellFormed_instantiate {σ : Valuation} (hσ : σ.WellFormed) {t : Term}
    (ht : t.WellFormed) : (t.instantiate σ).WellFormed := by
  induction t using Term.induction generalizing σ with
  | int | bool => trivial
  | stray => exact ht.elim
  | var x =>
      rcases hx : σ x with _ | r
      · simp only [instantiate, hx, Option.getD_none, WellFormed]
      · simpa only [instantiate, hx, Option.getD_some] using hσ x r hx
  | ite c a b ihc iha ihb => exact ⟨ihc hσ ht.1, iha hσ ht.2.1, ihb hσ ht.2.2⟩
  | prim op ts ih =>
      exact wellFormedAll_instantiateAll fun t h => ih t h hσ (wellFormedAll_iff.mp ht t h)
  | fn ps b ih => exact ⟨ht.1, ih (hσ.hide _) ht.2⟩
  | fix f τ b ih => exact ih (hσ.hide _) ht
  | letIn x v b ihv ihb => exact ⟨ihv hσ ht.1, ihb (hσ.hide _) ht.2⟩
  | app f ts ihf ih =>
      exact ⟨ihf hσ ht.1,
        wellFormedAll_instantiateAll fun t h => ih t h hσ (wellFormedAll_iff.mp ht.2 t h)⟩

/-! ### Substitution of a closed term -/

theorem avoidCapture_nil (rename : String → String → Term → NamingM Term) (taken : List String)
    (y : String) (b : Term) : avoidCapture rename [] taken y b = pure (y, b) :=
  if_neg (by simp)

theorem avoidCaptures_nil (rename : String → String → Term → NamingM Term)
    (taken : List String) (ps : List (String × Ty)) (b : Term) :
    avoidCaptures rename [] taken ps b = pure (ps, b) := by
  induction ps generalizing taken with
  | nil => rfl
  | cons p ps ih => simp [avoidCaptures, avoidCapture_nil, ih]

theorem substWithin_closed {n : Nat} {r t : Term} (x : String) (hr : r.Closed)
    (hw : r.WellFormed) (ht : t.WellFormed) (hn : t.height ≤ n) :
    substWithin n r x t = pure (t.instantiate (.single x r)) := by
  have hfree : (liftExcept r.freeNames? : NamingM (List String)) = pure [] := by
    rw [freeNames?_eq_ok hw, closed_iff.mp hr]
    rfl
  induction n generalizing t with
  | zero => exact absurd hn (Nat.not_le.mpr t.height_pos)
  | succ n ih =>
      cases t with
      | int | bool => rfl
      | stray s => exact ht.elim
      | var y =>
          by_cases hy : y = x
          · simp [substWithin, instantiate, Valuation.single, hy]
          · simp [substWithin, instantiate, Valuation.single, hy]
      | ite c a b =>
          obtain ⟨hc, ha, hb⟩ := ht
          simp only [height] at hn
          simp [substWithin, instantiate, ih hc (by omega), ih ha (by omega), ih hb (by omega)]
      | prim op ts =>
          simp only [height] at hn
          have hts := mapM_eq_pure fun t h => ih (wellFormedAll_iff.mp ht t h)
            (Nat.le_trans (height_le_heightAll h) (by omega))
          simp [substWithin, instantiate, instantiateAll_eq_map, hts]
      | app f ts =>
          simp only [height] at hn
          have hts := mapM_eq_pure fun t h => ih (wellFormedAll_iff.mp ht.2 t h)
            (Nat.le_trans (height_le_heightAll h) (by omega))
          simp [substWithin, instantiate, instantiateAll_eq_map, ih ht.1 (by omega), hts]
      | fix f τ b =>
          simp only [height] at hn
          rw [substWithin, instantiate]
          by_cases hf : f = x
          · rw [if_pos hf, Valuation.hide_single_of_mem (by simp [hf]), instantiate_empty]
          · rw [if_neg hf, hfree, Valuation.hide_single_of_not_mem (by simpa using Ne.symm hf)]
            simp [avoidCapture_nil, ih (t := b) ht (by omega)]
      | letIn y v b =>
          simp only [height] at hn
          rw [substWithin, instantiate, ih ht.1 (by omega), pure_bind]
          by_cases hy : y = x
          · rw [if_pos hy, Valuation.hide_single_of_mem (by simp [hy]), instantiate_empty]
          · rw [if_neg hy, hfree, Valuation.hide_single_of_not_mem (by simpa using Ne.symm hy)]
            simp [avoidCapture_nil, ih ht.2 (by omega)]
      | fn ps b =>
          simp only [height] at hn
          rw [substWithin, instantiate]
          by_cases hx : x ∈ ps.map (·.1)
          · rw [if_pos hx, Valuation.hide_single_of_mem hx, instantiate_empty]
          · rw [if_neg hx, hfree, Valuation.hide_single_of_not_mem hx]
            simp only [pure_bind, avoidCaptures_nil, ih ht.2 (by omega), fn?_eq_ok ht.1]
            rfl

/-- Substitution of a closed term draws no name and renames no binder. -/
theorem subst_closed {r t : Term} (x : String) (hr : r.Closed) (hw : r.WellFormed)
    (ht : t.WellFormed) : r.subst x t = pure (t.instantiate (.single x r)) :=
  substWithin_closed x hr hw ht (Nat.le_refl _)

end Term

/-! ### Substitutions one after another -/

namespace Valuation

/-- What a list of substitutions puts for each name.  The first one for a name counts. -/
def ofSubsts : List Substitution → Valuation
  | [] => empty
  | s :: ss => (single s.target s.replacement).or (ofSubsts ss)

theorem mem_of_ofSubsts_eq_some {ss : List Substitution} {x : String} {r : Term}
    (h : ofSubsts ss x = some r) : ⟨r, x⟩ ∈ ss := by
  induction ss with
  | nil => cases h
  | cons s ss ih =>
      by_cases hx : x = s.target
      · subst hx
        simp only [ofSubsts, Valuation.or, single, if_true, Option.some_or, Option.some.injEq] at h
        subst h
        exact List.mem_cons_self
      · simp only [ofSubsts, Valuation.or, single, hx, if_false, Option.none_or] at h
        exact List.mem_cons_of_mem _ (ih h)

end Valuation

/-- Substitutions of closed terms may be made one after another or all at once. -/
theorem Substitution.applyAll_eq_instantiate {ss : List Substitution} {t : Term}
    (hclosed : ∀ s ∈ ss, s.replacement.Closed) (hwf : ∀ s ∈ ss, s.replacement.WellFormed)
    (ht : t.WellFormed) : applyAll ss t = pure (t.instantiate (.ofSubsts ss)) := by
  induction ss generalizing t with
  | nil =>
      show pure t = pure (t.instantiate .empty)
      rw [Term.instantiate_empty]
  | cons s ss ih =>
      obtain ⟨hs, hss⟩ := List.forall_mem_cons.mp hclosed
      obtain ⟨hws, hwss⟩ := List.forall_mem_cons.mp hwf
      have hfirst : s.apply t = pure (t.instantiate (.single s.target s.replacement)) :=
        Term.subst_closed s.target hs hws ht
      have hrest := ih hss hwss
        (Term.wellFormed_instantiate (Valuation.wellFormed_single hws s.target) ht)
      rw [Term.instantiate_instantiate (Valuation.closed_single hs _)] at hrest
      rw [applyAll, List.foldlM_cons, hfirst, pure_bind]
      exact hrest

/-! ### Arguments for parameters -/

/-- What is put in for a parameter is one of the arguments. -/
theorem Substitution.replacement_mem {ps : List (String × Ty)} {vs : List Term} {s : Substitution}
    (hs : s ∈ List.zipWith (fun p v => ⟨v, p.1⟩) ps vs) : s.replacement ∈ vs := by
  rw [← List.map_uncurry_zip_eq_zipWith] at hs
  obtain ⟨⟨p, v⟩, hpv, rfl⟩ := List.mem_map.mp hs
  exact (List.of_mem_zip hpv).2

namespace Valuation

theorem ofArgs_cons (p : String × Ty) (ps : List (String × Ty)) (v : Term) (vs : List Term) :
    ofArgs (p :: ps) (v :: vs) = (single p.1 v).or (ofArgs ps vs) := by
  funext y
  by_cases hy : y = p.1
  · simp [ofArgs, Valuation.or, single, hy]
  · have hbeq : (y == p.1) = false := by simpa using hy
    simp [ofArgs, Valuation.or, single, hy, List.lookup_cons, hbeq]

/-- To pass arguments is to substitute each for its parameter. -/
theorem ofSubsts_zipWith (ps : List (String × Ty)) (vs : List Term) :
    ofSubsts (List.zipWith (fun p v => ⟨v, p.1⟩) ps vs) = ofArgs ps vs := by
  induction ps generalizing vs with
  | nil => rfl
  | cons p ps ih =>
      cases vs with
      | nil => rfl
      | cons v vs => rw [List.zipWith_cons_cons, ofSubsts, ih, ofArgs_cons]

theorem mem_of_ofArgs_eq_some {ps : List (String × Ty)} {vs : List Term} {x : String} {r : Term}
    (h : ofArgs ps vs x = some r) : r ∈ vs := by
  rw [← ofSubsts_zipWith] at h
  exact Substitution.replacement_mem (mem_of_ofSubsts_eq_some h)

theorem ofArgs_ne_none {ps : List (String × Ty)} {vs : List Term} (hlen : vs.length = ps.length)
    {x : String} (hx : x ∈ ps.map (·.1)) : ofArgs ps vs x ≠ none := by
  induction ps generalizing vs with
  | nil => simp at hx
  | cons p ps ih =>
      obtain ⟨v, vs, rfl⟩ := List.exists_cons_of_length_eq_add_one hlen
      rw [ofArgs_cons]
      by_cases hxp : x = p.1
      · simp [Valuation.or, single, hxp]
      · have hrest := ih (by simpa using hlen) (by simpa [hxp] using hx)
        simpa [Valuation.or, single, hxp] using hrest

theorem ofArgs_eq_none {ps : List (String × Ty)} {vs : List Term} {x : String}
    (hx : x ∉ ps.map (·.1)) : ofArgs ps vs x = none := by
  induction ps generalizing vs with
  | nil => simp [ofArgs]
  | cons p ps ih =>
      cases vs with
      | nil => simp [ofArgs]
      | cons v vs =>
          rw [List.map_cons, List.mem_cons, not_or] at hx
          simp [ofArgs_cons, Valuation.or, single, hx.1, ih hx.2]

theorem closed_ofArgs {vs : List Term} (hvs : ∀ v ∈ vs, v.Closed) (ps : List (String × Ty)) :
    (ofArgs ps vs).Closed :=
  fun _ _ h => hvs _ (mem_of_ofArgs_eq_some h)

theorem wellFormed_ofArgs {vs : List Term} (hvs : ∀ v ∈ vs, v.WellFormed)
    (ps : List (String × Ty)) : (ofArgs ps vs).WellFormed :=
  fun _ _ h => hvs _ (mem_of_ofArgs_eq_some h)

end Valuation

theorem Term.closed_instantiate_ofArgs {ps : List (String × Ty)} {vs : List Term} {b : Term}
    (hlen : vs.length = ps.length) (hvs : ∀ v ∈ vs, v.Closed) (hb : (fn ps b).Closed) :
    (b.instantiate (.ofArgs ps vs)).Closed :=
  closed_instantiate (Valuation.closed_ofArgs hvs ps) fun x hx =>
    Valuation.ofArgs_ne_none hlen (closed_fn.mp hb x hx)

/-- Closed arguments may be put in one after another or all at once. -/
theorem Substitution.applyAll_closed (ps : List (String × Ty)) {vs : List Term} {b : Term}
    (hvs : ∀ v ∈ vs, v.Closed) (hwvs : ∀ v ∈ vs, v.WellFormed) (hb : b.WellFormed) :
    applyAll (List.zipWith (fun p v => ⟨v, p.1⟩) ps vs) b
      = pure (b.instantiate (.ofArgs ps vs)) := by
  rw [applyAll_eq_instantiate (fun s hs => hvs _ (replacement_mem hs))
    (fun s hs => hwvs _ (replacement_mem hs)) hb, Valuation.ofSubsts_zipWith]

end TypedLambda
