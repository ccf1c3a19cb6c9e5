/-
The rules by which a substitution proceeds.

`substWithin` is a recursion with a bound, the drawing of a name is another one, and both are in a
monad that carries the names.  Nothing of that is left here.  `Supply.Searches` says by its
rules how names are drawn until one is found that need not be avoided, and how many draws it takes.
`Replaces names r x t t' names'` says how `t` becomes `t'` when `r` is put in the place of `x`,
with `names'` the names after it.  There is one rule for each thing a substitution can do, with
what it has checked before it does it.

A derivation is finite.  So where there is one, the recursion has come to its end, and
with it the renaming of every binder on the way and the search for every new name.

`replaces_of_run` says that a substitution goes by the rules.  What it needs to know of the
recursion is that a body that was kept from capturing is no higher than before; that is in
`Proofs/Subst/Capture.lean`.
-/
import TypedLambda.Proofs.Subst
import Mathlib.Data.Finset.Card

namespace TypedLambda

/-! ### Searching for a name -/

namespace Supply

/-- Names are drawn until one is outside `avoid`; it takes that many draws, and gives that name. -/
inductive Searches (base : String) (avoid : List String) :
    Nat → Supply → String → Supply → Prop where
  | found {s : Supply} (h : (s.fresh base).1 ∉ avoid) :
      Searches base avoid 1 s (s.fresh base).1 (s.fresh base).2
  | again {k : Nat} {s s' : Supply} {y : String} (h : (s.fresh base).1 ∈ avoid)
      (hrest : Searches base avoid k (s.fresh base).2 y s') : Searches base avoid (k + 1) s y s'

theorem searches_of_first {base : String} {avoid : List String} {k : Nat} {s : Supply}
    (hbelow : ∀ j < k, nameAt base (s.next + j) ∈ avoid)
    (hat : nameAt base (s.next + k) ∉ avoid) :
    Searches base avoid (k + 1) s (nameAt base (s.next + k)) ⟨s.next + k + 1⟩ := by
  induction k generalizing s with
  | zero => exact .found hat
  | succ k ih =>
      have hshift : ∀ j, s.next + (j + 1) = s.next + 1 + j := by omega
      have hrest : Searches base avoid (k + 1) ⟨s.next + 1⟩ (nameAt base (s.next + 1 + k))
          ⟨s.next + 1 + k + 1⟩ := by
        refine ih (fun j hj => ?_) ?_
        · have hmem := hbelow (j + 1) (by omega)
          rwa [hshift] at hmem
        · rwa [hshift] at hat
      rw [hshift]
      exact .again (hbelow 0 (by omega)) hrest

/-- The names of one base in a row that are all to be avoided are at most as many as those. -/
theorem le_card_of_forall_mem {base : String} {avoid : List String} {n k : Nat}
    (h : ∀ j < k, nameAt base (n + j) ∈ avoid) : k ≤ avoid.toFinset.card := by
  obtain ⟨j, hj, hout⟩ := exists_nameAt_not_mem base n avoid.dedup
  rw [List.mem_dedup] at hout
  have hkj : ¬ j < k := fun hlt => hout (h j hlt)
  rw [List.card_toFinset]
  omega

/-- **A search ends after at most one more draw than there are names to avoid.** -/
theorem searches_freshOutside (s : Supply) (base : String) (avoid : List String) :
    ∃ k ≤ avoid.toFinset.card + 1,
      Searches base avoid k s (s.freshOutside base avoid).1 (s.freshOutside base avoid).2 := by
  obtain ⟨k, hdraw, hbelow, hat⟩ := s.freshOutside_spec base avoid
  have hk := le_card_of_forall_mem hbelow
  rw [hdraw]
  exact ⟨k + 1, by omega, searches_of_first hbelow hat⟩

end Supply

namespace Naming

variable {ε α β : Type}

/-- A sequence succeeds if its parts do, one from the names that the other leaves. -/
theorem run_bind_eq_ok {names names' : Naming} {x : ExceptT ε (StateM Naming) α}
    {f : α → ExceptT ε (StateM Naming) β} {b : β} (h : names.run (x >>= f) = (.ok b, names')) :
    ∃ a names₁, names.run x = (.ok a, names₁) ∧ names₁.run (f a) = (.ok b, names') := by
  rw [run_bind] at h
  rcases hx : names.run x with ⟨e | a, names₁⟩
  · rw [hx] at h
    cases h
  · rw [hx] at h
    exact ⟨a, names₁, rfl, h⟩

end Naming

namespace Term

/-! ### The rules -/

mutual

/-- `r` is put in the place of `x`. -/
inductive Replaces : Naming → Term → String → Term → Term → Naming → Prop where
  | int (names : Naming) (r : Term) (x : String) (n : Int) :
      Replaces names r x (.int n) (.int n) names
  | bool (names : Naming) (r : Term) (x : String) (b : Bool) :
      Replaces names r x (.bool b) (.bool b) names
  | target (names : Naming) (r : Term) (x : String) : Replaces names r x (.var x) r names
  | other (names : Naming) (r : Term) {x y : String} (hy : y ≠ x) :
      Replaces names r x (.var y) (.var y) names
  | ite {names names₁ names₂ names₃ : Naming} {r : Term} {x : String} {c a b c' a' b' : Term}
      (hc : Replaces names r x c c' names₁) (ha : Replaces names₁ r x a a' names₂)
      (hb : Replaces names₂ r x b b' names₃) :
      Replaces names r x (.ite c a b) (.ite c' a' b') names₃
  | prim {names names' : Naming} {r : Term} {x : String} (op : Prim) {ts ts' : List Term}
      (hts : ReplacesAll names r x ts ts' names') :
      Replaces names r x (.prim op ts) (.prim op ts') names'
  | app {names names₁ names₂ : Naming} {r : Term} {x : String} {f f' : Term}
      {ts ts' : List Term} (hf : Replaces names r x f f' names₁)
      (hts : ReplacesAll names₁ r x ts ts' names₂) :
      Replaces names r x (.app f ts) (.app f' ts') names₂
  | letShadowed {names names' : Naming} {r : Term} {x : String} {v v' : Term} (b : Term)
      (hv : Replaces names r x v v' names') :
      Replaces names r x (.letIn x v b) (.letIn x v' b) names'
  | letIn {names names₁ names₂ names₃ : Naming} {r : Term} {x y y' : String}
      {v v' b b₁ b' : Term} (hy : y ≠ x) (hv : Replaces names r x v v' names₁)
      (hkept : Avoids names₁ r.freeNames [] y b y' b₁ names₂)
      (hb : Replaces names₂ r x b₁ b' names₃) :
      Replaces names r x (.letIn y v b) (.letIn y' v' b') names₃
  | fixShadowed (names : Naming) (r : Term) (x : String) (τ : Ty) (b : Term) :
      Replaces names r x (.fix x τ b) (.fix x τ b) names
  | fix {names names₁ names₂ : Naming} {r : Term} {x f f' : String} (τ : Ty) {b b₁ b' : Term}
      (hf : f ≠ x) (hkept : Avoids names r.freeNames [] f b f' b₁ names₁)
      (hb : Replaces names₁ r x b₁ b' names₂) :
      Replaces names r x (.fix f τ b) (.fix f' τ b') names₂
  | fnShadowed (names : Naming) (r : Term) {x : String} {ps : List (String × Ty)} (b : Term)
      (hx : x ∈ ps.map (·.1)) : Replaces names r x (.fn ps b) (.fn ps b) names
  /-- The literal is built anew, which needs that no two of its parameters have one name. -/
  | fn {names names₁ names₂ : Naming} {r : Term} {x : String} {ps ps' : List (String × Ty)}
      {b b₁ b' : Term} (hx : x ∉ ps.map (·.1))
      (hkept : AvoidsAll names r.freeNames (ps.map (·.1)) ps b ps' b₁ names₁)
      (hb : Replaces names₁ r x b₁ b' names₂) (hdistinct : (ps'.map (·.1)).Nodup) :
      Replaces names r x (.fn ps b) (.fn ps' b') names₂

/-- `r` is put in the place of `x` in one term after another. -/
inductive ReplacesAll : Naming → Term → String → List Term → List Term → Naming → Prop where
  | nil (names : Naming) (r : Term) (x : String) : ReplacesAll names r x [] [] names
  | cons {names names₁ names₂ : Naming} {r : Term} {x : String} {t t' : Term}
      {ts ts' : List Term} (ht : Replaces names r x t t' names₁)
      (hts : ReplacesAll names₁ r x ts ts' names₂) :
      ReplacesAll names r x (t :: ts) (t' :: ts') names₂

/-- A binder is kept from capturing: it is given a new name, if it needs one. -/
inductive Avoids : Naming → List String → List String → String → Term → String → Term → Naming →
    Prop where
  | keep (names : Naming) {dangerous : List String} (taken : List String) {y : String} (b : Term)
      (hy : y ∉ dangerous) : Avoids names dangerous taken y b y b names
  | rename {names names' : Naming} {dangerous taken : List String} {y y' : String} {b b' : Term}
      {k : Nat} {supply : Supply} (hy : y ∈ dangerous)
      (hsearch : Supply.Searches y (dangerous ++ b.freeNames ++ taken) k names.supply y' supply)
      (hdraws : k ≤ (dangerous ++ b.freeNames ++ taken).toFinset.card + 1)
      (hb : Replaces ⟨supply, ⟨y, y'⟩ :: names.renamed⟩ (.var y') y b b' names') :
      Avoids names dangerous taken y b y' b' names'

/-- The parameters of a literal are kept from capturing, one after another. -/
inductive AvoidsAll : Naming → List String → List String → List (String × Ty) → Term →
    List (String × Ty) → Term → Naming → Prop where
  | nil (names : Naming) (dangerous taken : List String) (b : Term) :
      AvoidsAll names dangerous taken [] b [] b names
  | cons {names names₁ names₂ : Naming} {dangerous taken : List String} {y y' : String} (τ : Ty)
      {ps ps' : List (String × Ty)} {b b₁ b' : Term}
      (hy : Avoids names dangerous taken y b y' b₁ names₁)
      (hps : AvoidsAll names₁ dangerous (y' :: taken) ps b₁ ps' b' names₂) :
      AvoidsAll names dangerous taken ((y, τ) :: ps) b ((y', τ) :: ps') b' names₂

end

/-! ### A substitution goes by the rules -/

/-- What is known of a binder that was kept from capturing, from the run in which it was. -/
theorem keptApart_of_run {n : Nat} {dangerous taken : List String} {y y' : String} {b b' : Term}
    {names names' : Naming} (hb : b.WellFormed) (hn : b.height ≤ n)
    (hrun : names.run (avoidCapture (fun new old body => substWithin n (.var new) old body)
      dangerous taken y b) = (.ok (y', b'), names')) :
    KeptApart names dangerous taken y b y' b' := by
  obtain ⟨y₁, b₁, names₁, hy₁, -, hkept⟩ :=
    run_avoidCapture (substitutesWithin n).renames hb hn dangerous taken y names
  cases hy₁.symm.trans hrun
  exact hkept

/-- A bound of `n` lets substitution go by the rules in terms up to height `n`. -/
def GoesByRules (n : Nat) : Prop :=
  ∀ {r t t' : Term} {x : String} {names names' : Naming}, r.WellFormed → t.WellFormed →
    t.height ≤ n → names.run (substWithin n r x t) = (.ok t', names') →
      Replaces names r x t t' names'

namespace GoesByRules

variable {n : Nat} {names names' : Naming} {r : Term} {x : String}

theorem avoids (h : GoesByRules n) {dangerous taken : List String} {y y' : String} {b b' : Term}
    (hb : b.WellFormed) (hn : b.height ≤ n)
    (hrun : names.run (avoidCapture (fun new old body => substWithin n (.var new) old body)
      dangerous taken y b) = (.ok (y', b'), names')) :
    Avoids names dangerous taken y b y' b' names' := by
  rw [avoidCapture] at hrun
  by_cases hy : y ∈ dangerous
  · rw [if_pos hy, freeNames?_eq_ok hb, Naming.run_bind_ok (names.run_liftExcept_ok _),
      Naming.run_bind_ok (names.run_freshBinder _ _)] at hrun
    obtain ⟨b₁, names₁, hb₁, hret⟩ := Naming.run_bind_eq_ok hrun
    cases hret
    obtain ⟨k, hdraws, hsearch⟩ :=
      names.supply.searches_freshOutside y (dangerous ++ b.freeNames ++ taken)
    exact .rename hy hsearch hdraws (h trivial hb hn hb₁)
  · rw [if_neg hy] at hrun
    cases hrun
    exact .keep names taken b hy

theorem avoidsAll (h : GoesByRules n) {dangerous taken : List String}
    {ps ps' : List (String × Ty)} {b b' : Term} (hb : b.WellFormed) (hn : b.height ≤ n)
    (hrun : names.run (avoidCaptures (fun new old body => substWithin n (.var new) old body)
      dangerous taken ps b) = (.ok (ps', b'), names')) :
    AvoidsAll names dangerous taken ps b ps' b' names' := by
  induction ps generalizing names taken b ps' b' with
  | nil =>
      cases hrun
      exact .nil _ dangerous taken b
  | cons p ps ih =>
      obtain ⟨y, τ⟩ := p
      rw [avoidCaptures] at hrun
      obtain ⟨⟨y', b₁⟩, names₁, hy, hrest⟩ := Naming.run_bind_eq_ok hrun
      obtain ⟨⟨ps₁, b₂⟩, names₂, hps, hret⟩ := Naming.run_bind_eq_ok hrest
      cases hret
      -- the body is as high as before, so the bound is enough for the parameters to come
      have hkept := keptApart_of_run hb hn hy
      exact .cons τ (h.avoids hb hn hy) (ih hkept.wellFormed (hkept.height ▸ hn) hps)

theorem replacesAll (h : GoesByRules n) (hr : r.WellFormed) {ts ts' : List Term}
    (hts : WellFormedAll ts) (hn : heightAll ts ≤ n)
    (hrun : names.run (ts.mapM (substWithin n r x)) = (.ok ts', names')) :
    ReplacesAll names r x ts ts' names' := by
  induction ts generalizing names ts' with
  | nil =>
      cases hrun
      exact .nil _ r x
  | cons t ts ih =>
      obtain ⟨ht, hts⟩ := hts
      rw [heightAll] at hn
      rw [List.mapM_cons] at hrun
      obtain ⟨t', names₁, ht', hrest⟩ := Naming.run_bind_eq_ok hrun
      obtain ⟨ts₁, names₂, hts', hret⟩ := Naming.run_bind_eq_ok hrest
      cases hret
      exact .cons (h hr ht (by omega) ht') (ih hts (by omega) hts')

section

variable (hr : r.WellFormed) {t' : Term}

include hr

theorem fix (h : GoesByRules n) {f : String} {τ : Ty} {b : Term} (hb : b.WellFormed)
    (hn : b.height ≤ n)
    (hrun : names.run (substWithin (n + 1) r x (.fix f τ b)) = (.ok t', names')) :
    Replaces names r x (.fix f τ b) t' names' := by
  rw [substWithin] at hrun
  by_cases hf : f = x
  · rw [if_pos hf] at hrun
    cases hrun
    exact hf ▸ .fixShadowed names r f τ b
  · rw [if_neg hf, freeNames?_eq_ok hr, Naming.run_bind_ok (names.run_liftExcept_ok _)] at hrun
    obtain ⟨⟨f', b₁⟩, names₁, hf', hrest⟩ := Naming.run_bind_eq_ok hrun
    obtain ⟨b', names₂, hb', hret⟩ := Naming.run_bind_eq_ok hrest
    cases hret
    have hkept := keptApart_of_run hb hn hf'
    exact .fix τ hf (h.avoids hb hn hf') (h hr hkept.wellFormed (hkept.height ▸ hn) hb')

theorem letIn (h : GoesByRules n) {y : String} {v b : Term} (hv : v.WellFormed)
    (hb : b.WellFormed) (hvn : v.height ≤ n) (hbn : b.height ≤ n)
    (hrun : names.run (substWithin (n + 1) r x (.letIn y v b)) = (.ok t', names')) :
    Replaces names r x (.letIn y v b) t' names' := by
  rw [substWithin] at hrun
  obtain ⟨v', names₁, hv', hrest⟩ := Naming.run_bind_eq_ok hrun
  have hvalue := h hr hv hvn hv'
  by_cases hy : y = x
  · rw [if_pos hy] at hrest
    cases hrest
    exact hy ▸ .letShadowed b (hy ▸ hvalue)
  · rw [if_neg hy, freeNames?_eq_ok hr, Naming.run_bind_ok (names₁.run_liftExcept_ok _)] at hrest
    obtain ⟨⟨y', b₁⟩, names₂, hy', hrest⟩ := Naming.run_bind_eq_ok hrest
    obtain ⟨b', names₃, hb', hret⟩ := Naming.run_bind_eq_ok hrest
    cases hret
    have hkept := keptApart_of_run hb hbn hy'
    exact .letIn hy hvalue (h.avoids hb hbn hy') (h hr hkept.wellFormed (hkept.height ▸ hbn) hb')

theorem fn (h : GoesByRules n) {ps : List (String × Ty)} {b : Term}
    (hps : (ps.map (·.1)).Nodup) (hb : b.WellFormed) (hn : b.height ≤ n)
    (hrun : names.run (substWithin (n + 1) r x (.fn ps b)) = (.ok t', names')) :
    Replaces names r x (.fn ps b) t' names' := by
  rw [substWithin] at hrun
  by_cases hx : x ∈ ps.map (·.1)
  · rw [if_pos hx] at hrun
    cases hrun
    exact .fnShadowed names r b hx
  · rw [if_neg hx, freeNames?_eq_ok hr, Naming.run_bind_ok (names.run_liftExcept_ok _)] at hrun
    obtain ⟨⟨ps', b₁⟩, names₁, hps', hrest⟩ := Naming.run_bind_eq_ok hrun
    obtain ⟨b', names₂, hb', hret⟩ := Naming.run_bind_eq_ok hrest
    obtain ⟨ps₂, b₂, names₂', hps₂, -, hall⟩ := run_avoidCaptures (substitutesWithin n).renames
      r.freeNames (ps.map (·.1)) [] ps hb hn hps (by simp) names
    cases hps₂.symm.trans hps'
    rw [fn?_eq_ok hall.nodup] at hret
    cases hret
    exact .fn hx (h.avoidsAll hb hn hps') (h hr hall.wellFormed (hall.height ▸ hn) hb') hall.nodup

end

end GoesByRules

/-- **A substitution goes by the rules**, if its bound is not below the height of the term. -/
theorem goesByRules (n : Nat) : GoesByRules n := by
  induction n with
  | zero => exact fun _ _ hn => absurd hn (Nat.not_le.mpr (height_pos _))
  | succ n ih =>
      intro r t t' x names names' hr ht hn hrun
      cases t with
      | int k =>
          cases hrun
          exact .int _ r x k
      | bool k =>
          cases hrun
          exact .bool _ r x k
      | stray s => exact ht.elim
      | var y =>
          rw [substWithin] at hrun
          by_cases hy : y = x
          · rw [if_pos hy] at hrun
            cases hrun
            exact hy ▸ .target _ r y
          · rw [if_neg hy] at hrun
            cases hrun
            exact .other _ r hy
      | ite c a b =>
          obtain ⟨hc, ha, hb⟩ := ht
          simp only [height] at hn
          rw [substWithin] at hrun
          obtain ⟨c', names₁, hc', hrest⟩ := Naming.run_bind_eq_ok hrun
          obtain ⟨a', names₂, ha', hrest⟩ := Naming.run_bind_eq_ok hrest
          obtain ⟨b', names₃, hb', hret⟩ := Naming.run_bind_eq_ok hrest
          cases hret
          exact .ite (ih hr hc (by omega) hc') (ih hr ha (by omega) ha') (ih hr hb (by omega) hb')
      | prim op ts =>
          simp only [height] at hn
          rw [substWithin] at hrun
          obtain ⟨ts', names₁, hts', hret⟩ := Naming.run_bind_eq_ok hrun
          cases hret
          exact .prim op (ih.replacesAll hr ht (by omega) hts')
      | app f ts =>
          simp only [height] at hn
          rw [substWithin] at hrun
          obtain ⟨f', names₁, hf', hrest⟩ := Naming.run_bind_eq_ok hrun
          obtain ⟨ts', names₂, hts', hret⟩ := Naming.run_bind_eq_ok hrest
          cases hret
          exact .app (ih hr ht.1 (by omega) hf') (ih.replacesAll hr ht.2 (by omega) hts')
      | fix f τ b =>
          simp only [height] at hn
          exact ih.fix hr ht (by omega) hrun
      | letIn y v b =>
          simp only [height] at hn
          exact ih.letIn hr ht.1 ht.2 (by omega) (by omega) hrun
      | fn ps b =>
          simp only [height] at hn
          exact ih.fn hr ht.1 ht.2 (by omega) hrun

theorem replaces_of_run {r t t' : Term} {x : String} {names names' : Naming} (hr : r.WellFormed)
    (ht : t.WellFormed) (hrun : names.run (r.subst x t) = (.ok t', names')) :
    Replaces names r x t t' names' :=
  goesByRules t.height hr ht (Nat.le_refl _) hrun

end Term

end TypedLambda
