/-
Terms that differ in nothing but the names of their binders have the same nameless form.

The nameless form of a body is made before its binder is known, and the binder turns names into
references afterwards.  So two bodies are compared with what comes in the place of their free
names: `Leaves s f g` says that `f` and `g` put the same leaf in for two names exactly if the
pairing relates them.  A binder changes both by `leafBelow`, and its names get references that no
name from further out can have, because those count one binder more.
-/
import TypedLambda.Proofs.Alpha
import TypedLambda.Proofs.Nameless

namespace TypedLambda

namespace Nameless

theorem mapFree_succ (f : Nat → String → Nameless) (d : Nat) (t : Nameless) :
    mapFree f (d + 1) t = mapFree (fun e => f (e + 1)) d t := by
  induction t using Nameless.induction generalizing d with
  | int | bool | free | bound | stray => simp only [mapFree]
  | ite c a b ihc iha ihb => simp only [mapFree, ihc, iha, ihb]
  | prim op ts ih =>
      simp only [mapFree, mapFreeAll_eq_map]
      rw [List.map_congr_left fun t ht => ih t ht d]
  | fn τs b ih => simp only [mapFree, ih]
  | fix τ b ih => simp only [mapFree, ih]
  | letIn v b ihv ihb => simp only [mapFree, ihv, ihb]
  | app t ts iht ih =>
      simp only [mapFree, mapFreeAll_eq_map, iht]
      rw [List.map_congr_left fun u hu => ih u hu d]

/-- What comes in the place of a name below a binder, if `f` says it for the names above. -/
def leafBelow (xs : List String) (f : Nat → String → Nameless) (d : Nat) (x : String) : Nameless :=
  if x ∈ xs then bound d (xs.idxOf x) else f (d + 1) x

theorem mapFree_bind (xs : List String) (f : Nat → String → Nameless) (t : Nameless) :
    mapFree f (0 + 1) (bind xs t) = mapFree (leafBelow xs f) 0 t := by
  rw [bind, mapFree_succ, mapFree_mapFree]
  refine mapFree_congr (fun d x _ => ?_) 0
  by_cases hx : x ∈ xs
  · simp [bindName, leafBelow, hx]
  · simp [bindName, leafBelow, hx]

/-- A free name, or a reference to a binder further out than `d` others. -/
def IsLeaf (d : Nat) : Nameless → Prop
  | free _ => True
  | bound e _ => d ≤ e
  | _ => False

theorem IsLeaf.pred {d : Nat} {t : Nameless} (h : t.IsLeaf (d + 1)) : t.IsLeaf d := by
  cases t with
  | free => trivial
  | bound e i => exact Nat.le_of_succ_le h
  | _ => exact h.elim

theorem IsLeaf.leafBelow {xs : List String} {f : Nat → String → Nameless}
    (hf : ∀ d x, (f d x).IsLeaf d) (d : Nat) (x : String) : (leafBelow xs f d x).IsLeaf d := by
  by_cases hx : x ∈ xs
  · rw [Nameless.leafBelow, if_pos hx]
    exact Nat.le_refl d
  · rw [Nameless.leafBelow, if_neg hx]
    exact (hf (d + 1) x).pred

theorem IsLeaf.ne_bound {d i : Nat} {t : Nameless} (h : t.IsLeaf (d + 1)) : t ≠ bound d i := by
  rintro rfl
  exact Nat.not_succ_le_self d h

end Nameless

/-! ### Parameters by position -/

/-- Parameters refer to the same binder if they stand at the same place. -/
theorem Pairing.relates_extendMany {s : Pairing} {ps qs : List (String × Ty)} {x y : String}
    (hlen : ps.length = qs.length) (hps : (ps.map (·.1)).Nodup) (hqs : (qs.map (·.1)).Nodup) :
    (s.extendMany ps qs).Relates x y ↔
      x ∈ ps.map (·.1) ∧ y ∈ qs.map (·.1) ∧ (ps.map (·.1)).idxOf x = (qs.map (·.1)).idxOf y ∨
        x ∉ ps.map (·.1) ∧ y ∉ qs.map (·.1) ∧ s.Relates x y := by
  induction ps generalizing s qs with
  | nil =>
      obtain rfl := List.length_eq_zero_iff.mp hlen.symm
      simp [extendMany]
  | cons p ps ih =>
      obtain ⟨q, qs, rfl⟩ := List.exists_cons_of_length_eq_add_one hlen.symm
      rw [List.map_cons, List.nodup_cons] at hps hqs
      rw [extendMany, ih (by simpa using hlen) hps.2 hqs.2, Relates]
      simp only [List.map_cons, List.mem_cons, List.idxOf_cons]
      grind

/-! ### Leaves -/

/-- The same leaf comes in the place of two names exactly if they are related. -/
structure Leaves (s : Pairing) (f g : Nat → String → Nameless) : Prop where
  eq_iff : ∀ d x y, f d x = g d y ↔ s.Relates x y
  left : ∀ d x, (f d x).IsLeaf d
  right : ∀ d y, (g d y).IsLeaf d

namespace Leaves

variable {s : Pairing} {f g : Nat → String → Nameless}

theorem free : Leaves [] (fun _ => .free) (fun _ => .free) where
  eq_iff _ x y := by rw [Nameless.free.injEq, Pairing.Relates]
  left _ _ := trivial
  right _ _ := trivial

theorem extendMany (h : Leaves s f g) {ps qs : List (String × Ty)}
    (hlen : ps.length = qs.length) (hps : (ps.map (·.1)).Nodup) (hqs : (qs.map (·.1)).Nodup) :
    Leaves (s.extendMany ps qs) (Nameless.leafBelow (ps.map (·.1)) f)
      (Nameless.leafBelow (qs.map (·.1)) g) where
  eq_iff d x y := by
    rw [Pairing.relates_extendMany hlen hps hqs, Nameless.leafBelow, Nameless.leafBelow]
    by_cases hx : x ∈ ps.map (·.1) <;> by_cases hy : y ∈ qs.map (·.1)
    · simp only [hx, hy, if_true, Nameless.bound.injEq, true_and, not_true, false_and, or_false]
    · simp [hx, hy, (h.right (d + 1) y).ne_bound.symm]
    · simp [hx, hy, (h.left (d + 1) x).ne_bound]
    · simp [hx, hy, h.eq_iff]
  left := Nameless.IsLeaf.leafBelow h.left
  right := Nameless.IsLeaf.leafBelow h.right

/-- A binder with one name is one with a single parameter. -/
theorem extend (h : Leaves s f g) (a b : String) :
    Leaves ((a, b) :: s) (Nameless.leafBelow [a] f) (Nameless.leafBelow [b] g) := by
  have hlen : [(a, Ty.int)].length = [(b, Ty.int)].length := rfl
  exact h.extendMany hlen (by simp) (by simp)

end Leaves

namespace Term

mutual

theorem AlphaUnder.mapFree_eq {s : Pairing} {f g : Nat → String → Nameless} {t u : Term}
    (h : AlphaUnder s t u) (hfg : Leaves s f g) (ht : t.WellFormed) (hu : u.WellFormed) :
    t.toNameless.mapFree f 0 = u.toNameless.mapFree g 0 := by
  cases h with
  | int | bool | stray => simp only [toNameless, Nameless.mapFree]
  | @var _ x y h => exact (hfg.eq_iff 0 x y).mpr h
  | ite hc ha hb =>
      simp only [toNameless, Nameless.mapFree, hc.mapFree_eq hfg ht.1 hu.1,
        ha.mapFree_eq hfg ht.2.1 hu.2.1, hb.mapFree_eq hfg ht.2.2 hu.2.2]
  | prim op h => simp only [toNameless, Nameless.mapFree, h.mapFreeAll_eq hfg ht hu]
  | fn htypes h =>
      have hlen := length_eq_of_types htypes
      simp only [toNameless, Nameless.mapFree, Nameless.mapFree_bind, htypes,
        h.mapFree_eq (hfg.extendMany hlen ht.1 hu.1) ht.2 hu.2]
  | fix τ h =>
      simp only [toNameless, Nameless.mapFree, Nameless.mapFree_bind,
        h.mapFree_eq (hfg.extend _ _) ht hu]
  | letIn hv hb =>
      simp only [toNameless, Nameless.mapFree, Nameless.mapFree_bind,
        hv.mapFree_eq hfg ht.1 hu.1, hb.mapFree_eq (hfg.extend _ _) ht.2 hu.2]
  | app hf h =>
      simp only [toNameless, Nameless.mapFree, hf.mapFree_eq hfg ht.1 hu.1,
        h.mapFreeAll_eq hfg ht.2 hu.2]

theorem AlphaAll.mapFreeAll_eq {s : Pairing} {f g : Nat → String → Nameless} {ts us : List Term}
    (h : AlphaAll s ts us) (hfg : Leaves s f g) (hts : WellFormedAll ts)
    (hus : WellFormedAll us) :
    Nameless.mapFreeAll f 0 (toNamelessAll ts) = Nameless.mapFreeAll g 0 (toNamelessAll us) := by
  cases h with
  | nil => rfl
  | cons h hs =>
      simp only [toNamelessAll, Nameless.mapFreeAll, h.mapFree_eq hfg hts.1 hus.1,
        hs.mapFreeAll_eq hfg hts.2 hus.2]

end

mutual

theorem alphaUnder_of_mapFree_eq {s : Pairing} {f g : Nat → String → Nameless} (t u : Term)
    (hfg : Leaves s f g) (ht : t.WellFormed) (hu : u.WellFormed)
    (h : t.toNameless.mapFree f 0 = u.toNameless.mapFree g 0) : AlphaUnder s t u := by
  cases t <;> cases u <;>
    simp only [toNameless, Nameless.mapFree, Nameless.mapFree_bind, Nameless.int.injEq,
      Nameless.bool.injEq, Nameless.ite.injEq, Nameless.prim.injEq, Nameless.fn.injEq,
      Nameless.fix.injEq, Nameless.letIn.injEq, Nameless.app.injEq, Nameless.stray.injEq,
      reduceCtorEq] at h
  case int.int => exact h ▸ .int s _
  case bool.bool => exact h ▸ .bool s _
  case var.var => exact .var ((hfg.eq_iff 0 _ _).mp h)
  case ite.ite =>
    obtain ⟨hc, ha, hb⟩ := h
    exact .ite (alphaUnder_of_mapFree_eq _ _ hfg ht.1 hu.1 hc)
      (alphaUnder_of_mapFree_eq _ _ hfg ht.2.1 hu.2.1 ha)
      (alphaUnder_of_mapFree_eq _ _ hfg ht.2.2 hu.2.2 hb)
  case prim.prim =>
    obtain ⟨rfl, hts⟩ := h
    exact .prim _ (alphaAll_of_mapFreeAll_eq _ _ hfg ht hu hts)
  case fn.fn =>
    obtain ⟨htypes, hb⟩ := h
    have hlen := length_eq_of_types htypes
    exact .fn htypes
      (alphaUnder_of_mapFree_eq _ _ (hfg.extendMany hlen ht.1 hu.1) ht.2 hu.2 hb)
  case fix.fix =>
    obtain ⟨rfl, hb⟩ := h
    exact .fix _ (alphaUnder_of_mapFree_eq _ _ (hfg.extend _ _) ht hu hb)
  case letIn.letIn =>
    obtain ⟨hv, hb⟩ := h
    exact .letIn (alphaUnder_of_mapFree_eq _ _ hfg ht.1 hu.1 hv)
      (alphaUnder_of_mapFree_eq _ _ (hfg.extend _ _) ht.2 hu.2 hb)
  case app.app =>
    obtain ⟨hf, hts⟩ := h
    exact .app (alphaUnder_of_mapFree_eq _ _ hfg ht.1 hu.1 hf)
      (alphaAll_of_mapFreeAll_eq _ _ hfg ht.2 hu.2 hts)
  case stray.stray => exact ht.elim
  -- what is left is a name beside another form, which comes to no leaf
  all_goals
    first
    | exact absurd (hfg.left 0 _) (by rw [h]; exact id)
    | exact absurd (hfg.right 0 _) (by rw [← h]; exact id)

theorem alphaAll_of_mapFreeAll_eq {s : Pairing} {f g : Nat → String → Nameless}
    (ts us : List Term) (hfg : Leaves s f g) (hts : WellFormedAll ts) (hus : WellFormedAll us)
    (h : Nameless.mapFreeAll f 0 (toNamelessAll ts) = Nameless.mapFreeAll g 0 (toNamelessAll us)) :
    AlphaAll s ts us := by
  cases ts <;> cases us <;>
    simp only [toNamelessAll, Nameless.mapFreeAll, List.cons.injEq, reduceCtorEq] at h
  case nil.nil => exact .nil s
  case cons.cons =>
    obtain ⟨ht, hrest⟩ := h
    exact .cons (alphaUnder_of_mapFree_eq _ _ hfg hts.1 hus.1 ht)
      (alphaAll_of_mapFreeAll_eq _ _ hfg hts.2 hus.2 hrest)

end

/--
**Well formed terms are the same but for the names of binders exactly if their nameless forms
are equal.**
-/
theorem alphaEq_iff_toNameless_eq {t u : Term} (ht : t.WellFormed) (hu : u.WellFormed) :
    AlphaEq t u ↔ t.toNameless = u.toNameless := by
  have hform : ∀ t : Term, t.toNameless.mapFree (fun _ => .free) 0 = t.toNameless := fun t =>
    Nameless.mapFree_free 0 t.toNameless
  rw [← hform t, ← hform u]
  exact ⟨fun h => h.mapFree_eq .free ht hu,
    fun h => alphaUnder_of_mapFree_eq t u .free ht hu h⟩

end Term

end TypedLambda
