/-
Terms up to the names of their binders.

A nameless term keeps free names as they are and refers to a binder by where it stands:
`bound d i` is parameter `i` of the binder that `d` others stand below.  Everything else
about a term is kept, so two terms have the same nameless form exactly if they differ in
nothing but the names of binders.

Replacing a free name needs no renaming here.  A replacement has no reference to a binder
outside itself, so it can be put below any number of binders as it is, and no name can be
captured because binders have none.  That makes `Nameless.subst` the yardstick for
substitution on terms with names.

Both `subst` and `bind`, which turns names into references to a new binder, change free
names alone.  `mapFree` is what they share, and one composition law and one congruence law
for it give all the laws about the two.
-/
import TypedLambda.Proofs.WellFormed

namespace TypedLambda

inductive Nameless where
  | int (value : Int)
  | bool (value : Bool)
  | free (name : String)
  /-- Parameter `index` of the binder with `depth` binders between it and here. -/
  | bound (depth index : Nat)
  | ite (cond thenBranch elseBranch : Nameless)
  | prim (op : Prim) (operands : List Nameless)
  | fn (types : List Ty) (body : Nameless)
  | fix (type : Ty) (body : Nameless)
  | letIn (value body : Nameless)
  | app (func : Nameless) (args : List Nameless)
  | stray (text : String)
  deriving Inhabited

namespace Nameless

@[elab_as_elim]
theorem induction {P : Nameless → Prop} (int : ∀ n, P (.int n)) (bool : ∀ b, P (.bool b))
    (free : ∀ x, P (.free x)) (bound : ∀ d i, P (.bound d i))
    (ite : ∀ c a b, P c → P a → P b → P (.ite c a b))
    (prim : ∀ op ts, (∀ t ∈ ts, P t) → P (.prim op ts)) (fn : ∀ τs b, P b → P (.fn τs b))
    (fix : ∀ τ b, P b → P (.fix τ b)) (letIn : ∀ v b, P v → P b → P (.letIn v b))
    (app : ∀ f ts, P f → (∀ t ∈ ts, P t) → P (.app f ts)) (stray : ∀ s, P (.stray s))
    (t : Nameless) : P t :=
  @Nameless.rec P (fun ts => ∀ t ∈ ts, P t) int bool free bound ite prim fn fix letIn app stray
    (fun _ h => nomatch h)
    (fun _ _ ht hts u hu => (List.mem_cons.1 hu).elim (fun h => h ▸ ht) (hts u)) t

/-! ### Free names -/

mutual

@[simp] def freeNames : Nameless → List String
  | int _ | bool _ | bound .. | stray _ => []
  | free x => [x]
  | ite c a b => freeNames c ++ freeNames a ++ freeNames b
  | prim _ ts => freeNamesAll ts
  | fn _ b | fix _ b => freeNames b
  | letIn v b => freeNames v ++ freeNames b
  | app f ts => freeNames f ++ freeNamesAll ts

def freeNamesAll : List Nameless → List String
  | [] => []
  | t :: ts => freeNames t ++ freeNamesAll ts

end

theorem mem_freeNamesAll_iff {x : String} {ts : List Nameless} :
    x ∈ freeNamesAll ts ↔ ∃ t ∈ ts, x ∈ t.freeNames := by
  induction ts with
  | nil => simp [freeNamesAll]
  | cons t ts ih => simp [freeNamesAll, ih]

/-! ### Changing free names

`f d x` is what comes in the place of a free `x` with `d` binders above it.
-/

mutual

@[simp] def mapFree (f : Nat → String → Nameless) : Nat → Nameless → Nameless
  | _, int n => int n
  | _, bool b => bool b
  | d, free x => f d x
  | _, bound e i => bound e i
  | d, ite c a b => ite (mapFree f d c) (mapFree f d a) (mapFree f d b)
  | d, prim op ts => prim op (mapFreeAll f d ts)
  | d, fn τs b => fn τs (mapFree f (d + 1) b)
  | d, fix τ b => fix τ (mapFree f (d + 1) b)
  | d, letIn v b => letIn (mapFree f d v) (mapFree f (d + 1) b)
  | d, app t ts => app (mapFree f d t) (mapFreeAll f d ts)
  | _, stray s => stray s

def mapFreeAll (f : Nat → String → Nameless) : Nat → List Nameless → List Nameless
  | _, [] => []
  | d, t :: ts => mapFree f d t :: mapFreeAll f d ts

end

theorem mapFreeAll_eq_map (f : Nat → String → Nameless) (d : Nat) (ts : List Nameless) :
    mapFreeAll f d ts = ts.map (mapFree f d) := by
  induction ts with
  | nil => rfl
  | cons t ts ih => simp [mapFreeAll, ih]

/-- Only what happens to the free names counts. -/
theorem mapFree_congr {f g : Nat → String → Nameless} {t : Nameless}
    (h : ∀ d, ∀ x ∈ t.freeNames, f d x = g d x) (d : Nat) : mapFree f d t = mapFree g d t := by
  induction t using Nameless.induction generalizing d with
  | int | bool | bound | stray => simp only [mapFree]
  | free x => exact h d x (by simp [freeNames])
  | ite c a b ihc iha ihb =>
      simp only [freeNames, List.mem_append] at h
      simp only [mapFree]
      rw [ihc (fun d x hx => h d x (.inl (.inl hx))) d,
        iha (fun d x hx => h d x (.inl (.inr hx))) d, ihb (fun d x hx => h d x (.inr hx)) d]
  | prim op ts ih =>
      simp only [mapFree, mapFreeAll_eq_map]
      congr 1
      refine List.map_congr_left fun t ht => ih t ht (fun d x hx => h d x ?_) d
      exact mem_freeNamesAll_iff.mpr ⟨t, ht, hx⟩
  | fn τs b ih => simp only [mapFree, ih h]
  | fix τ b ih => simp only [mapFree, ih h]
  | letIn v b ihv ihb =>
      simp only [freeNames, List.mem_append] at h
      simp only [mapFree]
      rw [ihv (fun d x hx => h d x (.inl hx)) d, ihb (fun d x hx => h d x (.inr hx)) (d + 1)]
  | app t ts iht ih =>
      simp only [freeNames, List.mem_append] at h
      simp only [mapFree, mapFreeAll_eq_map]
      rw [iht (fun d x hx => h d x (.inl hx)) d]
      congr 1
      refine List.map_congr_left fun u hu => ih u hu (fun d x hx => h d x (.inr ?_)) d
      exact mem_freeNamesAll_iff.mpr ⟨u, hu, hx⟩

theorem mapFree_free (d : Nat) (t : Nameless) : mapFree (fun _ => free) d t = t := by
  induction t using Nameless.induction generalizing d with
  | int | bool | free | bound | stray => simp only [mapFree]
  | ite c a b ihc iha ihb => simp only [mapFree, ihc, iha, ihb]
  | prim op ts ih =>
      simp only [mapFree, mapFreeAll_eq_map]
      rw [List.map_congr_left fun t ht => ih t ht d, List.map_id']
  | fn τs b ih => simp only [mapFree, ih]
  | fix τ b ih => simp only [mapFree, ih]
  | letIn v b ihv ihb => simp only [mapFree, ihv, ihb]
  | app t ts iht ih =>
      simp only [mapFree, mapFreeAll_eq_map, iht]
      rw [List.map_congr_left fun u hu => ih u hu d, List.map_id']

theorem mapFree_mapFree (f g : Nat → String → Nameless) (d : Nat) (t : Nameless) :
    mapFree g d (mapFree f d t) = mapFree (fun e x => mapFree g e (f e x)) d t := by
  induction t using Nameless.induction generalizing d with
  | int | bool | free | bound | stray => simp only [mapFree]
  | ite c a b ihc iha ihb => simp only [mapFree, ihc, iha, ihb]
  | prim op ts ih =>
      simp only [mapFree, mapFreeAll_eq_map, List.map_map]
      congr 1
      exact List.map_congr_left fun t ht => ih t ht d
  | fn τs b ih => simp only [mapFree, ih]
  | fix τ b ih => simp only [mapFree, ih]
  | letIn v b ihv ihb => simp only [mapFree, ihv, ihb]
  | app t ts iht ih =>
      simp only [mapFree, mapFreeAll_eq_map, List.map_map, iht]
      congr 1
      exact List.map_congr_left fun u hu => ih u hu d

private theorem mem_freeNamesAll_mapFreeAll {f : Nat → String → Nameless} {z : String}
    {P : String → Prop} {d : Nat} {ts : List Nameless}
    (h : ∀ t ∈ ts, (z ∈ (mapFree f d t).freeNames ↔ ∃ x ∈ t.freeNames, P x)) :
    z ∈ freeNamesAll (mapFreeAll f d ts) ↔ ∃ x ∈ freeNamesAll ts, P x := by
  induction ts with
  | nil => simp [mapFreeAll, freeNamesAll]
  | cons t ts ih =>
      simp only [mapFreeAll, freeNamesAll, List.mem_append, h t (by simp),
        ih fun u hu => h u (by simp [hu]), or_and_right, exists_or]

/-- A name is free after a change if it is free in what some free name is changed to. -/
theorem mem_freeNames_mapFree {f : Nat → String → Nameless} {z : String} {P : String → Prop}
    (h : ∀ d x, z ∈ (f d x).freeNames ↔ P x) (d : Nat) (t : Nameless) :
    z ∈ (mapFree f d t).freeNames ↔ ∃ x ∈ t.freeNames, P x := by
  induction t using Nameless.induction generalizing d with
  | int | bool | bound | stray => simp [mapFree, freeNames]
  | free x => simp [mapFree, freeNames, h]
  | ite c a b ihc iha ihb =>
      simp only [mapFree, freeNames, List.mem_append, ihc, iha, ihb, or_and_right, exists_or]
  | prim op ts ih => exact mem_freeNamesAll_mapFreeAll fun t ht => ih t ht d
  | fn τs b ih => exact ih (d + 1)
  | fix τ b ih => exact ih (d + 1)
  | letIn v b ihv ihb =>
      simp only [mapFree, freeNames, List.mem_append, ihv, ihb, or_and_right, exists_or]
  | app t ts iht ih =>
      simp only [mapFree, freeNames, List.mem_append, iht,
        mem_freeNamesAll_mapFreeAll fun u hu => ih u hu d, or_and_right, exists_or]

/-! ### Replacing a free name -/

/-- `subst r x t` is `t` with `r` in place of every free `x`. -/
def subst (r : Nameless) (x : String) : Nameless → Nameless :=
  mapFree (fun _ y => if y = x then r else free y) 0

theorem mapFree_depth (f : String → Nameless) (d e : Nat) (t : Nameless) :
    mapFree (fun _ => f) d t = mapFree (fun _ => f) e t := by
  induction t using Nameless.induction generalizing d e with
  | int | bool | free | bound | stray => simp only [mapFree]
  | ite c a b ihc iha ihb => simp only [mapFree, ihc d e, iha d e, ihb d e]
  | prim op ts ih =>
      simp only [mapFree, mapFreeAll_eq_map]
      rw [List.map_congr_left fun t ht => ih t ht d e]
  | fn τs b ih => simp only [mapFree, ih (d + 1) (e + 1)]
  | fix τ b ih => simp only [mapFree, ih (d + 1) (e + 1)]
  | letIn v b ihv ihb => simp only [mapFree, ihv d e, ihb (d + 1) (e + 1)]
  | app t ts iht ih =>
      simp only [mapFree, mapFreeAll_eq_map, iht d e]
      rw [List.map_congr_left fun u hu => ih u hu d e]

section

variable (r : Nameless) (x : String)

@[simp] theorem subst_int (n : Int) : subst r x (int n) = int n := rfl

@[simp] theorem subst_bool (b : Bool) : subst r x (bool b) = bool b := rfl

@[simp] theorem subst_free (y : String) :
    subst r x (free y) = if y = x then r else free y := rfl

@[simp] theorem subst_ite (c a b : Nameless) :
    subst r x (ite c a b) = ite (subst r x c) (subst r x a) (subst r x b) := rfl

@[simp] theorem subst_prim (op : Prim) (ts : List Nameless) :
    subst r x (prim op ts) = prim op (ts.map (subst r x)) := by
  simp only [subst, mapFree, mapFreeAll_eq_map]

@[simp] theorem subst_fn (τs : List Ty) (b : Nameless) :
    subst r x (fn τs b) = fn τs (subst r x b) :=
  congrArg (fn τs) (mapFree_depth _ 1 0 b)

@[simp] theorem subst_fix (τ : Ty) (b : Nameless) :
    subst r x (fix τ b) = fix τ (subst r x b) :=
  congrArg (fix τ) (mapFree_depth _ 1 0 b)

@[simp] theorem subst_letIn (v b : Nameless) :
    subst r x (letIn v b) = letIn (subst r x v) (subst r x b) :=
  congrArg (letIn (subst r x v)) (mapFree_depth _ 1 0 b)

@[simp] theorem subst_app (t : Nameless) (ts : List Nameless) :
    subst r x (app t ts) = app (subst r x t) (ts.map (subst r x)) := by
  simp only [subst, mapFree, mapFreeAll_eq_map]

end

theorem mem_freeNames_subst {r t : Nameless} {x z : String} :
    z ∈ (subst r x t).freeNames ↔
      z ∈ t.freeNames ∧ z ≠ x ∨ x ∈ t.freeNames ∧ z ∈ r.freeNames := by
  have hleaf : ∀ (_ : Nat) (y : String),
      z ∈ (if y = x then r else free y).freeNames ↔ y = z ∧ z ≠ x ∨ y = x ∧ z ∈ r.freeNames := by
    intro _ y
    by_cases hy : y = x
    · simp only [hy, if_true]
      grind
    · simp only [hy, if_false, freeNames, List.mem_singleton]
      grind
  rw [subst, mem_freeNames_mapFree hleaf]
  grind

theorem subst_eq_self {x : String} {t : Nameless} (h : x ∉ t.freeNames) (r : Nameless) :
    subst r x t = t := by
  have hleaf : ∀ (_ : Nat), ∀ y ∈ t.freeNames, (if y = x then r else free y) = free y :=
    fun _ y hy => if_neg fun e : y = x => h (e ▸ hy)
  rw [subst, mapFree_congr hleaf, mapFree_free]

/-! ### Binding names -/

/-- A name as a reference to a binder `d` binders out, if it is one of its parameters. -/
def bindName (xs : List String) (d : Nat) (y : String) : Nameless :=
  if y ∈ xs then bound d (xs.idxOf y) else free y

/-- Turns names into references to a new binder around the term, whose parameters they are. -/
def bind (xs : List String) : Nameless → Nameless :=
  mapFree (bindName xs) 0

theorem mem_freeNames_bind {xs : List String} {t : Nameless} {z : String} :
    z ∈ (bind xs t).freeNames ↔ z ∈ t.freeNames ∧ z ∉ xs := by
  have hleaf : ∀ (d : Nat) (y : String), z ∈ (bindName xs d y).freeNames ↔ y = z ∧ z ∉ xs := by
    intro d y
    by_cases hy : y ∈ xs
    · simp only [bindName, hy, if_true, freeNames]
      grind
    · simp only [bindName, hy, if_false, freeNames, List.mem_singleton]
      grind
  rw [bind, mem_freeNames_mapFree hleaf]
  grind

theorem mapFree_bindName_eq_self {xs : List String} {t : Nameless}
    (h : ∀ y ∈ xs, y ∉ t.freeNames) (d : Nat) : mapFree (bindName xs) d t = t := by
  have hleaf : ∀ d, ∀ y ∈ t.freeNames, bindName xs d y = free y :=
    fun _ y hy => if_neg fun hxs => h y hxs hy
  rw [mapFree_congr hleaf, mapFree_free]

/--
Below a binder that neither binds the target nor captures from the replacement, a name is
replaced as it is outside.
-/
theorem subst_bind {r : Nameless} {x : String} {xs : List String} (hx : x ∉ xs)
    (hr : ∀ y ∈ xs, y ∉ r.freeNames) (t : Nameless) :
    subst r x (bind xs t) = bind xs (subst r x t) := by
  simp only [subst, bind, mapFree_mapFree]
  refine mapFree_congr (fun d y _ => ?_) 0
  by_cases hyx : y = x
  · -- The target becomes the replacement, in which `bind` finds nothing to do.
    subst hyx
    simp [bindName, hx, mapFree, mapFree_bindName_eq_self hr]
  · by_cases hy : y ∈ xs
    · simp [bindName, hy, hyx, mapFree]
    · simp [bindName, hy, hyx, mapFree]

/-- A binder for the target leaves nothing to replace below it. -/
theorem subst_bind_of_mem {x : String} {xs : List String} (hx : x ∈ xs) (r t : Nameless) :
    subst r x (bind xs t) = bind xs t :=
  subst_eq_self (fun h => (mem_freeNames_bind.mp h).2 hx) r

private theorem bindName_rename {xs ys : List String} {y z w : String} (hwy : w ≠ y)
    (hwz : w ≠ z) (d : Nat) :
    bindName (xs ++ z :: ys) d w = bindName (xs ++ y :: ys) d w := by
  have hzw : (z == w) = false := by simpa using hwz.symm
  have hyw : (y == w) = false := by simpa using hwy.symm
  simp [bindName, List.idxOf_append, List.idxOf_cons, hwy, hwz, hzw, hyw]

/--
Renaming one parameter of a binder, here and in the body, changes nothing, if the new name
is neither free in the body nor that of an earlier parameter.
-/
theorem bind_rename {xs ys : List String} {y z : String} {t : Nameless} (hz : z ∉ t.freeNames)
    (hy : y ∉ xs) (hzxs : z ∉ xs) :
    bind (xs ++ z :: ys) (subst (free z) y t) = bind (xs ++ y :: ys) t := by
  simp only [subst, bind, mapFree_mapFree]
  refine mapFree_congr (fun d w hw => ?_) 0
  have hwz : w ≠ z := fun e => hz (e ▸ hw)
  by_cases hwy : w = y
  · subst hwy
    simp [bindName, mapFree, List.idxOf_append, hy, hzxs]
  · simp only [hwy, if_false, mapFree]
    exact bindName_rename hwy hwz d

end Nameless

/-! ### The nameless form of a term -/

namespace Term

mutual

def toNameless : Term → Nameless
  | int n => .int n
  | bool b => .bool b
  | var x => .free x
  | ite c a b => .ite (toNameless c) (toNameless a) (toNameless b)
  | prim op ts => .prim op (toNamelessAll ts)
  | fn ps b => .fn (ps.map (·.2)) ((toNameless b).bind (ps.map (·.1)))
  | fix f τ b => .fix τ ((toNameless b).bind [f])
  | letIn x v b => .letIn (toNameless v) ((toNameless b).bind [x])
  | app f ts => .app (toNameless f) (toNamelessAll ts)
  | stray s => .stray s

def toNamelessAll : List Term → List Nameless
  | [] => []
  | t :: ts => toNameless t :: toNamelessAll ts

end

private theorem mem_freeNamesAll_toNamelessAll {z : String} {ts : List Term}
    (h : ∀ t ∈ ts, (z ∈ t.toNameless.freeNames ↔ z ∈ t.freeNames)) :
    z ∈ Nameless.freeNamesAll (toNamelessAll ts) ↔ z ∈ freeNamesAll ts := by
  induction ts with
  | nil => simp [toNamelessAll, freeNamesAll, Nameless.freeNamesAll]
  | cons t ts ih =>
      simp only [toNamelessAll, freeNamesAll, Nameless.freeNamesAll, List.mem_append,
        h t (by simp), ih fun u hu => h u (by simp [hu])]

theorem mem_freeNames_toNameless {t : Term} {z : String} :
    z ∈ t.toNameless.freeNames ↔ z ∈ t.freeNames := by
  induction t using Term.induction with
  | int | bool | var | stray => simp [toNameless, freeNames, Nameless.freeNames]
  | ite c a b ihc iha ihb => simp [toNameless, freeNames, Nameless.freeNames, ihc, iha, ihb]
  | prim op ts ih => exact mem_freeNamesAll_toNamelessAll ih
  | fn ps b ih =>
      simp [toNameless, freeNames, Nameless.freeNames, Nameless.mem_freeNames_bind, ih]
  | fix f τ b ih =>
      simp [toNameless, freeNames, Nameless.freeNames, Nameless.mem_freeNames_bind, ih]
  | letIn x v b ihv ihb =>
      simp [toNameless, freeNames, Nameless.freeNames, Nameless.mem_freeNames_bind, ihv, ihb]
  | app f ts ihf ih =>
      simp [toNameless, freeNames, Nameless.freeNames, ihf, mem_freeNamesAll_toNamelessAll ih]

end Term

end TypedLambda
