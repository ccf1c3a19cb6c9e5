/-
What operations on an acyclic store do to a type.

Each of them is a recursion along arrows and bindings with a bound on its depth.  If the paths
from a type end within the bound, a larger bound changes nothing; in an acyclic store the weight
is such a bound, and the operations satisfy the equations of the recursion without one.  After
that no proof has to look at a bound again.

Three facts are read off the equations.  A resolved type mentions no bound cell, the occurs check
finds a cell exactly if the cell is met, and a type resolves to an arrow exactly if its
outermost bindings lead to one.
-/
import TypedLambda.Mono.Unify
import TypedLambda.Proofs.Results
import TypedLambda.Proofs.Store

namespace TypedLambda.Store

variable {S : Store}

/-! ### Bounds that are large enough -/

theorem EndsWithin.resolveWithin_succ {n : Nat} {t : MonoTy} (h : S.EndsWithin n t) :
    S.resolveWithin (n + 1) t = S.resolveWithin n t := by
  induction h with
  | int | bool | stray => rfl
  | unbound _ hi => simp only [resolveWithin, hi]
  | bound hi _ ih =>
      rw [resolveWithin, resolveWithin, hi]
      exact ih
  | arrow _ _ iha ihr => rw [resolveWithin, resolveWithin, iha, ihr]

theorem EndsWithin.occursWithin_succ (i : Nat) {n : Nat} {t : MonoTy} (h : S.EndsWithin n t) :
    S.occursWithin i (n + 1) t = S.occursWithin i n t := by
  induction h with
  | int | bool | stray => rfl
  | unbound _ hj => simp only [occursWithin, hj]
  | bound hj _ ih =>
      rw [occursWithin, occursWithin, hj]
      simp only [ih]
  | arrow _ _ iha ihr => rw [occursWithin, occursWithin, iha, ihr]

theorem EndsWithin.renderWithin_succ {n : Nat} {t : MonoTy} (h : S.EndsWithin n t) :
    S.renderWithin (n + 1) t = S.renderWithin n t := by
  induction h with
  | int | bool | stray => rfl
  | unbound _ hi => simp only [renderWithin, hi]
  | bound hi _ ih =>
      rw [renderWithin, renderWithin, hi]
      exact ih
  | @arrow n a r _ _ iha ihr =>
      -- an argument that is an arrow is written in brackets
      cases a with
      | arrow => rw [renderWithin, renderWithin, iha, ihr]
      | int | bool | var | stray =>
          show S.renderWithin (n + 1) _ ++ " -> " ++ S.renderWithin (n + 1) r
            = S.renderWithin n _ ++ " -> " ++ S.renderWithin n r
          rw [iha, ihr]

section

variable {α : Type} {f : Nat → MonoTy → α}
  (hf : ∀ {n : Nat} {t : MonoTy}, S.EndsWithin n t → f (n + 1) t = f n t)

include hf

theorem EndsWithin.eq_of_le {m n : Nat} {t : MonoTy} (h : S.EndsWithin m t) (hmn : m ≤ n) :
    f n t = f m t := by
  induction hmn with
  | refl => rfl
  | step hmk ih => rw [hf (h.mono hmk), ih]

/-- Every bound that is large enough does what the weight does. -/
theorem Acyclic.eq_weight (hS : S.Acyclic) {n : Nat} {t : MonoTy} (h : S.EndsWithin n t) :
    f n t = f (S.weight t) t := by
  rcases Nat.le_total n (S.weight t) with hle | hle
  · exact (h.eq_of_le hf hle).symm
  · exact (hS.endsWithin t).eq_of_le hf hle

end

/-! ### Resolving -/

namespace Acyclic

variable (hS : S.Acyclic)

include hS

theorem resolveWithin_eq {n : Nat} {t : MonoTy} (h : S.EndsWithin n t) :
    S.resolveWithin n t = S.resolve t :=
  hS.eq_weight EndsWithin.resolveWithin_succ h

theorem resolve_int : S.resolve .int = .int :=
  (hS.resolveWithin_eq (.int 0)).symm

theorem resolve_bool : S.resolve .bool = .bool :=
  (hS.resolveWithin_eq (.bool 0)).symm

theorem resolve_stray (s : String) : S.resolve (.stray s) = .stray s :=
  (hS.resolveWithin_eq (.stray 0 s)).symm

theorem resolve_of_unbound {i : Nat} (hi : S.lookup? i = none) :
    S.resolve (.var i) = .var i := by
  rw [← hS.resolveWithin_eq (.unbound 0 hi)]
  simp only [resolveWithin, hi]

theorem resolve_of_bound {i : Nat} {u : MonoTy} (hi : S.lookup? i = some u) :
    S.resolve (.var i) = S.resolve u := by
  rw [← hS.resolveWithin_eq (.bound hi (hS.endsWithin u))]
  simp only [resolveWithin, hi, resolve]

theorem resolve_arrow (a r : MonoTy) :
    S.resolve (.arrow a r) = .arrow (S.resolve a) (S.resolve r) := by
  have ha := (hS.endsWithin a).mono (Nat.le_max_left (S.weight a) (S.weight r))
  have hr := (hS.endsWithin r).mono (Nat.le_max_right (S.weight a) (S.weight r))
  rw [← hS.resolveWithin_eq (.arrow ha hr), resolveWithin, hS.resolveWithin_eq ha,
    hS.resolveWithin_eq hr]

/-- Induction along bindings and arrows, with one case for all that is resolved as it stands. -/
theorem resolve_induction {P : MonoTy → Prop} (resolved : ∀ t, S.resolve t = t → P t)
    (bound : ∀ i u, S.lookup? i = some u → P u → P (.var i))
    (arrow : ∀ a r, P a → P r → P (.arrow a r)) (t : MonoTy) : P t := by
  induction t using hS.induction with
  | int => exact resolved _ hS.resolve_int
  | bool => exact resolved _ hS.resolve_bool
  | stray s => exact resolved _ (hS.resolve_stray s)
  | unbound i hi => exact resolved _ (hS.resolve_of_unbound hi)
  | bound i u hi ih => exact bound i u hi ih
  | arrow a r iha ihr => exact arrow a r iha ihr

/-- The cells of a resolved type are unbound, and they were met. -/
theorem of_mem_cells_resolve {t : MonoTy} {i : Nat} (h : i ∈ (S.resolve t).cells) :
    S.lookup? i = none ∧ S.Meets t i := by
  induction t using hS.induction with
  | int =>
      rw [hS.resolve_int] at h
      cases h
  | bool =>
      rw [hS.resolve_bool] at h
      cases h
  | stray s =>
      rw [hS.resolve_stray] at h
      cases h
  | unbound j hj =>
      rw [hS.resolve_of_unbound hj, MonoTy.cells, List.mem_singleton] at h
      rw [h]
      exact ⟨hj, .here j⟩
  | bound j u hj ih =>
      rw [hS.resolve_of_bound hj] at h
      exact ⟨(ih h).1, .follow hj (ih h).2⟩
  | arrow a r iha ihr =>
      rw [hS.resolve_arrow, MonoTy.cells, List.mem_append] at h
      rcases h with h | h
      · exact ⟨(iha h).1, .arg r (iha h).2⟩
      · exact ⟨(ihr h).1, .ret a (ihr h).2⟩

theorem proper_resolve (hp : S.All MonoTy.Proper) {t : MonoTy} (ht : t.Proper) :
    (S.resolve t).Proper := by
  induction t using hS.induction with
  | int => rw [hS.resolve_int]; trivial
  | bool => rw [hS.resolve_bool]; trivial
  | stray s => exact ht.elim
  | unbound i hi => rw [hS.resolve_of_unbound hi]; trivial
  | bound i u hi ih => rw [hS.resolve_of_bound hi]; exact ih (hp i u hi)
  | arrow a r iha ihr => rw [hS.resolve_arrow]; exact ⟨iha ht.1, ihr ht.2⟩

end Acyclic

/-! ### The occurs check -/

theorem EndsWithin.meets_iff {n i : Nat} {t : MonoTy} (h : S.EndsWithin n t) {b : Bool}
    (hb : S.occursWithin i n t = .ok b) : b = true ↔ S.Meets t i := by
  induction h generalizing b with
  | int =>
      cases hb
      simpa using not_meets_int i
  | bool =>
      cases hb
      simpa using not_meets_bool i
  | stray => cases hb
  | @unbound n j hj =>
      by_cases hji : j = i
      · subst hji
        simp only [occursWithin, if_true, Except.ok.injEq] at hb
        simpa [← hb] using Meets.here j
      · simp only [occursWithin, hj, hji, if_false, Except.ok.injEq] at hb
        rw [← hb, meets_var_of_unbound hj]
        simpa using Ne.symm hji
  | @bound n j u hj _ ih =>
      by_cases hji : j = i
      · subst hji
        simp only [occursWithin, if_true, Except.ok.injEq] at hb
        simpa [← hb] using Meets.here j
      · simp only [occursWithin, hj, hji, if_false] at hb
        rw [ih hb, meets_var_of_bound hj]
        simp [Ne.symm hji]
  | @arrow n a r _ _ iha ihr =>
      rw [occursWithin] at hb
      obtain ⟨c, hc, hb⟩ := bind_eq_ok.mp hb
      rw [meets_arrow]
      cases c with
      | true =>
          rw [if_pos rfl, pure_eq_ok] at hb
          simpa [← hb] using Or.inl ((iha hc).mp rfl)
      | false =>
          rw [if_neg (by simp)] at hb
          have ha : ¬ S.Meets a i := fun h => by simpa using (iha hc).mpr h
          rw [ihr hb]
          simp [ha]

/-- **A cell occurs in a type exactly if it is met.** -/
theorem Acyclic.meets_iff_of_occurs (hS : S.Acyclic) {i : Nat} {t : MonoTy} {b : Bool}
    (hb : S.occurs i t = .ok b) : b = true ↔ S.Meets t i :=
  (hS.endsWithin t).meets_iff hb

theorem exists_occursWithin (hp : S.All MonoTy.Proper) (i n : Nat) {t : MonoTy}
    (ht : t.Proper) : ∃ b, S.occursWithin i n t = .ok b := by
  induction n generalizing t with
  | zero => exact ⟨false, rfl⟩
  | succ n ih =>
      cases t with
      | int | bool => exact ⟨false, rfl⟩
      | stray s => exact ht.elim
      | var j =>
          rw [occursWithin]
          by_cases hji : j = i
          · exact ⟨true, if_pos hji⟩
          · rw [if_neg hji]
            cases hj : S.lookup? j with
            | none => exact ⟨false, rfl⟩
            | some u => exact ih (hp j u hj)
      | arrow a r =>
          obtain ⟨c, hc⟩ := ih ht.1
          rw [occursWithin, hc]
          cases c with
          | true => exact ⟨true, rfl⟩
          | false => exact ih ht.2

/-- Without a stray text the check always has an answer. -/
theorem exists_occurs (hp : S.All MonoTy.Proper) (i : Nat) {t : MonoTy} (ht : t.Proper) :
    ∃ b, S.occurs i t = .ok b :=
  exists_occursWithin hp i _ ht

/-! ### The occurs check and stray texts

The check looks at all of a type unless it finds the cell, so it comes upon every stray text.
-/

theorem EndsWithin.proper_resolve (hS : S.Acyclic) {n i : Nat} {t : MonoTy}
    (h : S.EndsWithin n t) (hocc : S.occursWithin i n t = .ok false) : (S.resolve t).Proper := by
  induction h with
  | int => rw [hS.resolve_int]; trivial
  | bool => rw [hS.resolve_bool]; trivial
  | stray => cases hocc
  | unbound _ hj => rw [hS.resolve_of_unbound hj]; trivial
  | @bound n j u hj _ ih =>
      rw [hS.resolve_of_bound hj]
      by_cases hji : j = i
      · simp only [occursWithin, hji, if_true] at hocc
        cases hocc
      · simp only [occursWithin, hj, hji, if_false] at hocc
        exact ih hocc
  | @arrow n a r _ _ iha ihr =>
      rw [occursWithin] at hocc
      obtain ⟨c, hc, hocc⟩ := bind_eq_ok.mp hocc
      rw [hS.resolve_arrow]
      cases c with
      | true => cases hocc
      | false => exact ⟨iha hc, ihr hocc⟩

theorem Acyclic.proper_resolve_of_occurs (hS : S.Acyclic) {i : Nat} {t : MonoTy}
    (hocc : S.occurs i t = .ok false) : (S.resolve t).Proper :=
  (hS.endsWithin t).proper_resolve hS hocc

theorem EndsWithin.exists_occursWithin (hS : S.Acyclic) (i : Nat) {n : Nat} {t : MonoTy}
    (h : S.EndsWithin n t) (ht : (S.resolve t).Proper) : ∃ b, S.occursWithin i n t = .ok b := by
  induction h with
  | int | bool => exact ⟨false, rfl⟩
  | stray n s =>
      rw [hS.resolve_stray] at ht
      exact ht.elim
  | @unbound n j hj =>
      rw [occursWithin, hj]
      by_cases hji : j = i
      · exact ⟨true, if_pos hji⟩
      · exact ⟨false, if_neg hji⟩
  | @bound n j u hj _ ih =>
      rw [hS.resolve_of_bound hj] at ht
      rw [occursWithin, hj]
      by_cases hji : j = i
      · exact ⟨true, if_pos hji⟩
      · rw [if_neg hji]
        exact ih ht
  | @arrow n a r _ _ iha ihr =>
      rw [hS.resolve_arrow] at ht
      obtain ⟨c, hc⟩ := iha ht.1
      rw [occursWithin, hc]
      cases c with
      | true => exact ⟨true, rfl⟩
      | false => exact ihr ht.2

/-- The check has an answer for every type that resolves without a stray text. -/
theorem Acyclic.exists_occurs_of_resolve (hS : S.Acyclic) (i : Nat) {t : MonoTy}
    (ht : (S.resolve t).Proper) : ∃ b, S.occurs i t = .ok b :=
  (hS.endsWithin t).exists_occursWithin hS i ht

/-! ### The outermost bindings

What a type leads to is the type itself, unless that is a bound cell; then it is what the binding
leads to.  Nothing below an arrow is followed.
-/

/-- The outermost bindings of `t` lead to `v`, which is no bound cell. -/
inductive LeadsTo (S : Store) : MonoTy → MonoTy → Prop where
  | here {v : MonoTy} (hv : ∀ i, v = .var i → S.lookup? i = none) : LeadsTo S v v
  | follow {i : Nat} {u v : MonoTy} (hi : S.lookup? i = some u) (h : LeadsTo S u v) :
      LeadsTo S (.var i) v

theorem leadsTo_self {t : MonoTy} (ht : ∀ i, t ≠ .var i) : S.LeadsTo t t :=
  .here fun i hi => absurd hi (ht i)

theorem LeadsTo.resolve_eq (hS : S.Acyclic) {t v : MonoTy} (h : S.LeadsTo t v) :
    S.resolve t = S.resolve v := by
  induction h with
  | here => rfl
  | follow hi _ ih => rw [hS.resolve_of_bound hi, ih]

/-- A type that resolves to an arrow leads to one. -/
theorem Acyclic.exists_leadsTo_arrow_iff (hS : S.Acyclic) {t : MonoTy} :
    (∃ a r, S.LeadsTo t (.arrow a r)) ↔ ∃ a r, S.resolve t = .arrow a r := by
  constructor
  · rintro ⟨a, r, h⟩
    exact ⟨_, _, (h.resolve_eq hS).trans (hS.resolve_arrow a r)⟩
  · rintro ⟨a, r, h⟩
    induction t using hS.induction with
    | int =>
        rw [hS.resolve_int] at h
        cases h
    | bool =>
        rw [hS.resolve_bool] at h
        cases h
    | stray s =>
        rw [hS.resolve_stray] at h
        cases h
    | unbound i hi =>
        rw [hS.resolve_of_unbound hi] at h
        cases h
    | bound i u hi ih =>
        rw [hS.resolve_of_bound hi] at h
        obtain ⟨b, s, hu⟩ := ih h
        exact ⟨b, s, .follow hi hu⟩
    | arrow b s => exact ⟨b, s, leadsTo_self (by simp)⟩

end TypedLambda.Store
