/-
The bound of the unifier is never reached.

Between two bindings a run goes down on one side or the other, except that it may first swap
the sides to have a cell on the left.  So the measure is

    (unbound cells) * (4 * D + 2) + 2 * (depth left + depth right) + (1 if there is no cell left)

where `D` bounds the depth of both sides in every store of the run.  Going down gives two and
costs at most the one for a swap.  A cell that is bound can make both sides deeper, up to `D`
each, and it is one unbound cell less, which pays for that.

Bindings add to the weight of the store, and the weight is what bounds the depth.  But a run
binds cells to parts of what was there at the start, of which none is larger than all of it, and
no more often than there are cells.  What a store weighs and what its unbound cells may yet
add to it is its `room`, which never grows, so `D` can be fixed at the start.  With everything
there at the start taken for both the number of cells and the size of a part, the measure
comes to less than `unifyBound`.
-/
import TypedLambda.Proofs.Unify.Growth
import Mathlib.Data.Finset.Card
import Mathlib.Tactic.Ring

namespace TypedLambda

namespace MonoTy

/-- Not larger than `M`, and all cells in `K`. -/
def Fits (K : Finset Nat) (M : Nat) (t : MonoTy) : Prop :=
  t.size ≤ M ∧ ∀ i ∈ t.cells, i ∈ K

theorem hereditary_fits (K : Finset Nat) (M : Nat) : Hereditary (Fits K M) := by
  intro a r h
  obtain ⟨hsize, hcells⟩ := h
  simp only [size] at hsize
  simp only [cells, List.mem_append] at hcells
  constructor
  · refine ⟨by omega, ?_⟩
    intro i hi
    exact hcells i (Or.inl hi)
  · refine ⟨by omega, ?_⟩
    intro i hi
    exact hcells i (Or.inr hi)

/-- One, if the sides have to be swapped to have a cell on the left. -/
def turns : MonoTy → Nat
  | var _ => 0
  | _ => 1

@[simp]
theorem turns_var (i : Nat) : (var i).turns = 0 := rfl

theorem turns_of_ne_var {t : MonoTy} (ht : ∀ i, t ≠ var i) : t.turns = 1 := by
  cases t with
  | var i => exact absurd rfl (ht i)
  | int | bool | arrow | stray => rfl

theorem turns_le_one (t : MonoTy) : t.turns ≤ 1 := by
  cases t <;> simp [turns]

end MonoTy

namespace Store

variable {S S' : Store} {K : Finset Nat} {M : Nat}

/-! ### Cells that may still be bound -/

/-- How many of some cells are unbound. -/
def unboundAmong (S : Store) (K : Finset Nat) : Nat :=
  (K.filter fun i => S.lookup? i = none).card

/-- What a store weighs, and what its unbound cells may yet add. -/
def room (S : Store) (K : Finset Nat) (M : Nat) : Nat :=
  trailWeight S.trail + S.unboundAmong K * (M + 1)

theorem unboundAmong_bind_lt {i : Nat} (hi : S.lookup? i = none) (hK : i ∈ K) (t : MonoTy) :
    (S.bind i t).unboundAmong K < S.unboundAmong K := by
  refine Finset.card_lt_card (Finset.ssubset_iff_subset_ne.mpr ⟨?_, ?_⟩)
  · intro j hj
    obtain ⟨hjK, hj⟩ := Finset.mem_filter.mp hj
    have hji : j ≠ i := by
      rintro rfl
      rw [lookup?_bind_self] at hj
      cases hj
    rw [lookup?_bind_of_ne S t hji] at hj
    exact Finset.mem_filter.mpr ⟨hjK, hj⟩
  · intro heq
    have hmem : i ∈ K.filter fun j => S.lookup? j = none := Finset.mem_filter.mpr ⟨hK, hi⟩
    rw [← heq, Finset.mem_filter, lookup?_bind_self] at hmem
    cases hmem.2

theorem room_bind_le {i : Nat} (hi : S.lookup? i = none) (hK : i ∈ K) {t : MonoTy}
    (ht : t.size ≤ M) : (S.bind i t).room K M ≤ S.room K M := by
  have hcells := Nat.mul_le_mul_right (M + 1) (unboundAmong_bind_lt hi hK t)
  have hweight : trailWeight (S.bind i t).trail = t.size + 1 + trailWeight S.trail := rfl
  rw [Nat.succ_mul] at hcells
  rw [room, room, hweight]
  omega

theorem Grows.room_le (h : Grows (MonoTy.Fits K M) S S') : S'.room K M ≤ S.room K M := by
  induction h with
  | refl => exact Nat.le_refl _
  | bind _ hi _ hvar ht ih =>
      exact Nat.le_trans (room_bind_le hi (hvar.2 _ (by simp [MonoTy.cells])) ht.1) ih

/-- Either nothing was bound, or there are fewer unbound cells. -/
theorem Grows.eq_or_lt (h : Grows (MonoTy.Fits K M) S S') :
    S' = S ∨ S'.unboundAmong K < S.unboundAmong K := by
  induction h with
  | refl => exact Or.inl rfl
  | @bind _ i t _ hi _ hvar _ ih =>
      have hlt := unboundAmong_bind_lt hi (hvar.2 i (by simp [MonoTy.cells])) t
      rcases ih with rfl | ih
      · exact Or.inr hlt
      · exact Or.inr (Nat.lt_trans hlt ih)

/-- What every store of a run is like: no side that fits is deeper in it than `D`. -/
structure Roomy (K : Finset Nat) (M D : Nat) (S : Store) : Prop where
  acyclic : S.Acyclic
  fits : S.All (MonoTy.Fits K M)
  room_le : M + S.room K M ≤ D

theorem Roomy.endsWithin {D : Nat} (hS : S.Roomy K M D) {t : MonoTy} (ht : t.Fits K M) :
    S.EndsWithin D t := by
  have hroom := hS.room_le
  have hsize := ht.1
  have hweight : S.weight t ≤ D := by
    rw [room] at hroom
    rw [weight]
    omega
  exact (hS.acyclic.endsWithin t).mono hweight

theorem Grows.roomy {D : Nat} (h : Grows (MonoTy.Fits K M) S S') (hS : S.Roomy K M D) :
    S'.Roomy K M D where
  acyclic := h.acyclic hS.acyclic
  fits := h.all hS.fits
  room_le := Nat.le_trans (Nat.add_le_add_left h.room_le M) hS.room_le

/-! ### The measure goes down -/

/-- How far a run may go on, by the cells to bind and the depths of its sides. -/
def measure (S : Store) (K : Finset Nat) (D d e : Nat) (t : MonoTy) : Nat :=
  S.unboundAmong K * (4 * D + 2) + 2 * (d + e) + t.turns

/-- A cell less pays for two sides of any depth. -/
theorem measure_lt_of_unboundAmong_lt {D d e : Nat} {r t : MonoTy}
    (h : S'.unboundAmong K < S.unboundAmong K) : S'.measure K D D D r < S.measure K D d e t := by
  have hcells := Nat.mul_le_mul_right (4 * D + 2) h
  have hturns := r.turns_le_one
  rw [Nat.succ_mul] at hcells
  rw [measure, measure]
  omega

/-- Bindings leave the measure of two sides as it is, or make it smaller. -/
theorem exists_measure_le {D d e : Nat} {t u : MonoTy} (hS : S.Roomy K M D)
    (h : Grows (MonoTy.Fits K M) S S') (ht : t.Fits K M) (hu : u.Fits K M)
    (hd : S.EndsWithin d t) (he : S.EndsWithin e u) :
    ∃ d' e', S'.EndsWithin d' t ∧ S'.EndsWithin e' u ∧
      S'.measure K D d' e' t ≤ S.measure K D d e t := by
  rcases h.eq_or_lt with rfl | hlt
  · exact ⟨d, e, hd, he, Nat.le_refl _⟩
  · have hS' := h.roomy hS
    exact ⟨D, D, hS'.endsWithin ht, hS'.endsWithin hu, (measure_lt_of_unboundAmong_lt hlt).le⟩

/-- **A bound that is reached is not above the measure.** -/
theorem Stalls.le_measure {n D d e : Nat} {t u : MonoTy} (h : Stalls n S t u)
    (hS : S.Roomy K M D) (ht : t.Fits K M) (hu : u.Fits K M) (hd : S.EndsWithin d t)
    (he : S.EndsWithin e u) : n ≤ S.measure K D d e t := by
  induction h generalizing d e with
  | zero => exact Nat.zero_le _
  | @left n S i t u hi _ ih =>
      obtain ⟨m, rfl, hm⟩ := hd.of_bound hi
      have hle := ih hS (hS.fits i t hi) hu hm he
      have hturns := t.turns_le_one
      rw [measure] at hle
      rw [measure, MonoTy.turns_var]
      omega
  | @right n S i j u _ hj _ ih =>
      obtain ⟨m, rfl, hm⟩ := he.of_bound hj
      have hle := ih hS ht (hS.fits j u hj) hd hm
      rw [measure] at hle ⊢
      omega
  | swap hvar _ ih =>
      have hle := ih hS hu ht he hd
      rw [measure, MonoTy.turns_var] at hle
      rw [measure, MonoTy.turns_of_ne_var hvar]
      omega
  | @arg n S a a' r r' _ ih =>
      obtain ⟨d, rfl, hda, -⟩ := hd.of_arrow
      obtain ⟨e, rfl, hea, -⟩ := he.of_arrow
      have hle := ih hS (MonoTy.hereditary_fits K M a r ht).1
        (MonoTy.hereditary_fits K M a' r' hu).1 hda hea
      have hturns := a.turns_le_one
      rw [measure] at hle ⊢
      omega
  | @ret n S S₁ a r a' r' ha _ ih =>
      obtain ⟨d, rfl, -, hdr⟩ := hd.of_arrow
      obtain ⟨e, rfl, -, her⟩ := he.of_arrow
      obtain ⟨hta, htr⟩ := MonoTy.hereditary_fits K M a r ht
      obtain ⟨hua, hur⟩ := MonoTy.hereditary_fits K M a' r' hu
      -- the result sides are walked in the store that the argument sides leave
      have hgrows := ha.grows (MonoTy.hereditary_fits K M) hS.acyclic hS.fits hta hua
      obtain ⟨d', e', hd', he', hmeasure⟩ := exists_measure_le hS hgrows htr hur hdr her
      have hle := ih (hgrows.roomy hS) htr hur hd' he'
      have hturns := r.turns_le_one
      have hle' := Nat.le_trans hle hmeasure
      rw [measure] at hle' ⊢
      omega

/-! ### The bound is above the measure -/

/-- The cells that two types and the bindings of a store mention. -/
def cellsOf (S : Store) (t u : MonoTy) : Finset Nat :=
  (t.cells ++ u.cells ++ S.trail.flatMap (·.2.cells)).toFinset

theorem length_flatMap_cells_le (trail : List (Nat × MonoTy)) :
    (trail.flatMap (·.2.cells)).length ≤ trailWeight trail := by
  induction trail with
  | nil => exact Nat.le_refl _
  | cons b trail ih =>
      have hb := b.2.length_cells_le_size
      rw [List.flatMap_cons, List.length_append, trailWeight]
      omega

theorem unboundAmong_cellsOf_le (S : Store) (t u : MonoTy) :
    S.unboundAmong (S.cellsOf t u) ≤ S.weight t + u.size := by
  have htrail := length_flatMap_cells_le S.trail
  have ht := t.length_cells_le_size
  have hu := u.length_cells_le_size
  have hcard : (S.cellsOf t u).card ≤ S.weight t + u.size := by
    refine Nat.le_trans (List.toFinset_card_le _) ?_
    rw [List.length_append, List.length_append, weight]
    omega
  exact Nat.le_trans (Finset.card_filter_le _ _) hcard

theorem room_cellsOf_le (S : Store) (t u : MonoTy) :
    S.room (S.cellsOf t u) (S.weight t + u.size) ≤
      (S.weight t + u.size) + (S.weight t + u.size) * (S.weight t + u.size + 1) := by
  have hcells := Nat.mul_le_mul_right (S.weight t + u.size + 1) (unboundAmong_cellsOf_le S t u)
  have htrail : trailWeight S.trail ≤ S.weight t + u.size := by
    rw [weight]
    omega
  exact Nat.add_le_add htrail hcells

theorem fits_left (S : Store) (t u : MonoTy) :
    t.Fits (S.cellsOf t u) (S.weight t + u.size) := by
  constructor
  · rw [weight]
    omega
  · intro i hi
    simp [cellsOf, hi]

theorem fits_right (S : Store) (t u : MonoTy) :
    u.Fits (S.cellsOf t u) (S.weight t + u.size) := by
  constructor
  · omega
  · intro i hi
    simp [cellsOf, hi]

theorem all_fits (S : Store) (t u : MonoTy) :
    S.All (MonoTy.Fits (S.cellsOf t u) (S.weight t + u.size)) := by
  intro i v hv
  constructor
  · have hsize := size_lt_trailWeight hv
    rw [weight]
    omega
  · intro j hj
    have hmem : j ∈ S.trail.flatMap (·.2.cells) :=
      List.mem_flatMap.mpr ⟨(i, v), mem_trail_of_lookup? hv, hj⟩
    simp only [cellsOf, List.mem_toFinset, List.mem_append]
    exact Or.inr hmem

/-- The polynomial is above the measure with everything there at the start for all its parts. -/
theorem measure_lt_polynomial {D d e k w x : Nat} (hk : k ≤ w) (hD : D = w + (w + w * (w + 1)))
    (hde : d + e ≤ 2 * w) (hx : x ≤ 1) :
    k * (4 * D + 2) + 2 * (d + e) + x < 4 * ((w + 2) * (w + 2) * (w + 2)) := by
  subst hD
  have hmul := Nat.mul_le_mul_right (4 * (w + (w + w * (w + 1))) + 2) hk
  have hexpand : 4 * ((w + 2) * (w + 2) * (w + 2)) =
      w * (4 * (w + (w + w * (w + 1))) + 2) + (12 * (w * w) + 46 * w + 32) := by
    ring
  omega

/-- On an acyclic store the bound is not reached. -/
theorem Acyclic.not_stalls (hS : S.Acyclic) (t u : MonoTy) :
    ¬ Stalls (S.unifyBound t u) S t u := by
  intro h
  have hroomy : S.Roomy (S.cellsOf t u) (S.weight t + u.size) _ :=
    ⟨hS, S.all_fits t u, Nat.add_le_add_left (room_cellsOf_le S t u) _⟩
  have hle := h.le_measure hroomy (S.fits_left t u) (S.fits_right t u) (hS.endsWithin t)
    (hS.endsWithin u)
  have hdepths : S.weight t + S.weight u ≤ 2 * (S.weight t + u.size) := by
    rw [weight, weight]
    omega
  have hlt := measure_lt_polynomial (unboundAmong_cellsOf_le S t u) rfl hdepths t.turns_le_one
  exact Nat.lt_irrefl _ (Nat.lt_of_le_of_lt hle hlt)

/-- **On an acyclic store unification goes by the rules to its end.** -/
theorem Acyclic.ends_unify (hS : S.Acyclic) (t u : MonoTy) :
    (∃ S', S.run (unify t u) = (.ok (), S') ∧ Unifies S t u S') ∨
      ∃ e S', S.run (unify t u) = (.error e, S') ∧ Refuses S t u e S' := by
  have hends := ends_unifyWithin (S.unifyBound t u) S t u
  rw [← run_unify] at hends
  rcases hx : S.run (unify t u) with ⟨e | _, S'⟩
  · rw [hx] at hends
    rcases hends with h | ⟨-, h⟩
    · exact Or.inr ⟨e, S', rfl, h⟩
    · exact absurd h (hS.not_stalls t u)
  · rw [hx] at hends
    exact Or.inl ⟨S', rfl, hends⟩

end Store

end TypedLambda
