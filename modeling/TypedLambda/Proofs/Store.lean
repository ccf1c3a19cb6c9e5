/-
Stores in which no cell reaches itself.

`Meets S t i` says that cell `i` is met when the arrows and bindings of `t` are followed.
A store is acyclic if no cell is met from what it is bound to.

A store has finitely many bindings, and in an acyclic one no path meets a binding twice.
So every path ends: `EndsWithin S n t` says that none from `t` has more than `n` steps, and
`Acyclic.endsWithin` that the weight of the store is such an `n`.  Every operation on
stores follows paths, with the weight as its bound.  What it does to a type is therefore
proved by `Acyclic.induction`, which goes from an arrow to its parts and from a bound cell to
its binding.

The bound is proved for trails that may be shorter than that of the store: a binding that was
followed is taken off the trail, and its share of the weight pays for the step and for the
type it leads to.
-/
import TypedLambda.Mono.Store

namespace TypedLambda

/-! ### Monotypes without stray texts -/

namespace MonoTy

/-- No text stands where a type belongs. -/
def Proper : MonoTy → Prop
  | arrow a r => a.Proper ∧ r.Proper
  | stray _ => False
  | _ => True

instance decideProper : DecidablePred Proper
  | int | bool | var _ => isTrue trivial
  | stray _ => isFalse id
  | arrow a r =>
    have := decideProper a
    have := decideProper r
    inferInstanceAs (Decidable (_ ∧ _))

theorem length_cells_le_size (t : MonoTy) : t.cells.length ≤ t.size := by
  induction t with
  | arrow a r iha ihr =>
      simp only [cells, size, List.length_append]
      omega
  | int | bool | var | stray => simp [cells, size]

end MonoTy

namespace Store

variable {S : Store}

/-! ### Following arrows and bindings -/

/-- Cell `i` is met when the arrows and bindings of a type are followed. -/
inductive Meets (S : Store) : MonoTy → Nat → Prop where
  | here (i : Nat) : Meets S (.var i) i
  | arg {a : MonoTy} {i : Nat} (r : MonoTy) (h : Meets S a i) : Meets S (.arrow a r) i
  | ret {r : MonoTy} {i : Nat} (a : MonoTy) (h : Meets S r i) : Meets S (.arrow a r) i
  | follow {j i : Nat} {u : MonoTy} (hj : S.lookup? j = some u) (h : Meets S u i) :
      Meets S (.var j) i

/-- No cell reaches itself. -/
def Acyclic (S : Store) : Prop := ∀ i u, S.lookup? i = some u → ¬ S.Meets u i

/-- What every cell is bound to, if it is, satisfies `P`. -/
def All (P : MonoTy → Prop) (S : Store) : Prop := ∀ i u, S.lookup? i = some u → P u

theorem mem_trail_of_lookup? {i : Nat} {u : MonoTy} (h : S.lookup? i = some u) :
    (i, u) ∈ S.trail := by
  obtain ⟨newer, older, htrail, -⟩ := List.lookup_eq_some_iff.mp h
  rw [htrail]
  simp

theorem all_of_forall_mem {P : MonoTy → Prop} (h : ∀ b ∈ S.trail, P b.2) : S.All P :=
  fun _ _ hu => h _ (mem_trail_of_lookup? hu)

/-- What is met from a cell that is met is met. -/
theorem Meets.trans {t : MonoTy} {i j : Nat} (h : S.Meets t i) (hi : S.Meets (.var i) j) :
    S.Meets t j := by
  induction h with
  | here i => exact hi
  | arg r _ ih => exact .arg r (ih hi)
  | ret a _ ih => exact .ret a (ih hi)
  | follow hk _ ih => exact .follow hk (ih hi)

theorem meets_arrow {a r : MonoTy} {i : Nat} :
    S.Meets (.arrow a r) i ↔ S.Meets a i ∨ S.Meets r i := by
  constructor
  · intro h
    cases h with
    | arg _ h => exact Or.inl h
    | ret _ h => exact Or.inr h
  · rintro (h | h)
    · exact .arg r h
    · exact .ret a h

theorem meets_var_of_unbound {i j : Nat} (hi : S.lookup? i = none) :
    S.Meets (.var i) j ↔ j = i := by
  constructor
  · intro h
    cases h with
    | here => rfl
    | follow hu => rw [hi] at hu; cases hu
  · rintro rfl
    exact .here j

theorem meets_var_of_bound {i j : Nat} {u : MonoTy} (hi : S.lookup? i = some u) :
    S.Meets (.var i) j ↔ j = i ∨ S.Meets u j := by
  constructor
  · intro h
    cases h with
    | here => exact Or.inl rfl
    | follow hv h =>
        rw [hi] at hv
        obtain rfl := Option.some.inj hv
        exact Or.inr h
  · rintro (rfl | h)
    · exact .here j
    · exact .follow hi h

theorem not_meets_int (i : Nat) : ¬ S.Meets .int i := by
  intro h
  cases h

theorem not_meets_bool (i : Nat) : ¬ S.Meets .bool i := by
  intro h
  cases h

/-- A store is acyclic if each binding only mentions cells of a lower rank. -/
theorem acyclic_of_rank (rank : Nat → Nat)
    (h : ∀ b ∈ S.trail, ∀ j ∈ b.2.cells, rank j < rank b.1) : S.Acyclic := by
  have hlt {t : MonoTy} {i k : Nat} (hti : S.Meets t i) (ht : ∀ j ∈ t.cells, rank j < k) :
      rank i < k := by
    induction hti with
    | here i => exact ht i (by simp [MonoTy.cells])
    | arg r _ ih => exact ih fun j hj => ht j (by simp [MonoTy.cells, hj])
    | ret a _ ih => exact ih fun j hj => ht j (by simp [MonoTy.cells, hj])
    | @follow j i u hj _ ih =>
        have hjk : rank j < k := ht j (by simp [MonoTy.cells])
        exact ih fun l hl => Nat.lt_trans (h _ (mem_trail_of_lookup? hj) l hl) hjk
  intro i u hi hui
  exact Nat.lt_irrefl _ (hlt hui (h _ (mem_trail_of_lookup? hi)))

/-! ### Paths end -/

/-- No path from a type has more than `n` steps. -/
inductive EndsWithin (S : Store) : Nat → MonoTy → Prop where
  | int (n : Nat) : EndsWithin S (n + 1) .int
  | bool (n : Nat) : EndsWithin S (n + 1) .bool
  | stray (n : Nat) (s : String) : EndsWithin S (n + 1) (.stray s)
  | unbound (n : Nat) {i : Nat} (hi : S.lookup? i = none) : EndsWithin S (n + 1) (.var i)
  | bound {n i : Nat} {u : MonoTy} (hi : S.lookup? i = some u) (h : EndsWithin S n u) :
      EndsWithin S (n + 1) (.var i)
  | arrow {n : Nat} {a r : MonoTy} (ha : EndsWithin S n a) (hr : EndsWithin S n r) :
      EndsWithin S (n + 1) (.arrow a r)

theorem EndsWithin.succ {n : Nat} {t : MonoTy} (h : S.EndsWithin n t) :
    S.EndsWithin (n + 1) t := by
  induction h with
  | int n => exact .int (n + 1)
  | bool n => exact .bool (n + 1)
  | stray n s => exact .stray (n + 1) s
  | unbound n hi => exact .unbound (n + 1) hi
  | bound hi _ ih => exact .bound hi ih
  | arrow _ _ iha ihr => exact .arrow iha ihr

theorem EndsWithin.mono {m n : Nat} {t : MonoTy} (h : S.EndsWithin m t) (hmn : m ≤ n) :
    S.EndsWithin n t := by
  induction hmn with
  | refl => exact h
  | step _ ih => exact ih.succ

theorem EndsWithin.of_bound {n i : Nat} {u : MonoTy} (h : S.EndsWithin n (.var i))
    (hi : S.lookup? i = some u) : ∃ m, n = m + 1 ∧ S.EndsWithin m u := by
  cases h with
  | unbound m hi' =>
      rw [hi] at hi'
      cases hi'
  | @bound m _ v hi' h =>
      rw [hi] at hi'
      obtain rfl := Option.some.inj hi'
      exact ⟨m, rfl, h⟩

theorem EndsWithin.of_arrow {n : Nat} {a r : MonoTy} (h : S.EndsWithin n (.arrow a r)) :
    ∃ m, n = m + 1 ∧ S.EndsWithin m a ∧ S.EndsWithin m r := by
  cases h with
  | @arrow m _ _ ha hr => exact ⟨m, rfl, ha, hr⟩

/-! ### The weight of a trail -/

theorem trailWeight_filter_le (p : Nat × MonoTy → Bool) (trail : List (Nat × MonoTy)) :
    trailWeight (trail.filter p) ≤ trailWeight trail := by
  induction trail with
  | nil => exact Nat.le_refl _
  | cons b trail ih =>
      by_cases hb : p b = true
      · rw [List.filter_cons_of_pos hb]
        exact Nat.add_le_add_left ih _
      · rw [List.filter_cons_of_neg hb]
        exact Nat.le_trans ih (Nat.le_add_left _ _)

/-- The bindings of a cell weigh at least as much as the newest of them. -/
theorem trailWeight_filter_add_le {trail : List (Nat × MonoTy)} {i : Nat} {u : MonoTy}
    (h : trail.lookup i = some u) :
    trailWeight (trail.filter (·.1 ≠ i)) + (u.size + 1) ≤ trailWeight trail := by
  induction trail with
  | nil => cases h
  | cons b trail ih =>
      by_cases hb : b.1 = i
      · have hbeq : (i == b.1) = true := by simpa using hb.symm
        rw [List.lookup_cons, hbeq] at h
        obtain rfl := Option.some.inj h
        have hrest := trailWeight_filter_le (fun b => decide (b.1 ≠ i)) trail
        rw [List.filter_cons_of_neg (by simp [hb])]
        simp only [trailWeight]
        omega
      · have hbeq : (i == b.1) = false := by simpa using Ne.symm hb
        rw [List.lookup_cons, hbeq] at h
        have hrest := ih h
        rw [List.filter_cons_of_pos (by simp [hb])]
        simp only [trailWeight]
        omega

theorem lookup_filter_of_ne {i j : Nat} (hij : j ≠ i) (trail : List (Nat × MonoTy)) :
    (trail.filter (·.1 ≠ i)).lookup j = trail.lookup j := by
  induction trail with
  | nil => rfl
  | cons b trail ih =>
      by_cases hb : b.1 = i
      · have hbeq : (j == b.1) = false := by simpa [hb] using hij
        rw [List.filter_cons_of_neg (by simp [hb]), ih, List.lookup_cons, hbeq]
      · rw [List.filter_cons_of_pos (by simp [hb]), List.lookup_cons, List.lookup_cons, ih]

theorem size_lt_trailWeight {trail : List (Nat × MonoTy)} {i : Nat} {u : MonoTy}
    (h : trail.lookup i = some u) : u.size < trailWeight trail := by
  have := trailWeight_filter_add_le h
  omega

/-! ### In an acyclic store every path ends -/

/--
If every binding that is met from a type is on the trail, the weight of the type and the trail
bounds the paths from it.
-/
theorem Acyclic.endsWithin_trail (hS : S.Acyclic) (trail : List (Nat × MonoTy)) (t : MonoTy)
    (htrail : ∀ i u, S.Meets t i → S.lookup? i = some u → trail.lookup i = some u) :
    S.EndsWithin (t.size + trailWeight trail) t := by
  -- a binding that is followed leaves the trail; otherwise the type gets smaller
  induction hw : trailWeight trail using Nat.strongRecOn generalizing trail t with
  | ind w ihw =>
    induction t with
    | int => exact (EndsWithin.int 0).mono (by simp [MonoTy.size])
    | bool => exact (EndsWithin.bool 0).mono (by simp [MonoTy.size])
    | stray s => exact (EndsWithin.stray 0 s).mono (by simp [MonoTy.size])
    | arrow a r iha ihr =>
        have ha := iha fun i u h => htrail i u (.arg r h)
        have hr := ihr fun i u h => htrail i u (.ret a h)
        have hle : (MonoTy.arrow a r).size + w = a.size + r.size + w + 1 := by
          simp only [MonoTy.size]
          omega
        rw [hle]
        exact .arrow (ha.mono (by omega)) (hr.mono (by omega))
    | var i =>
        cases hi : S.lookup? i with
        | none => exact (EndsWithin.unbound 0 hi).mono (by simp [MonoTy.size])
        | some u =>
            have hweight := trailWeight_filter_add_le (htrail i u (.here i) hi)
            have hu : S.EndsWithin (u.size + trailWeight (trail.filter (·.1 ≠ i))) u := by
              refine ihw _ (by omega) _ u (fun j v hj hv => ?_) rfl
              -- cell `i` is not met again
              have hne : j ≠ i := by
                rintro rfl
                exact hS j u hi hj
              rw [lookup_filter_of_ne hne]
              exact htrail j v (.follow hi hj) hv
            have hsize : (MonoTy.var i).size + w = w + 1 := by
              simp only [MonoTy.size]
              omega
            rw [hsize]
            exact .bound hi (hu.mono (by omega))

/-- **In an acyclic store no path from a type is longer than its weight.** -/
theorem Acyclic.endsWithin (hS : S.Acyclic) (t : MonoTy) : S.EndsWithin (S.weight t) t :=
  hS.endsWithin_trail S.trail t fun _ _ _ hu => hu

/--
Induction along arrows and bindings: what holds of a bound cell follows from what holds of its
binding.
-/
@[elab_as_elim]
theorem Acyclic.induction (hS : S.Acyclic) {P : MonoTy → Prop} (int : P .int) (bool : P .bool)
    (stray : ∀ s, P (.stray s)) (unbound : ∀ i, S.lookup? i = none → P (.var i))
    (bound : ∀ i u, S.lookup? i = some u → P u → P (.var i))
    (arrow : ∀ a r, P a → P r → P (.arrow a r)) (t : MonoTy) : P t := by
  have h := hS.endsWithin t
  generalize S.weight t = n at h
  induction h with
  | int => exact int
  | bool => exact bool
  | stray n s => exact stray s
  | unbound n hi => exact unbound _ hi
  | bound hi _ ih => exact bound _ _ hi ih
  | arrow _ _ iha ihr => exact arrow _ _ iha ihr

end Store

end TypedLambda
