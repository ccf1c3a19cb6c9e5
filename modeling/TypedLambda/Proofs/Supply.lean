/-
What a draw from a supply gives.

`nameAt base n` determines `n`, because the numeral after the last underscore can be
read back.  So the names drawn for one base are pairwise distinct, and among one more
of them than there are names to avoid there is one outside.  `search` gives up after as
many failures as there are names to avoid and takes the next name unseen; the counting
argument says that this name, too, is outside.

Nothing here compares names of different bases.
-/
import TypedLambda.Supply
import Mathlib.Data.List.Nodup
import Mathlib.Data.List.Perm.Subperm

namespace TypedLambda.Supply

/-! ### Names tell their numbers -/

theorem repr_injective : Function.Injective Nat.repr := by
  intro m n h
  have hread : ∀ k : Nat, Nat.ofDigitChars 10 k.repr.toList 0 = k := by
    intro k
    rw [Nat.toList_repr, Nat.ofDigitChars_ten_toDigits]
  rw [← hread m, h, hread n]

theorem nameAt_injective (base : String) : Function.Injective (nameAt base) := by
  intro m n h
  exact repr_injective (by simpa [nameAt] using h)

theorem length_lt_length_nameAt (base : String) (n : Nat) :
    base.length < (nameAt base n).length := by
  simp only [nameAt, String.length_append]
  have : "_".length = 1 := rfl
  omega

theorem nameAt_ne_base (base : String) (n : Nat) : nameAt base n ≠ base := by
  intro h
  have := length_lt_length_nameAt base n
  rw [h] at this
  omega

/-- A name is never a later name of the name that was drawn for it. -/
theorem ne_nameAt_nameAt (base : String) (m n : Nat) : base ≠ nameAt (nameAt base m) n := by
  intro h
  have h₁ := length_lt_length_nameAt base m
  have h₂ := length_lt_length_nameAt (nameAt base m) n
  rw [← h] at h₂
  omega

/-! ### Drawing until a name is outside -/

theorem search_spec (base : String) (avoid : List String) (fuel : Nat) (s : Supply) :
    ∃ k ≤ fuel, search base avoid fuel s = (nameAt base (s.next + k), ⟨s.next + k + 1⟩) ∧
      (∀ j < k, nameAt base (s.next + j) ∈ avoid) ∧
      (k < fuel → nameAt base (s.next + k) ∉ avoid) := by
  induction fuel generalizing s with
  | zero => exact ⟨0, Nat.le_refl _, rfl, by simp, by simp⟩
  | succ fuel ih =>
      by_cases hmem : nameAt base s.next ∈ avoid
      · obtain ⟨k, hk, hsearch, hbelow, hat⟩ := ih ⟨s.next + 1⟩
        have hshift : ∀ j, s.next + 1 + j = s.next + (j + 1) := by omega
        simp only [hshift] at hsearch hbelow hat
        refine ⟨k + 1, by omega, ?_, ?_, fun h => hat (by omega)⟩
        · simpa [search, fresh, hmem] using hsearch
        · intro j hj
          cases j with
          | zero => exact hmem
          | succ j => exact hbelow j (by omega)
      · exact ⟨0, by omega, by simp [search, fresh, hmem], by simp, by simpa using hmem⟩

/-- Some of any `avoid.length + 1` names of one base is outside `avoid`. -/
theorem exists_nameAt_not_mem (base : String) (n : Nat) (avoid : List String) :
    ∃ j ≤ avoid.length, nameAt base (n + j) ∉ avoid := by
  by_contra h
  push Not at h
  let names := (List.range (avoid.length + 1)).map fun j => nameAt base (n + j)
  have hnodup : names.Nodup :=
    List.nodup_range.map fun i j hij => by
      have := nameAt_injective base hij
      omega
  have hsub : names ⊆ avoid := by
    intro x hx
    obtain ⟨j, hj, rfl⟩ := List.mem_map.mp hx
    exact h j (by have := List.mem_range.mp hj; omega)
  have hlen := (List.subperm_of_subset hnodup hsub).length_le
  simp only [names, List.length_map, List.length_range] at hlen
  omega

/--
A draw outside `avoid` gives the first name that is outside, counting from where the
supply stands, and leaves the supply just after it.
-/
theorem freshOutside_spec (s : Supply) (base : String) (avoid : List String) :
    ∃ k, s.freshOutside base avoid = (nameAt base (s.next + k), ⟨s.next + k + 1⟩) ∧
      (∀ j < k, nameAt base (s.next + j) ∈ avoid) ∧ nameAt base (s.next + k) ∉ avoid := by
  obtain ⟨k, hk, hsearch, hbelow, hat⟩ := search_spec base avoid avoid.length s
  refine ⟨k, hsearch, hbelow, ?_⟩
  by_cases hlt : k < avoid.length
  · exact hat hlt
  · -- All earlier names were to be avoided, so the one outside can only be this one.
    obtain ⟨j, hj, hout⟩ := exists_nameAt_not_mem base s.next avoid
    have hjk : ¬ j < k := fun h => hout (hbelow j h)
    have : j = k := by omega
    exact this ▸ hout

/-- The name that a draw gives is known once it and all names before it are. -/
theorem freshOutside_eq {s : Supply} {base : String} {avoid : List String} {n : Nat}
    (hn : s.next ≤ n) (hbelow : ∀ m, s.next ≤ m → m < n → nameAt base m ∈ avoid)
    (hat : nameAt base n ∉ avoid) :
    s.freshOutside base avoid = (nameAt base n, ⟨n + 1⟩) := by
  obtain ⟨k, hdraw, hk, hout⟩ := freshOutside_spec s base avoid
  have hle : s.next + k ≤ n := by
    by_contra h
    have hmem := hk (n - s.next) (by omega)
    rw [show s.next + (n - s.next) = n from by omega] at hmem
    exact hat hmem
  have hge : n ≤ s.next + k := by
    by_contra h
    exact hout (hbelow (s.next + k) (by omega) (by omega))
  have hnk : s.next + k = n := by omega
  rw [hdraw, hnk]

end TypedLambda.Supply
