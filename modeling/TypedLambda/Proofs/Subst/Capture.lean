/-
Keeping a binder from capturing changes nothing but its name.

`avoidCapture` does not say how the old name is replaced in the body, so what is proved
here takes that as given: `Renames rename n` says that `rename` does its work on bodies up
to height `n`.  The substitution itself is such a `rename`, one level down, and
`Proofs/Subst.lean` closes the circle.

A renaming can go wrong only if the name it puts in is caught by a binder inside, or if the
name it takes out is itself drawn on the way.  The first is what `rename` has to see to;
the second cannot happen, because every name drawn is longer than its base.

Parameters are renamed one after another, each in a body that the ones before have already
changed.  The invariant that carries the induction is that binding all names, the ones
already chosen and the ones still to come, gives the nameless body it gave at the start.
-/
import TypedLambda.Proofs.Naming
import TypedLambda.Proofs.Nameless

namespace TypedLambda

namespace Naming

/-- `x` is a name that may still be drawn for a binder whose name is free in `r`. -/
def MayDraw (names : Naming) (r : Term) (x : String) : Prop :=
  ∃ b ∈ r.freeNames, ∃ n, names.next ≤ n ∧ x = Supply.nameAt b n

theorem MayDraw.mono {names₁ names₂ : Naming} (hle : names₁.next ≤ names₂.next) {r : Term}
    {x : String} (h : names₂.MayDraw r x) : names₁.MayDraw r x := by
  obtain ⟨b, hb, n, hn, hx⟩ := h
  exact ⟨b, hb, n, Nat.le_trans hle hn, hx⟩

end Naming

namespace Term

/--
What is known of a term in which `r` was put in the place of `x`, drawing names from
`names` on.  That it is the right one needs that no name drawn is the target, unless it is
kept from being drawn by being free in `r`.
-/
structure Substituted (names : Naming) (r : Term) (x : String) (t t' : Term) : Prop where
  wellFormed : t'.WellFormed
  /-- Putting in something as low as a name keeps the height. -/
  height : r.height = 1 → t'.height = t.height
  nameless : (names.MayDraw r x → x ∈ r.freeNames) →
    t'.toNameless = r.toNameless.subst x t.toNameless

theorem Substituted.mono {names₁ names₂ : Naming} (hle : names₁.next ≤ names₂.next)
    {r t t' : Term} {x : String} (h : Substituted names₂ r x t t') :
    Substituted names₁ r x t t' :=
  ⟨h.wellFormed, h.height, fun hx => h.nameless fun hd => hx (hd.mono hle)⟩

/-- `rename new old b` puts `new` in the place of `old` in bodies up to height `n`. -/
def Renames (rename : String → String → Term → NamingM Term) (n : Nat) : Prop :=
  ∀ (names : Naming) (new old : String) (b : Term), b.WellFormed → b.height ≤ n →
    ∃ b' names', names.run (rename new old b) = (.ok b', names') ∧
      names.next ≤ names'.next ∧ Substituted names (.var new) old b b'

/-! ### One binder -/

/-- What a binder may be called after it has been kept from capturing. -/
structure NewName (names : Naming) (dangerous : List String) (y y' : String) : Prop where
  not_dangerous : y' ∉ dangerous
  origin : y' = y ∨ y ∈ dangerous ∧ ∃ n, names.next ≤ n ∧ y' = Supply.nameAt y n

theorem NewName.mono {names₁ names₂ : Naming} (hle : names₁.next ≤ names₂.next)
    {dangerous : List String} {y y' : String} (h : NewName names₂ dangerous y y') :
    NewName names₁ dangerous y y' := by
  refine ⟨h.not_dangerous, ?_⟩
  rcases h.origin with h | ⟨hy, n, hn, hy'⟩
  · exact Or.inl h
  · exact Or.inr ⟨hy, n, Nat.le_trans hle hn, hy'⟩

/-- A binder that is not the target does not become the target. -/
theorem NewName.ne {names : Naming} {r : Term} {x y y' : String}
    (h : NewName names r.freeNames y y') (hx : names.MayDraw r x → x ∈ r.freeNames)
    (hxy : x ≠ y) : x ≠ y' := by
  rintro rfl
  rcases h.origin with h' | ⟨hy, n, hn, hxn⟩
  · exact hxy h'
  · exact h.not_dangerous (hx ⟨y, hy, n, hn, hxn⟩)

/-- A binder and its body before and after it has been kept from capturing. -/
structure KeptApart (names : Naming) (dangerous taken : List String) (y : String) (b : Term)
    (y' : String) (b' : Term) : Prop where
  wellFormed : b'.WellFormed
  height : b'.height = b.height
  newName : NewName names dangerous y y'
  not_taken : y' = y ∨ y' ∉ taken
  bind : ∀ xs ys, y ∉ xs → y' ∉ xs →
    b'.toNameless.bind (xs ++ y' :: ys) = b.toNameless.bind (xs ++ y :: ys)

theorem KeptApart.mono {names₁ names₂ : Naming} (hle : names₁.next ≤ names₂.next)
    {dangerous taken : List String} {y y' : String} {b b' : Term}
    (h : KeptApart names₂ dangerous taken y b y' b') :
    KeptApart names₁ dangerous taken y b y' b' :=
  ⟨h.wellFormed, h.height, h.newName.mono hle, h.not_taken, h.bind⟩

/-- A name that was drawn replaces the old one everywhere, without a condition. -/
theorem Substituted.nameless_drawn {names : Naming} {y : String} {n : Nat} {b b' : Term}
    (h : Substituted names (.var (Supply.nameAt y n)) y b b') :
    b'.toNameless = Nameless.subst (.free (Supply.nameAt y n)) y b.toNameless := by
  refine h.nameless ?_
  rintro ⟨z, hz, m, -, hy⟩
  have hz' : z = Supply.nameAt y n := by simpa [freeNames] using hz
  exact absurd (hz' ▸ hy) (Supply.ne_nameAt_nameAt y n m)

theorem run_avoidCapture {rename : String → String → Term → NamingM Term} {n : Nat}
    (hrename : Renames rename n) {b : Term} (hb : b.WellFormed) (hn : b.height ≤ n)
    (dangerous taken : List String) (y : String) (names : Naming) :
    ∃ y' b' names', names.run (avoidCapture rename dangerous taken y b) = (.ok (y', b'), names') ∧
      names.next ≤ names'.next ∧ KeptApart names dangerous taken y b y' b' := by
  by_cases hy : y ∈ dangerous
  · obtain ⟨k, names₁, hdraw, hk, hle₁, hout⟩ :=
      names.exists_run_freshBinder y (dangerous ++ b.freeNames ++ taken)
    simp only [List.mem_append, not_or] at hout
    obtain ⟨⟨hdangerous, hfree⟩, htaken⟩ := hout
    obtain ⟨b', names₂, hb', hle₂, hsubst⟩ := hrename names₁ (Supply.nameAt y k) y b hb hn
    refine ⟨Supply.nameAt y k, b', names₂, ?_, Nat.le_trans hle₁ hle₂, ?_⟩
    · rw [avoidCapture, if_pos hy, freeNames?_eq_ok hb,
        Naming.run_bind_ok (names.run_liftExcept_ok _), Naming.run_bind_ok hdraw,
        Naming.run_bind_ok hb', Naming.run_pure]
    · refine ⟨hsubst.wellFormed, hsubst.height rfl, ⟨hdangerous, Or.inr ⟨hy, k, hk, rfl⟩⟩,
        Or.inr htaken, fun xs ys hyxs hy'xs => ?_⟩
      rw [hsubst.nameless_drawn]
      exact Nameless.bind_rename (fun h => hfree (mem_freeNames_toNameless.mp h)) hyxs hy'xs
  · refine ⟨y, b, names, ?_, Nat.le_refl _,
      ⟨hb, rfl, ⟨hy, Or.inl rfl⟩, Or.inl rfl, fun _ _ _ _ => rfl⟩⟩
    rw [avoidCapture, if_neg hy, Naming.run_pure]

/-! ### All parameters of a literal -/

/-- A parameter before and after it has been kept from capturing. -/
def NewParam (names : Naming) (dangerous : List String) (p p' : String × Ty) : Prop :=
  NewName names dangerous p.1 p'.1 ∧ p'.2 = p.2

theorem NewParam.mono {names₁ names₂ : Naming} (hle : names₁.next ≤ names₂.next)
    {dangerous : List String} (p p' : String × Ty) (h : NewParam names₂ dangerous p p') :
    NewParam names₁ dangerous p p' :=
  ⟨h.1.mono hle, h.2⟩

/--
Parameters and body before and after the parameters have been kept from capturing; `xs` are
the parameters in front of these.
-/
structure AllKeptApart (names : Naming) (dangerous xs : List String) (ps : List (String × Ty))
    (b : Term) (ps' : List (String × Ty)) (b' : Term) : Prop where
  wellFormed : b'.WellFormed
  height : b'.height = b.height
  params : List.Forall₂ (NewParam names dangerous) ps ps'
  nodup : (xs ++ ps'.map (·.1)).Nodup
  bind : b'.toNameless.bind (xs ++ ps'.map (·.1)) = b.toNameless.bind (xs ++ ps.map (·.1))

theorem run_avoidCaptures {rename : String → String → Term → NamingM Term} {n : Nat}
    (hrename : Renames rename n) (dangerous taken xs : List String) (ps : List (String × Ty))
    {b : Term} (hb : b.WellFormed) (hn : b.height ≤ n)
    (hnodup : (xs ++ ps.map (·.1)).Nodup) (htaken : ∀ z ∈ xs ++ ps.map (·.1), z ∈ taken)
    (names : Naming) :
    ∃ ps' b' names',
      names.run (avoidCaptures rename dangerous taken ps b) = (.ok (ps', b'), names') ∧
      names.next ≤ names'.next ∧ AllKeptApart names dangerous xs ps b ps' b' := by
  induction ps generalizing taken xs b names with
  | nil =>
      refine ⟨[], b, names, ?_, Nat.le_refl _, ⟨hb, rfl, .nil, hnodup, rfl⟩⟩
      rw [avoidCaptures, Naming.run_pure]
  | cons p ps ih =>
      obtain ⟨y, τ⟩ := p
      obtain ⟨y', b₁, names₁, hy', hle₁, hkept⟩ :=
        run_avoidCapture hrename hb hn dangerous taken y names
      simp only [List.map_cons] at hnodup htaken
      have hyxs : y ∉ xs ∧ y ∉ ps.map (·.1) := by grind
      have hy'xs : y' ∉ xs ∧ y' ∉ ps.map (·.1) := by
        rcases hkept.not_taken with rfl | hnot
        · exact hyxs
        · exact ⟨fun h => hnot (htaken y' (by simp [h])), fun h => hnot (htaken y' (by grind))⟩
      have hnodup₁ : ((xs ++ [y']) ++ ps.map (·.1)).Nodup := by grind
      have htaken₁ : ∀ z ∈ (xs ++ [y']) ++ ps.map (·.1), z ∈ y' :: taken := by grind
      obtain ⟨ps', b', names₂, hps', hle₂, hall⟩ :=
        ih (y' :: taken) (xs ++ [y']) hkept.wellFormed (by rw [hkept.height]; exact hn) hnodup₁
          htaken₁ names₁
      refine ⟨(y', τ) :: ps', b', names₂, ?_, Nat.le_trans hle₁ hle₂, ?_⟩
      · rw [avoidCaptures, Naming.run_bind_ok hy', Naming.run_bind_ok hps', Naming.run_pure]
      · have hbind : b'.toNameless.bind (xs ++ y' :: ps'.map (·.1))
            = b.toNameless.bind (xs ++ y :: ps.map (·.1)) := by
          have h := hall.bind
          simp only [List.append_assoc, List.singleton_append] at h
          rw [h, hkept.bind xs _ hyxs.1 hy'xs.1]
        refine ⟨hall.wellFormed, hall.height.trans hkept.height,
          .cons ⟨hkept.newName, rfl⟩ (hall.params.imp (NewParam.mono hle₁)), ?_, hbind⟩
        simpa using hall.nodup

end Term

end TypedLambda
