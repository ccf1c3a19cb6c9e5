/-
Substitution puts in no name but those of the replacement.

Whatever is free in the result is free in the replacement, or is free in the term and not the
target.  Here that needs no condition on the names that are drawn.  A binder that is given a
name which is free in its body, or which is the target, may bind too much or have its
occurrences replaced, but what it binds is not free, and what is put in is free in the
replacement.  So it is enough to know of a renamed body that the new name is all it has gained.

The other direction does need the condition: `Proofs/Subst/FreeNames.lean` has the exception.
-/
import TypedLambda.Proofs.Naming.Outcome
import TypedLambda.Proofs.Subst

namespace TypedLambda.Term

open Naming (EndsIn)

/-- What is free in the result is free in the term, and not the target, or in the replacement. -/
def Confined (r : Term) (x : String) (t t' : Term) : Prop :=
  ∀ z ∈ t'.freeNames, z ∈ t.freeNames ∧ z ≠ x ∨ z ∈ r.freeNames

/-! ### Below binders -/

/-- A body under binders and one that was renamed with them: only the new names may be gained. -/
structure Rebound (ys : List String) (b : Term) (ys' : List String) (b' : Term) : Prop where
  wellFormed : b'.WellFormed
  height : b'.height = b.height
  free : ∀ z ∈ b'.freeNames, z ∉ ys' → z ∈ b.freeNames ∧ z ∉ ys

theorem Rebound.refl {b : Term} (hb : b.WellFormed) (ys : List String) : Rebound ys b ys b :=
  ⟨hb, rfl, fun _ hz hzys => ⟨hz, hzys⟩⟩

theorem Rebound.cons {y y' : String} {ys ys' : List String} {b b₁ b' : Term}
    (h : Rebound [y] b [y'] b₁) (h' : Rebound ys b₁ ys' b') :
    Rebound (y :: ys) b (y' :: ys') b' := by
  refine ⟨h'.wellFormed, h'.height.trans h.height, ?_⟩
  intro z hz hz'
  rw [List.mem_cons, not_or] at hz'
  obtain ⟨hzy', hzys'⟩ := hz'
  obtain ⟨hz₁, hzys⟩ := h'.free z hz hzys'
  obtain ⟨hzb, hzy⟩ := h.free z hz₁ (by simpa using hzy')
  exact ⟨hzb, by simpa [hzys] using hzy⟩

theorem Rebound.confined {r : Term} {x : String} {ys ys' : List String} {b b₁ b' : Term}
    (h : Rebound ys b ys' b₁) (hb' : Confined r x b₁ b') {z : String} (hz : z ∈ b'.freeNames)
    (hz' : z ∉ ys') : (z ∈ b.freeNames ∧ z ∉ ys) ∧ z ≠ x ∨ z ∈ r.freeNames := by
  rcases hb' z hz with ⟨hz₁, hzx⟩ | hzr
  · exact Or.inl ⟨h.free z hz₁ hz', hzx⟩
  · exact Or.inr hzr

/-- A bound of `n` is enough for terms up to height `n`. -/
def ConfinesWithin (n : Nat) : Prop :=
  ∀ (r t : Term) (x : String), r.WellFormed → t.WellFormed → t.height ≤ n →
    EndsIn (Confined r x t) (fun _ => True) (substWithin n r x t)

section

variable {n : Nat} (ih : ConfinesWithin n)

include ih

theorem endsIn_rename (new old : String) {b : Term} (hb : b.WellFormed) (hn : b.height ≤ n) :
    EndsIn (Rebound [old] b [new]) (fun _ => True) (substWithin n (.var new) old b) := by
  have hsucceeds : EndsIn (fun b' => b'.WellFormed ∧ b'.height = b.height) (fun _ => True)
      (substWithin n (.var new) old b) := by
    refine Naming.endsIn_of_run fun names => ?_
    obtain ⟨b', names', hrun, -, hsub⟩ := substitutesWithin n (.var new) b old names trivial hb hn
    exact ⟨b', names', hrun, hsub.wellFormed, hsub.height rfl⟩
  refine (hsucceeds.and (ih (.var new) b old trivial hb hn)).imp fun b' h => ?_
  obtain ⟨⟨hwf, hheight⟩, hconf⟩ := h
  refine ⟨hwf, hheight, ?_⟩
  intro z hz hznew
  rcases hconf z hz with ⟨hzb, hzold⟩ | hzvar
  · exact ⟨hzb, by simpa using hzold⟩
  · exact absurd hzvar hznew

theorem endsIn_avoidCapture (dangerous taken : List String) (y : String) {b : Term}
    (hb : b.WellFormed) (hn : b.height ≤ n) :
    EndsIn (fun p => Rebound [y] b [p.1] p.2) (fun _ => True)
      (avoidCapture (fun new old body => substWithin n (.var new) old body) dangerous taken y
        b) := by
  by_cases hy : y ∈ dangerous
  · rw [avoidCapture, if_pos hy]
    refine Naming.endsIn_any.bind fun _ _ => Naming.endsIn_any.bind fun y' _ => ?_
    refine (endsIn_rename ih y' y hb hn).bind fun b' hb' => ?_
    exact Naming.endsIn_pure hb'
  · rw [avoidCapture, if_neg hy]
    exact Naming.endsIn_pure (.refl hb [y])

theorem endsIn_avoidCaptures (dangerous taken : List String) (ps : List (String × Ty)) {b : Term}
    (hb : b.WellFormed) (hn : b.height ≤ n) :
    EndsIn (fun p => Rebound (ps.map (·.1)) b (p.1.map (·.1)) p.2) (fun _ => True)
      (avoidCaptures (fun new old body => substWithin n (.var new) old body) dangerous taken ps
        b) := by
  induction ps generalizing taken b with
  | nil => exact Naming.endsIn_pure (.refl hb [])
  | cons p ps ihps =>
      obtain ⟨y, τ⟩ := p
      rw [avoidCaptures]
      refine (endsIn_avoidCapture ih dangerous taken y hb hn).bind fun q hq => ?_
      have hn₁ : q.2.height ≤ n := by
        rw [hq.height]
        exact hn
      refine (ihps (q.1 :: taken) hq.wellFormed hn₁).bind fun qs hqs => ?_
      exact Naming.endsIn_pure (hq.cons hqs)

end

/-! ### Putting the parts together -/

section

variable {r : Term} {x : String}

theorem Confined.ite {c a b c' a' b' : Term} (hc : Confined r x c c') (ha : Confined r x a a')
    (hb : Confined r x b b') : Confined r x (.ite c a b) (.ite c' a' b') := by
  intro z hz
  simp only [freeNames, List.mem_append] at hz ⊢
  rcases hz with (hz | hz) | hz
  · exact (hc z hz).imp_left (And.imp_left fun h => Or.inl (Or.inl h))
  · exact (ha z hz).imp_left (And.imp_left fun h => Or.inl (Or.inr h))
  · exact (hb z hz).imp_left (And.imp_left Or.inr)

theorem Confined.all {ts ts' : List Term} (h : List.Forall₂ (Confined r x) ts ts') {z : String}
    (hz : z ∈ freeNamesAll ts') : z ∈ freeNamesAll ts ∧ z ≠ x ∨ z ∈ r.freeNames := by
  induction h with
  | nil => cases hz
  | cons ht _ ih =>
      rw [freeNamesAll, List.mem_append] at hz ⊢
      rcases hz with hz | hz
      · exact (ht z hz).imp_left (And.imp_left Or.inl)
      · exact (ih hz).imp_left (And.imp_left Or.inr)

theorem Confined.app {f f' : Term} {ts ts' : List Term} (hf : Confined r x f f')
    (hts : List.Forall₂ (Confined r x) ts ts') : Confined r x (.app f ts) (.app f' ts') := by
  intro z hz
  simp only [freeNames, List.mem_append] at hz ⊢
  rcases hz with hz | hz
  · exact (hf z hz).imp_left (And.imp_left Or.inl)
  · exact (Confined.all hts hz).imp_left (And.imp_left Or.inr)

theorem Confined.fix {f f' : String} (τ : Ty) {b b₁ b' : Term} (h : Rebound [f] b [f'] b₁)
    (hb' : Confined r x b₁ b') : Confined r x (.fix f τ b) (.fix f' τ b') := by
  intro z hz
  simp only [freeNames, List.mem_filter, decide_eq_true_eq] at hz ⊢
  simpa using h.confined hb' hz.1 (by simpa using hz.2)

theorem Confined.letIn {y y' : String} {v v' b b' : Term} (hv : Confined r x v v')
    (hb : ∀ z ∈ b'.freeNames, z ∉ [y'] →
      (z ∈ b.freeNames ∧ z ∉ [y]) ∧ z ≠ x ∨ z ∈ r.freeNames) :
    Confined r x (.letIn y v b) (.letIn y' v' b') := by
  intro z hz
  simp only [freeNames, List.mem_append, List.mem_filter, decide_eq_true_eq] at hz ⊢
  rcases hz with hz | ⟨hz, hzy'⟩
  · exact (hv z hz).imp_left (And.imp_left Or.inl)
  · have hbody := hb z hz (by simpa using hzy')
    rw [List.mem_singleton] at hbody
    exact hbody.imp_left (And.imp_left Or.inr)

theorem Confined.fn {ps ps' : List (String × Ty)} {b b₁ b' : Term}
    (h : Rebound (ps.map (·.1)) b (ps'.map (·.1)) b₁) (hb' : Confined r x b₁ b') :
    Confined r x (.fn ps b) (.fn ps' b') := by
  intro z hz
  simp only [freeNames, List.mem_filter, decide_eq_true_eq] at hz ⊢
  exact h.confined hb' hz.1 hz.2

theorem eq_of_fn?_eq_ok {ps : List (String × Ty)} {b t : Term} (h : fn? ps b = .ok t) :
    t = .fn ps b := by
  rw [fn?] at h
  split at h
  · exact (Except.ok.inj h).symm
  · cases h

/-- Below a binder for the target nothing changes. -/
theorem confined_of_not_free {t : Term} (h : x ∉ t.freeNames) : Confined r x t t := by
  intro z hz
  have hzx : z ≠ x := by
    rintro rfl
    exact h hz
  exact Or.inl ⟨hz, hzx⟩

end

/-! ### The recursion -/

namespace ConfinesWithin

variable {n : Nat} {r : Term} {x : String} (ih : ConfinesWithin n) (hr : r.WellFormed)

include ih hr

theorem mapM {ts : List Term} (hts : WellFormedAll ts) (hn : Term.heightAll ts ≤ n) :
    EndsIn (List.Forall₂ (Confined r x) ts) (fun _ => True) (ts.mapM (substWithin n r x)) := by
  refine Naming.endsIn_mapM fun t ht => ?_
  exact ih r t x hr (wellFormedAll_iff.mp hts t ht) (Nat.le_trans (height_le_heightAll ht) hn)

theorem fix (f : String) (τ : Ty) {b : Term} (hb : b.WellFormed) (hn : b.height ≤ n) :
    EndsIn (Confined r x (.fix f τ b)) (fun _ => True) (substWithin (n + 1) r x (.fix f τ b)) := by
  rw [substWithin]
  by_cases hf : f = x
  · rw [if_pos hf]
    exact Naming.endsIn_pure (confined_of_not_free (by simp [hf]))
  · rw [if_neg hf]
    refine Naming.endsIn_any.bind fun dangerous _ => ?_
    refine (endsIn_avoidCapture ih dangerous [] f hb hn).bind fun p hp => ?_
    have hn₁ : p.2.height ≤ n := by
      rw [hp.height]
      exact hn
    refine (ih r p.2 x hr hp.wellFormed hn₁).bind fun b' hb' => ?_
    exact Naming.endsIn_pure (Confined.fix τ hp hb')

theorem letIn (y : String) {v b : Term} (hv : v.WellFormed) (hb : b.WellFormed)
    (hvn : v.height ≤ n) (hbn : b.height ≤ n) :
    EndsIn (Confined r x (.letIn y v b)) (fun _ => True)
      (substWithin (n + 1) r x (.letIn y v b)) := by
  rw [substWithin]
  refine (ih r v x hr hv hvn).bind fun v' hv' => ?_
  by_cases hy : y = x
  · rw [if_pos hy]
    refine Naming.endsIn_pure (Confined.letIn hv' fun z hz hzy => ?_)
    exact Or.inl ⟨⟨hz, hzy⟩, by simpa [hy] using hzy⟩
  · rw [if_neg hy]
    refine Naming.endsIn_any.bind fun dangerous _ => ?_
    refine (endsIn_avoidCapture ih dangerous [] y hb hbn).bind fun p hp => ?_
    have hn₁ : p.2.height ≤ n := by
      rw [hp.height]
      exact hbn
    refine (ih r p.2 x hr hp.wellFormed hn₁).bind fun b' hb' => ?_
    exact Naming.endsIn_pure (Confined.letIn hv' fun z => hp.confined hb')

theorem fn (ps : List (String × Ty)) {b : Term} (hb : b.WellFormed) (hn : b.height ≤ n) :
    EndsIn (Confined r x (.fn ps b)) (fun _ => True) (substWithin (n + 1) r x (.fn ps b)) := by
  rw [substWithin]
  by_cases hx : x ∈ ps.map (·.1)
  · rw [if_pos hx]
    exact Naming.endsIn_pure (confined_of_not_free (by simp [List.mem_map.mp hx]))
  · rw [if_neg hx]
    refine Naming.endsIn_any.bind fun dangerous _ => ?_
    refine (endsIn_avoidCaptures ih dangerous (ps.map (·.1)) ps hb hn).bind fun p hp => ?_
    have hn₁ : p.2.height ≤ n := by
      rw [hp.height]
      exact hn
    refine (ih r p.2 x hr hp.wellFormed hn₁).bind fun b' hb' => ?_
    refine Naming.endsIn_liftExcept (fun t' ht' => ?_) (fun _ _ => trivial)
    rw [eq_of_fn?_eq_ok ht']
    exact Confined.fn hp hb'

end ConfinesWithin

theorem confinesWithin (n : Nat) : ConfinesWithin n := by
  induction n with
  | zero =>
      intro r t x hr ht hn
      exact absurd hn (Nat.not_le.mpr t.height_pos)
  | succ n ih =>
      intro r t x hr ht hn
      cases t with
      | int | bool => exact Naming.endsIn_pure (confined_of_not_free List.not_mem_nil)
      | stray s => exact ht.elim
      | var y =>
          rw [substWithin]
          by_cases hy : y = x
          · rw [if_pos hy]
            exact Naming.endsIn_pure fun z hz => Or.inr hz
          · rw [if_neg hy]
            exact Naming.endsIn_pure (confined_of_not_free (by simpa using Ne.symm hy))
      | ite c a b =>
          simp only [Term.height] at hn
          rw [substWithin]
          refine (ih r c x hr ht.1 (by omega)).bind fun c' hc => ?_
          refine (ih r a x hr ht.2.1 (by omega)).bind fun a' ha => ?_
          refine (ih r b x hr ht.2.2 (by omega)).bind fun b' hb => ?_
          exact Naming.endsIn_pure (Confined.ite hc ha hb)
      | prim op ts =>
          simp only [Term.height] at hn
          rw [substWithin]
          refine (ih.mapM hr ht (by omega)).bind fun ts' hts => ?_
          exact Naming.endsIn_pure fun z hz => Confined.all hts hz
      | app f ts =>
          simp only [Term.height] at hn
          rw [substWithin]
          refine (ih r f x hr ht.1 (by omega)).bind fun f' hf => ?_
          refine (ih.mapM hr ht.2 (by omega)).bind fun ts' hts => ?_
          exact Naming.endsIn_pure (Confined.app hf hts)
      | fix f τ b =>
          simp only [Term.height] at hn
          exact ih.fix hr f τ ht (by omega)
      | letIn y v b =>
          simp only [Term.height] at hn
          exact ih.letIn hr y ht.1 ht.2 (by omega) (by omega)
      | fn ps b =>
          simp only [Term.height] at hn
          exact ih.fn hr ps ht.2 (by omega)

/-- **Substitution succeeds and invents no name.** -/
theorem endsIn_subst {E : Fault → Prop} {r t : Term} (x : String) (hr : r.WellFormed)
    (ht : t.WellFormed) :
    EndsIn (fun t' => t'.WellFormed ∧ Confined r x t t') E (r.subst x t) := by
  refine Naming.endsIn_of_run fun names => ?_
  obtain ⟨t', names', hrun, -, hsub⟩ := run_subst x hr ht names
  have hconf := confinesWithin t.height r t x hr ht (Nat.le_refl _)
  refine ⟨t', names', hrun, hsub.wellFormed, ?_⟩
  exact hconf.of_ok (congrArg Prod.fst hrun)

end TypedLambda.Term
