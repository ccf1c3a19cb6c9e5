/-
Operations that give a result or an error, one after another.

A sequence succeeds if each of its parts does, and along a list that is said element by
element.  Evaluation and checking both go wrong at the first part that does.
-/
import Mathlib.Data.List.Forall2

namespace TypedLambda

variable {ε α β γ : Type}

@[simp] theorem ok_bind (a : α) (f : α → Except ε β) : (Except.ok a >>= f) = f a := rfl

@[simp] theorem error_bind (e : ε) (f : α → Except ε β) :
    (Except.error e >>= f) = .error e := rfl

theorem pure_eq_ok {a b : α} : (pure a : Except ε α) = .ok b ↔ a = b := by
  show (.ok a : Except ε α) = .ok b ↔ a = b
  rw [Except.ok.injEq]

theorem bind_eq_ok {x : Except ε α} {f : α → Except ε β} {b : β} :
    x >>= f = .ok b ↔ ∃ a, x = .ok a ∧ f a = .ok b := by
  cases x with
  | error e => simp
  | ok a => simp

theorem bind_eq_error {x : Except ε α} {f : α → Except ε β} {e : ε} :
    x >>= f = .error e ↔ x = .error e ∨ ∃ a, x = .ok a ∧ f a = .error e := by
  cases x with
  | error e => simp
  | ok a => simp

theorem mapM_eq_ok {f : α → Except ε β} {l : List α} {bs : List β} :
    l.mapM f = .ok bs ↔ List.Forall₂ (fun a b => f a = .ok b) l bs := by
  induction l generalizing bs with
  | nil =>
      rw [List.mapM_nil, List.forall₂_nil_left_iff]
      exact ⟨fun h => by cases h; rfl, fun h => by rw [h]; rfl⟩
  | cons a l ih =>
      rw [List.mapM_cons, bind_eq_ok, List.forall₂_cons_left_iff]
      constructor
      · rintro ⟨b, hb, hrest⟩
        obtain ⟨cs, hcs, hbs⟩ := bind_eq_ok.mp hrest
        cases hbs
        exact ⟨b, cs, hb, ih.mp hcs, rfl⟩
      · rintro ⟨b, cs, hb, hcs, rfl⟩
        exact ⟨b, hb, bind_eq_ok.mpr ⟨cs, ih.mpr hcs, rfl⟩⟩

/-- The first element that gives an error gives that of the whole. -/
theorem mapM_eq_error {f : α → Except ε β} {l : List α} {e : ε} :
    l.mapM f = .error e ↔ ∃ before a after, l = before ++ a :: after ∧
      (∀ b ∈ before, ∃ c, f b = .ok c) ∧ f a = .error e := by
  induction l with
  | nil =>
      constructor
      · intro h
        cases h
      · rintro ⟨before, a, after, h, -⟩
        simp at h
  | cons x l ih =>
      rw [List.mapM_cons, bind_eq_error]
      constructor
      · rintro (hx | ⟨b, hx, hrest⟩)
        · exact ⟨[], x, l, rfl, by simp, hx⟩
        · rcases bind_eq_error.mp hrest with hl | ⟨bs, -, hbs⟩
          · obtain ⟨before, a, after, rfl, hbefore, ha⟩ := ih.mp hl
            refine ⟨x :: before, a, after, rfl, ?_, ha⟩
            exact List.forall_mem_cons.mpr ⟨⟨b, hx⟩, hbefore⟩
          · cases hbs
      · rintro ⟨before, a, after, hl, hbefore, ha⟩
        cases before with
        | nil =>
            obtain ⟨rfl, -⟩ := List.cons.inj hl
            exact Or.inl ha
        | cons y before =>
            obtain ⟨rfl, rfl⟩ := List.cons.inj hl
            obtain ⟨⟨b, hb⟩, hbefore⟩ := List.forall_mem_cons.mp hbefore
            refine Or.inr ⟨b, hb, ?_⟩
            rw [ih.mpr ⟨before, a, after, rfl, hbefore, ha⟩, error_bind]

/-- What holds of every possible result holds of all the results. -/
theorem forall_of_mapM_eq_ok {f : α → Except ε β} {l : List α} {bs : List β} {P : β → Prop}
    (h : ∀ a ∈ l, ∀ b, f a = .ok b → P b) (hbs : l.mapM f = .ok bs) : ∀ b ∈ bs, P b := by
  induction mapM_eq_ok.mp hbs with
  | nil => simp
  | cons hb hrest ih =>
      rw [List.forall_mem_cons] at h ⊢
      exact ⟨h.1 _ hb, ih h.2 (mapM_eq_ok.mpr hrest)⟩

theorem exists_of_forall₂_of_mem {R : α → β → Prop} {l : List α} {bs : List β}
    (h : List.Forall₂ R l bs) {a : α} (ha : a ∈ l) : ∃ b ∈ bs, R a b := by
  induction h with
  | nil => cases ha
  | cons hab hrest ih =>
      rcases List.mem_cons.mp ha with rfl | ha
      · exact ⟨_, List.mem_cons_self, hab⟩
      · obtain ⟨b, hb, hR⟩ := ih ha
        exact ⟨b, List.mem_cons_of_mem _ hb, hR⟩

/--
What is known of each element, `R`, is turned into what is known of its result, `S`, unless
the operation fails with `e`.  Then the same holds of the operations in a row.
-/
theorem mapM_error_or_ok {f : α → Except ε β} {e : ε} {R : α → γ → Prop} {S : β → γ → Prop}
    {l : List α} {cs : List γ} (hl : List.Forall₂ R l cs)
    (h : ∀ a ∈ l, ∀ c, R a c → f a = .error e ∨ ∃ b, f a = .ok b ∧ S b c) :
    l.mapM f = .error e ∨ ∃ bs, l.mapM f = .ok bs ∧ List.Forall₂ S bs cs := by
  induction hl with
  | nil => exact Or.inr ⟨[], rfl, .nil⟩
  | cons hR _ ih =>
      rw [List.mapM_cons]
      rcases h _ List.mem_cons_self _ hR with ha | ⟨b, ha, hS⟩
      · exact Or.inl (by rw [ha, error_bind])
      · rw [ha, ok_bind]
        rcases ih fun a hmem => h a (List.mem_cons_of_mem _ hmem) with hl | ⟨bs, hl, hSs⟩
        · exact Or.inl (by rw [hl, error_bind])
        · exact Or.inr ⟨b :: bs, by rw [hl, ok_bind]; rfl, .cons hS hSs⟩

end TypedLambda
