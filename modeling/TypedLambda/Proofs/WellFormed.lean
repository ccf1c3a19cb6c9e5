/-
Terms as they can be built: without a stray text, and with the parameters of every
function literal named apart.

`fn?` refuses a literal that names a parameter twice, and a stray text is not a term of
the language.  On well formed terms the checked form of the free names is the free names
themselves, so from here on nothing has to ask for a stray text again.
-/
import TypedLambda.Term.FreeNames

namespace TypedLambda.Term

attribute [simp] freeNames

mutual

/-- No stray text, and no literal with a parameter named twice, at any depth. -/
def WellFormed : Term → Prop
  | int _ | bool _ | var _ => True
  | stray _ => False
  | ite c a b => WellFormed c ∧ WellFormed a ∧ WellFormed b
  | prim _ ts => WellFormedAll ts
  | fn ps b => (ps.map (·.1)).Nodup ∧ WellFormed b
  | fix _ _ b => WellFormed b
  | letIn _ v b => WellFormed v ∧ WellFormed b
  | app f ts => WellFormed f ∧ WellFormedAll ts

def WellFormedAll : List Term → Prop
  | [] => True
  | t :: ts => WellFormed t ∧ WellFormedAll ts

end

theorem wellFormedAll_iff {ts : List Term} : WellFormedAll ts ↔ ∀ t ∈ ts, t.WellFormed := by
  induction ts with
  | nil => simp [WellFormedAll]
  | cons t ts ih => simp [WellFormedAll, ih]

mutual

def decideWellFormed : (t : Term) → Decidable t.WellFormed
  | int _ | bool _ | var _ => isTrue trivial
  | stray _ => isFalse id
  | ite c a b =>
    have := decideWellFormed c
    have := decideWellFormed a
    have := decideWellFormed b
    inferInstanceAs (Decidable (_ ∧ _ ∧ _))
  | prim _ ts => decideWellFormedAll ts
  | fn _ b =>
    have := decideWellFormed b
    inferInstanceAs (Decidable (List.Nodup _ ∧ _))
  | fix _ _ b => decideWellFormed b
  | letIn _ v b =>
    have := decideWellFormed v
    have := decideWellFormed b
    inferInstanceAs (Decidable (_ ∧ _))
  | app f ts =>
    have := decideWellFormed f
    have := decideWellFormedAll ts
    inferInstanceAs (Decidable (_ ∧ _))

def decideWellFormedAll : (ts : List Term) → Decidable (WellFormedAll ts)
  | [] => isTrue trivial
  | t :: ts =>
    have := decideWellFormed t
    have := decideWellFormedAll ts
    inferInstanceAs (Decidable (_ ∧ _))

end

instance : DecidablePred WellFormed := decideWellFormed

theorem firstStray?_eq_none {t : Term} (ht : t.WellFormed) : t.firstStray? = none := by
  induction t using Term.induction with
  | int | bool | var => rfl
  | stray => exact ht.elim
  | ite c a b ihc iha ihb =>
      obtain ⟨hc, ha, hb⟩ := ht
      simp [firstStray?, ihc hc, iha ha, ihb hb]
  | prim op ts ih =>
      exact firstStrayOf?_eq_none_iff.mpr fun t h => ih t h (wellFormedAll_iff.mp ht t h)
  | fn ps b ih => exact ih ht.2
  | fix f τ b ih => exact ih ht
  | letIn x v b ihv ihb => simp [firstStray?, ihv ht.1, ihb ht.2]
  | app f ts ihf ih =>
      have hts : firstStrayOf? ts = none :=
        firstStrayOf?_eq_none_iff.mpr fun t h => ih t h (wellFormedAll_iff.mp ht.2 t h)
      simp [firstStray?, ihf ht.1, hts]

theorem freeNames?_eq_ok {t : Term} (ht : t.WellFormed) : t.freeNames? = .ok t.freeNames := by
  simp [freeNames?, firstStray?_eq_none ht]

theorem fn?_eq_ok {ps : List (String × Ty)} (hps : (ps.map (·.1)).Nodup) (b : Term) :
    fn? ps b = .ok (.fn ps b) :=
  if_pos hps

/-! ### Closed terms -/

/-- No name is free. -/
def Closed (t : Term) : Prop := ∀ x, x ∉ t.freeNames

theorem closed_iff {t : Term} : t.Closed ↔ t.freeNames = [] :=
  List.eq_nil_iff_forall_not_mem.symm

instance : DecidablePred Closed := fun _ => decidable_of_iff _ closed_iff.symm

theorem closed_ite {c a b : Term} :
    (ite c a b).Closed ↔ c.Closed ∧ a.Closed ∧ b.Closed := by
  simp only [Closed, freeNames, List.mem_append, not_or, forall_and, and_assoc]

theorem closed_prim {op : Prim} {ts : List Term} :
    (prim op ts).Closed ↔ ∀ t ∈ ts, t.Closed := by
  simp only [Closed, freeNames, mem_freeNamesAll_iff]
  grind

theorem closed_fn {ps : List (String × Ty)} {b : Term} :
    (fn ps b).Closed ↔ ∀ x ∈ b.freeNames, x ∈ ps.map (·.1) := by
  simp only [Closed, freeNames, List.mem_filter]
  grind

theorem closed_fix {f : String} {τ : Ty} {b : Term} :
    (fix f τ b).Closed ↔ ∀ x ∈ b.freeNames, x = f := by
  simp only [Closed, freeNames, List.mem_filter]
  grind

theorem closed_letIn {y : String} {v b : Term} :
    (letIn y v b).Closed ↔ v.Closed ∧ ∀ x ∈ b.freeNames, x = y := by
  simp only [Closed, freeNames, List.mem_append, List.mem_filter]
  grind

theorem closed_app {f : Term} {ts : List Term} :
    (app f ts).Closed ↔ f.Closed ∧ ∀ t ∈ ts, t.Closed := by
  simp only [Closed, freeNames, List.mem_append, mem_freeNamesAll_iff]
  grind

end TypedLambda.Term
