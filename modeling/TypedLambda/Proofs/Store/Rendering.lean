/-
What the text of a type shows of the type it stands for.

Rendering follows bindings, so the text of a type has the words of the resolved type in it, in
order.  It can still be another text, because brackets are decided without following anything: an
argument is bracketed if it is an arrow as it stands, and a cell there is written without brackets
even if it leads to an arrow.  The resolved type has the arrow itself in that place.

So the two texts differ in brackets only, and they are the same exactly if no cell in the place of
an argument leads to an arrow.  That one such cell makes a difference is shown by counting: nothing
that rendering does makes up for a bracket that is left out, so the resolved type has more of
them (`Acyclic.openings_lt_of_hidesArrow`).
-/
import TypedLambda.Proofs.Store.Resolve

namespace TypedLambda

namespace Store

variable {S : Store}

/-! ### Equations -/

/-- The text of a type in the place of an argument. -/
def renderArgument (S : Store) : MonoTy → String
  | .arrow b s => "(" ++ S.render (.arrow b s) ++ ")"
  | a => S.render a

theorem renderArgument_of_ne_arrow {a : MonoTy} (ha : ∀ b s, a ≠ .arrow b s) :
    S.renderArgument a = S.render a := by
  cases a with
  | arrow b s => exact absurd rfl (ha b s)
  | int | bool | var | stray => rfl

namespace Acyclic

variable (hS : S.Acyclic)

include hS

theorem renderWithin_eq {n : Nat} {t : MonoTy} (h : S.EndsWithin n t) :
    S.renderWithin n t = S.render t :=
  hS.eq_weight EndsWithin.renderWithin_succ h

theorem render_of_bound {i : Nat} {u : MonoTy} (hi : S.lookup? i = some u) :
    S.render (.var i) = S.render u := by
  rw [← hS.renderWithin_eq (.bound hi (hS.endsWithin u))]
  simp only [renderWithin, hi, render]

theorem render_arrow (a r : MonoTy) :
    S.render (.arrow a r) = S.renderArgument a ++ " -> " ++ S.render r := by
  have ha := (hS.endsWithin a).mono (Nat.le_max_left (S.weight a) (S.weight r))
  have hr := (hS.endsWithin r).mono (Nat.le_max_right (S.weight a) (S.weight r))
  rw [← hS.renderWithin_eq (.arrow ha hr)]
  cases a with
  | arrow b s =>
      have hclose : ") -> " = ")" ++ " -> " := rfl
      rw [renderWithin, hS.renderWithin_eq ha, hS.renderWithin_eq hr, renderArgument, hclose,
        ← String.append_assoc]
  | int | bool | var | stray =>
      rw [renderWithin, hS.renderWithin_eq ha, hS.renderWithin_eq hr, renderArgument]
      · simp
      · simp

end Acyclic

/-! ### Arrows that do not show -/

/--
Somewhere on the way along arrows and bindings a cell stands in the place of an argument and leads
to an arrow.
-/
inductive HidesArrow (S : Store) : MonoTy → Prop where
  | here {i : Nat} {a r : MonoTy} (x : MonoTy) (h : S.LeadsTo (.var i) (.arrow a r)) :
      HidesArrow S (.arrow (.var i) x)
  | arg {a : MonoTy} (r : MonoTy) (h : HidesArrow S a) : HidesArrow S (.arrow a r)
  | ret {r : MonoTy} (a : MonoTy) (h : HidesArrow S r) : HidesArrow S (.arrow a r)
  | follow {i : Nat} {u : MonoTy} (hi : S.lookup? i = some u) (h : HidesArrow S u) :
      HidesArrow S (.var i)

/-- If an argument hides no arrow, it is bracketed if the resolved one is. -/
theorem Acyclic.renderArgument_resolve (hS : S.Acyclic) {a : MonoTy}
    (ha : ∀ i, a = .var i → ¬ ∃ b s, S.LeadsTo a (.arrow b s))
    (h : S.render a = S.render (S.resolve a)) :
    S.renderArgument a = S.renderArgument (S.resolve a) := by
  cases a with
  | int => rw [hS.resolve_int]
  | bool => rw [hS.resolve_bool]
  | stray s => rw [hS.resolve_stray]
  | arrow b s =>
      rw [hS.resolve_arrow] at h ⊢
      rw [renderArgument, renderArgument, h]
  | var i =>
      have hne : ∀ b s, S.resolve (.var i) ≠ .arrow b s := fun b s heq =>
        ha i rfl (hS.exists_leadsTo_arrow_iff.mpr ⟨b, s, heq⟩)
      rw [renderArgument_of_ne_arrow hne, ← h]
      rfl

theorem Acyclic.render_eq_of_not_hidesArrow (hS : S.Acyclic) {t : MonoTy}
    (ht : ¬ S.HidesArrow t) : S.render t = S.render (S.resolve t) := by
  induction t using hS.resolve_induction with
  | resolved t h => rw [h]
  | bound i u hi ih =>
      rw [hS.render_of_bound hi, hS.resolve_of_bound hi]
      exact ih fun h => ht (.follow hi h)
  | arrow a r iha ihr =>
      have ha : ∀ i, a = .var i → ¬ ∃ b s, S.LeadsTo a (.arrow b s) := by
        rintro i rfl ⟨b, s, h⟩
        exact ht (.here r h)
      have harg := hS.renderArgument_resolve ha (iha fun h => ht (.arg r h))
      rw [hS.resolve_arrow, hS.render_arrow, hS.render_arrow, harg, ihr fun h => ht (.ret a h)]

/-! ### Brackets -/

/-- The number of opening brackets in a text. -/
def openings (text : String) : Nat := text.toList.count '('

/-- A text without its brackets. -/
def unbracketed (text : String) : List Char := text.toList.filter fun c => c ≠ '(' ∧ c ≠ ')'

theorem openings_append (s t : String) : openings (s ++ t) = openings s + openings t := by
  rw [openings, String.toList_append, List.count_append, openings, openings]

theorem unbracketed_append (s t : String) :
    unbracketed (s ++ t) = unbracketed s ++ unbracketed t := by
  rw [unbracketed, String.toList_append, List.filter_append, unbracketed, unbracketed]

theorem openings_renderArgument_arrow (b s : MonoTy) :
    openings (S.renderArgument (.arrow b s)) = openings (S.render (.arrow b s)) + 1 := by
  have hopen : openings "(" = 1 := by decide
  have hclose : openings ")" = 0 := by decide
  rw [renderArgument, openings_append, openings_append, hopen, hclose]
  omega

theorem openings_le_renderArgument (a : MonoTy) :
    openings (S.render a) ≤ openings (S.renderArgument a) := by
  cases a with
  | arrow b s =>
      rw [openings_renderArgument_arrow]
      exact Nat.le_succ _
  | int | bool | var | stray => exact Nat.le_refl _

/-- The brackets around an argument are all that it has beyond its own text. -/
theorem unbracketed_renderArgument (a : MonoTy) :
    unbracketed (S.renderArgument a) = unbracketed (S.render a) := by
  cases a with
  | arrow b s =>
      have hopen : unbracketed "(" = [] := by decide
      have hclose : unbracketed ")" = [] := by decide
      rw [renderArgument, unbracketed_append, unbracketed_append, hopen, hclose, List.nil_append,
        List.append_nil]
  | int | bool | var | stray => rfl

namespace Acyclic

variable (hS : S.Acyclic)

include hS

theorem openings_render_arrow (a r : MonoTy) :
    openings (S.render (.arrow a r)) = openings (S.renderArgument a) + openings (S.render r) := by
  have hto : openings " -> " = 0 := by decide
  rw [hS.render_arrow, openings_append, openings_append, hto, Nat.add_zero]

/-- Brackets that the text of a type lacks, it lacks in the place of an argument too. -/
theorem openings_renderArgument_add_le {a : MonoTy} {k : Nat}
    (h : openings (S.render a) + k ≤ openings (S.render (S.resolve a))) :
    openings (S.renderArgument a) + k ≤ openings (S.renderArgument (S.resolve a)) := by
  cases a with
  | arrow b s =>
      rw [hS.resolve_arrow] at h ⊢
      rw [openings_renderArgument_arrow, openings_renderArgument_arrow]
      omega
  | int | bool | var | stray => exact Nat.le_trans h (openings_le_renderArgument _)

theorem openings_le (t : MonoTy) : openings (S.render t) ≤ openings (S.render (S.resolve t)) := by
  induction t using hS.resolve_induction with
  | resolved t h => exact Nat.le_of_eq (by rw [h])
  | bound i u hi ih =>
      rw [hS.render_of_bound hi, hS.resolve_of_bound hi]
      exact ih
  | arrow a r iha ihr =>
      have harg := hS.openings_renderArgument_add_le (k := 0) iha
      rw [hS.resolve_arrow, hS.openings_render_arrow, hS.openings_render_arrow]
      exact Nat.add_le_add harg ihr

/-- An arrow that does not show leaves a bracket out. -/
theorem openings_lt_of_hidesArrow {t : MonoTy} (ht : S.HidesArrow t) :
    openings (S.render t) < openings (S.render (S.resolve t)) := by
  induction ht with
  | @here i a r x h =>
      obtain ⟨b, s, hresolve⟩ := hS.exists_leadsTo_arrow_iff.mp ⟨a, r, h⟩
      have hcell : openings (S.renderArgument (.var i)) <
          openings (S.renderArgument (S.resolve (.var i))) := by
        have hle := hS.openings_le (.var i)
        rw [hresolve] at hle ⊢
        rw [openings_renderArgument_arrow]
        exact Nat.lt_succ_of_le hle
      rw [hS.resolve_arrow, hS.openings_render_arrow, hS.openings_render_arrow]
      exact Nat.add_lt_add_of_lt_of_le hcell (hS.openings_le x)
  | arg r _ ih =>
      rw [hS.resolve_arrow, hS.openings_render_arrow, hS.openings_render_arrow]
      have harg := hS.openings_renderArgument_add_le (k := 1) ih
      exact Nat.add_lt_add_of_lt_of_le harg (hS.openings_le r)
  | @ret r a _ ih =>
      rw [hS.resolve_arrow, hS.openings_render_arrow, hS.openings_render_arrow]
      have harg := hS.openings_renderArgument_add_le (k := 0) (hS.openings_le a)
      exact Nat.add_lt_add_of_le_of_lt harg ih
  | follow hi _ ih =>
      rw [hS.render_of_bound hi, hS.resolve_of_bound hi]
      exact ih

theorem unbracketed_resolve (t : MonoTy) :
    unbracketed (S.render t) = unbracketed (S.render (S.resolve t)) := by
  induction t using hS.resolve_induction with
  | resolved t h => rw [h]
  | bound i u hi ih =>
      rw [hS.render_of_bound hi, hS.resolve_of_bound hi]
      exact ih
  | arrow a r iha ihr =>
      rw [hS.resolve_arrow, hS.render_arrow, hS.render_arrow]
      simp only [unbracketed_append, unbracketed_renderArgument, iha, ihr]

end Acyclic

/--
**The text of a type is that of the resolved type but for brackets, and it is the same exactly if no
argument hides an arrow.**
-/
theorem render_eq_render_resolve_iff (hS : S.Acyclic) (t : MonoTy) :
    unbracketed (S.render t) = unbracketed (S.render (S.resolve t)) ∧
      (S.render t = S.render (S.resolve t) ↔ ¬ S.HidesArrow t) := by
  refine ⟨hS.unbracketed_resolve t, ?_, hS.render_eq_of_not_hidesArrow⟩
  intro heq ht
  have hlt := hS.openings_lt_of_hidesArrow ht
  rw [heq] at hlt
  exact Nat.lt_irrefl _ hlt

/--
Cell 1 leads to an arrow by two bindings.  In the place of a result it is written like what it stands
for, and in the place of an argument it is not.
-/
theorem render_eq_render_resolve_iff_chained :
    let S : Store := { trail := [(1, .var 0), (0, .arrow .bool (.var 2))] }
    let t := MonoTy.arrow (.arrow .int (.var 1)) (.var 1)
    let u := MonoTy.arrow .int (.arrow (.var 1) .int)
    S.Acyclic ∧
      S.render t = "(Int -> Bool -> 't2) -> Bool -> 't2" ∧ ¬ S.HidesArrow t ∧
      S.render u = "Int -> Bool -> 't2 -> Int" ∧ S.HidesArrow u ∧
      unbracketed (S.render u) = unbracketed (S.render (S.resolve u)) ∧
      S.render u ≠ S.render (S.resolve u) := by
  intro S t u
  have hS : S.Acyclic := acyclic_of_rank (fun i => if i = 2 then 0 else i + 1) (by decide)
  have hleads : S.LeadsTo (.var 1) (.arrow .bool (.var 2)) :=
    .follow rfl (.follow rfl (leadsTo_self (by simp)))
  have hu : S.HidesArrow u := .ret _ (.here _ hleads)
  obtain ⟨hu', hiff⟩ := render_eq_render_resolve_iff hS u
  have ht : S.render t = S.render (S.resolve t) := by decide +kernel
  exact ⟨hS, by decide +kernel, (render_eq_render_resolve_iff hS t).2.mp ht, by decide +kernel, hu,
    hu', fun heq => hiff.mp heq hu⟩

/-- A function that takes a function, through a cell, reads like one with two arguments. -/
theorem render_resolve_fails :
    ¬ ∀ (S : Store) (t : MonoTy), S.Acyclic → S.All MonoTy.Proper → t.Proper →
      S.render t = S.render (S.resolve t) := by
  intro h
  let S : Store := { trail := [(0, .arrow .int .int)] }
  have hS : S.Acyclic := acyclic_of_rank (fun i => i) (by decide)
  have hp : S.All MonoTy.Proper := all_of_forall_mem (by decide)
  have heq := h S (.arrow (.var 0) .int) hS hp (by decide)
  have htext : S.render (.arrow (.var 0) .int) = "Int -> Int -> Int" := by decide +kernel
  have hresolved : S.render (S.resolve (.arrow (.var 0) .int)) = "(Int -> Int) -> Int" := by
    decide +kernel
  rw [htext, hresolved] at heq
  exact absurd heq (by decide)

/-- So a mismatch may be reported of two types that read the same. -/
example :
    UnifyFailure.mismatchMessage { trail := [(0, .arrow .int .int)] } (.arrow (.var 0) .int)
      (.arrow .int (.arrow .int .int)) = "Cannot unify Int -> Int -> Int with Int -> Int -> Int" := by
  decide +kernel

end Store

end TypedLambda
