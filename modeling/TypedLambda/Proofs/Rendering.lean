/-
The text of a type can be read in one way only.

Brackets stand around no parameters, around several, and around a single one that is a function
type; a single other parameter has none, and neither has a result.  What makes this unambiguous can
be seen from the left.  The first character tells whether the parameters are bracketed.  If they are,
each of them ends at the comma or the bracket after it, because neither can go on a type; and if they
are not, the parameter is a word, and the blank after it says that an arrow follows.

So the statement that goes through is about a type with more text after it: if that does not begin
with a blank, then the type and what comes after it are both determined by the whole text
(`letters_append_inj`).  The induction is on one of the two types, and a list of parameters up to its
closing bracket is a case of its own.

The types that a mismatch shows are different ones, and so their texts are.
-/
import TypedLambda.Proofs.Typing.Refusal

namespace TypedLambda

namespace Ty

/-! ### Equations -/

/-- The characters of a type's text. -/
def letters (t : Ty) : List Char := t.render.toList

/-- Types with commas between them. -/
def row (ps : List Ty) : List Char := (Text.commaSeparated (renderAll ps)).toList

/-- What comes after the first type of a row. -/
def restOfRow : List Ty → List Char
  | [] => []
  | p :: ps => ',' :: ' ' :: row (p :: ps)

/-- What stands before the arrow. -/
def paramLetters (ps : List Ty) : List Char := (layoutParams ps (renderAll ps)).toList

theorem letters_int : letters int = ['I', 'n', 't'] := rfl

theorem letters_bool : letters bool = ['B', 'o', 'o', 'l'] := rfl

theorem letters_arrow (ps : List Ty) (r : Ty) :
    letters (arrow ps r) = paramLetters ps ++ ' ' :: '-' :: '>' :: ' ' :: letters r := by
  have harrow : " -> ".toList = [' ', '-', '>', ' '] := rfl
  rw [letters, render, String.toList_append, String.toList_append, harrow, paramLetters, letters,
    List.append_assoc]
  rfl

theorem row_cons (p : Ty) (ps : List Ty) : row (p :: ps) = letters p ++ restOfRow ps := by
  cases ps with
  | nil => rw [row, renderAll, renderAll, Text.commaSeparated, restOfRow, List.append_nil, letters]
  | cons q ps =>
      have hcomma : ", ".toList = [',', ' '] := rfl
      rw [row, renderAll, renderAll, Text.commaSeparated, String.toList_append,
        String.toList_append, hcomma, List.append_assoc]
      rfl

/-- Without brackets there is one parameter, and it is a word. -/
theorem paramLetters_cases (ps : List Ty) :
    (ps = [int] ∧ paramLetters ps = letters int) ∨ (ps = [bool] ∧ paramLetters ps = letters bool) ∨
      paramLetters ps = '(' :: (row ps ++ [')']) := by
  have hbrackets : ∀ s : String, ("(" ++ s ++ ")").toList = '(' :: (s.toList ++ [')']) := by
    intro s
    rw [String.toList_append, String.toList_append]
    rfl
  match ps with
  | [int] => exact .inl ⟨rfl, rfl⟩
  | [bool] => exact .inr (.inl ⟨rfl, rfl⟩)
  | [] | [arrow _ _] | int :: _ :: _ | bool :: _ :: _ | arrow _ _ :: _ :: _ =>
      exact .inr (.inr (hbrackets _))

theorem exists_letters_eq_cons (t : Ty) : ∃ c cs, letters t = c :: cs ∧ c ≠ ')' := by
  cases t with
  | int => exact ⟨'I', _, letters_int, by decide⟩
  | bool => exact ⟨'B', _, letters_bool, by decide⟩
  | arrow ps r =>
      rw [letters_arrow]
      obtain ⟨-, h⟩ | ⟨-, h⟩ | h := paramLetters_cases ps
      · exact ⟨'I', _, by rw [h, letters_int]; rfl, by decide⟩
      · exact ⟨'B', _, by rw [h, letters_bool]; rfl, by decide⟩
      · exact ⟨'(', _, by rw [h]; rfl, by decide⟩

/-! ### Reading from the left -/

/-- The type and what comes after it can be told from the text. -/
def Readable (s : Ty) : Prop :=
  ∀ t rest rest', rest.head? ≠ some ' ' → rest'.head? ≠ some ' ' →
    letters s ++ rest = letters t ++ rest' → s = t ∧ rest = rest'

theorem head?_restOfRow_append (ps : List Ty) (rest : List Char) :
    (restOfRow ps ++ ')' :: rest).head? ≠ some ' ' := by
  cases ps with
  | nil => simp [restOfRow]
  | cons p ps => simp [restOfRow]

theorem row_append_inj {ps qs : List Ty} {rest rest' : List Char} (hps : ∀ p ∈ ps, Readable p)
    (h : row ps ++ ')' :: rest = row qs ++ ')' :: rest') : ps = qs ∧ rest = rest' := by
  have hfirst : ∀ (q : Ty) (qs : List Ty) (rest rest' : List Char),
      ')' :: rest ≠ row (q :: qs) ++ ')' :: rest' := by
    intro q qs rest rest' heq
    obtain ⟨c, cs, hq, hc⟩ := exists_letters_eq_cons q
    rw [row_cons, hq, List.cons_append, List.cons_append] at heq
    exact hc (List.cons.inj heq).1.symm
  induction ps generalizing qs with
  | nil =>
      cases qs with
      | nil => exact ⟨rfl, (List.cons.inj h).2⟩
      | cons q qs => exact absurd h (hfirst q qs rest rest')
  | cons p ps ih =>
      cases qs with
      | nil => exact absurd h.symm (hfirst p ps rest' rest)
      | cons q qs =>
          obtain ⟨hp, hps⟩ := List.forall_mem_cons.mp hps
          rw [row_cons, row_cons, List.append_assoc, List.append_assoc] at h
          obtain ⟨rfl, hmore⟩ := hp q _ _ (head?_restOfRow_append ps rest)
            (head?_restOfRow_append qs rest') h
          match ps, qs with
          | [], [] => exact ⟨rfl, (List.cons.inj hmore).2⟩
          | [], _ :: _ => exact absurd (List.cons.inj hmore).1 (by decide)
          | _ :: _, [] => exact absurd (List.cons.inj hmore).1 (by decide)
          | p' :: ps, q' :: qs =>
              obtain ⟨heq, hrest⟩ := ih hps (List.cons.inj (List.cons.inj hmore).2).2
              exact ⟨by rw [heq], hrest⟩

theorem paramLetters_append_inj {ps qs : List Ty} {rest rest' : List Char}
    (hps : ∀ p ∈ ps, Readable p)
    (h : paramLetters ps ++ ' ' :: rest = paramLetters qs ++ ' ' :: rest') :
    ps = qs ∧ rest = rest' := by
  obtain ⟨hps', hp⟩ | ⟨hps', hp⟩ | hp := paramLetters_cases ps
  all_goals
    obtain ⟨hqs', hq⟩ | ⟨hqs', hq⟩ | hq := paramLetters_cases qs
    all_goals rw [hp, hq] at h
  case inl.inl => exact ⟨hps'.trans hqs'.symm, by simpa [letters_int] using h⟩
  case inr.inl.inr.inl => exact ⟨hps'.trans hqs'.symm, by simpa [letters_bool] using h⟩
  case inr.inr.inr.inr =>
    simp only [List.cons_append, List.append_assoc, List.nil_append] at h
    obtain ⟨heq, hrest⟩ := row_append_inj hps (List.cons.inj h).2
    exact ⟨heq, (List.cons.inj hrest).2⟩
  -- the first characters differ
  all_goals simp [letters_int, letters_bool] at h

/-- A word is no function type, unless a blank comes after it. -/
theorem paramLetters_append_ne {t : Ty} (ht : t = int ∨ t = bool) (ps : List Ty)
    {rest rest' : List Char} (hrest : rest.head? ≠ some ' ') :
    letters t ++ rest ≠ paramLetters ps ++ ' ' :: rest' := by
  intro h
  obtain ⟨-, hp⟩ | ⟨-, hp⟩ | hp := paramLetters_cases ps
  all_goals
    rw [hp] at h
    rcases ht with rfl | rfl
    all_goals simp [letters_int, letters_bool] at h
  all_goals simp [h] at hrest

theorem letters_append_inj (s : Ty) : Readable s := by
  induction s using Ty.induction with
  | int =>
      intro t rest rest' hrest hrest' h
      cases t with
      | int => exact ⟨rfl, List.append_cancel_left h⟩
      | bool => simp [letters_int, letters_bool] at h
      | arrow qs r =>
          rw [letters_arrow, List.append_assoc] at h
          exact absurd h (paramLetters_append_ne (.inl rfl) qs hrest)
  | bool =>
      intro t rest rest' hrest hrest' h
      cases t with
      | int => simp [letters_int, letters_bool] at h
      | bool => exact ⟨rfl, List.append_cancel_left h⟩
      | arrow qs r =>
          rw [letters_arrow, List.append_assoc] at h
          exact absurd h (paramLetters_append_ne (.inr rfl) qs hrest)
  | arrow ps r ihps ihr =>
      intro t rest rest' hrest hrest' h
      rw [letters_arrow, List.append_assoc] at h
      cases t with
      | int => exact absurd h.symm (paramLetters_append_ne (.inl rfl) ps hrest')
      | bool => exact absurd h.symm (paramLetters_append_ne (.inr rfl) ps hrest')
      | arrow qs r' =>
          rw [letters_arrow, List.append_assoc] at h
          obtain ⟨rfl, h⟩ := paramLetters_append_inj ihps h
          have hresult : letters r ++ rest = letters r' ++ rest' := by simpa using h
          obtain ⟨rfl, rfl⟩ := ihr r' rest rest' hrest hrest' hresult
          exact ⟨rfl, rfl⟩

theorem eq_of_render_eq {s t : Ty} (h : s.render = t.render) : s = t := by
  have hletters : letters s ++ [] = letters t ++ [] := by rw [letters, letters, h]
  exact (letters_append_inj s t [] [] (by simp) (by simp) hletters).1

end Ty

/-! ### What a mismatch shows -/

theorem Site.Fails.mismatch_ne {Δ : Signatures} {p : Site} {σ τ : Ty}
    (h : Fails Δ p (.error (.mismatch σ τ))) : σ ≠ τ := by
  have hunlike : ∀ {σs τs : List Ty}, Unlike σs τs (.mismatch σ τ) → σ ≠ τ := by
    rintro σs τs ⟨⟩
    assumption
  cases h with
  | operands _ _ h => exact hunlike h
  | args _ _ h => exact hunlike h
  | cond _ _ _ h => exact h
  | branches _ _ _ h => exact h
  | declared _ h => exact h

theorem Term.mismatch_ne_of_infer {Δ : Signatures} {Γ : Context} {t : Term} {σ τ : Ty}
    (h : t.infer Δ Γ = .error (.error (.mismatch σ τ))) : σ ≠ τ :=
  Site.of_infer_eq_error (p := ⟨Γ, t⟩) (P := fun _ => σ ≠ τ) (fun _ _ _ hne => hne)
    (fun _ hq => hq.mismatch_ne) h

/--
**Types with the same text are the same, so the two types that a mismatch shows read differently.**
-/
theorem Ty.render_unambiguous :
    (∀ s t : Ty, s.render = t.render → s = t) ∧
      ∀ (Δ : Signatures) (Γ : Context) (e : Term) (σ τ : Ty),
        e.infer Δ Γ = .error (.error (.mismatch σ τ)) →
          (TypeError.mismatch σ τ).message =
              "Expected type " ++ σ.render ++ ", but got " ++ τ.render ∧
            σ.render ≠ τ.render := by
  refine ⟨fun s t => eq_of_render_eq, ?_⟩
  intro Δ Γ e σ τ h
  exact ⟨rfl, fun heq => Term.mismatch_ne_of_infer h (eq_of_render_eq heq)⟩

/-- The branches have types that differ in nothing but in how the parameters are grouped. -/
theorem Ty.render_unambiguous_grouped :
    let σ := Ty.arrow [.arrow [.int] .int] .int
    let τ := Ty.arrow [.int] (.arrow [.int] .int)
    let e := Term.ite (.bool true) (.fn [("f", .arrow [.int] .int)] (.int 1))
      (.fn [("x", .int)] (.fn [("y", .int)] (.var "x")))
    (σ.render = "(Int -> Int) -> Int" ∧ ∀ t : Ty, t.render = "(Int -> Int) -> Int" → t = σ) ∧
      e.infer .standard .empty = .error (.error (.mismatch σ τ)) ∧ σ.render ≠ τ.render := by
  intro σ τ e
  obtain ⟨hinj, hmismatch⟩ := Ty.render_unambiguous
  have hσ : σ.render = "(Int -> Int) -> Int" := by decide +kernel
  have he : e.infer .standard .empty = .error (.error (.mismatch σ τ)) := rfl
  exact ⟨⟨hσ, fun t ht => hinj t σ (ht.trans hσ.symm)⟩, he, (hmismatch _ _ e σ τ he).2⟩

end TypedLambda
