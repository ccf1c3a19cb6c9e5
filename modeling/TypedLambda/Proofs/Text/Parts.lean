/-
Parts of a text, with separators between them and blanks around them.

Taking a text apart at a separator gives back the parts it was joined from, if none of them holds
one, and trimming takes away what was put around a part.  What is left of the part itself is its own
affair, so trimming is stated in two steps: characters of the class at either end make no difference,
and a text with none at its ends stays as it is.
-/
import TypedLambda.Text.Blank
import TypedLambda.Text.Split

namespace TypedLambda.Text

/-! ### Separators -/

theorem splitAt_of_not_mem {sep : Char} {cs : List Char} (h : sep ∉ cs) :
    splitAt sep cs = [cs] := by
  induction cs with
  | nil => rfl
  | cons c cs ih =>
      obtain ⟨hc, hcs⟩ := not_or.mp (mt List.mem_cons.mpr h)
      rw [splitAt, if_neg (Ne.symm hc), ih hcs]

theorem splitAt_append_cons {sep : Char} {part : List Char} (h : sep ∉ part) (cs : List Char) :
    splitAt sep (part ++ sep :: cs) = part :: splitAt sep cs := by
  induction part with
  | nil => rw [List.nil_append, splitAt, if_pos rfl]
  | cons c part ih =>
      obtain ⟨hc, hpart⟩ := not_or.mp (mt List.mem_cons.mpr h)
      rw [List.cons_append, splitAt, if_neg (Ne.symm hc), ih hpart]

/-- What was joined is taken apart again. -/
theorem splitAt_joinWith {sep : Char} {parts : List (List Char)} (hne : parts ≠ [])
    (h : ∀ part ∈ parts, sep ∉ part) : splitAt sep (joinWith sep parts) = parts := by
  induction parts with
  | nil => exact absurd rfl hne
  | cons part parts ih =>
      obtain ⟨hpart, hparts⟩ := List.forall_mem_cons.mp h
      cases parts with
      | nil => exact splitAt_of_not_mem hpart
      | cons next parts =>
          rw [joinWith, splitAt_append_cons hpart, ih (List.cons_ne_nil _ _) hparts]

/-! ### Blanks -/

section

variable {p : Char → Bool} {cs : List Char}

theorem trimBy_append_left {before : List Char} (h : ∀ c ∈ before, p c = true) :
    trimBy p (before ++ cs) = trimBy p cs := by
  rw [trimBy, trimBy, List.dropWhile_append_of_pos h]

theorem trimEndBy_append {after : List Char} (h : ∀ c ∈ after, p c = true) :
    trimEndBy p (cs ++ after) = trimEndBy p cs := by
  have hreverse : ∀ c ∈ after.reverse, p c = true := fun c hc => h c (List.mem_reverse.mp hc)
  rw [trimEndBy, trimEndBy, List.reverse_append, List.dropWhile_append_of_pos hreverse]

theorem trimBy_append_right {after : List Char} (h : ∀ c ∈ after, p c = true) :
    trimBy p (cs ++ after) = trimBy p cs := by
  rw [trimBy, trimBy, List.dropWhile_append]
  split
  · next hempty =>
      -- there is nothing but characters of the class
      have hafter : after.dropWhile p = [] := by
        rw [← List.append_nil after, List.dropWhile_append_of_pos h, List.dropWhile_nil]
      rw [List.isEmpty_iff.mp hempty, hafter]
  · exact trimEndBy_append h

/-- A text is trimmed if it neither begins nor ends with a character of the class. -/
theorem trimBy_eq_self (hfirst : ∀ c ∈ cs.head?, p c = false)
    (hlast : ∀ c ∈ cs.getLast?, p c = false) : trimBy p cs = cs := by
  have hdrop : ∀ {ds : List Char}, (∀ c ∈ ds.head?, p c = false) → ds.dropWhile p = ds := by
    intro ds hds
    cases ds with
    | nil => rfl
    | cons d ds => rw [List.dropWhile_cons_of_neg (by simp [hds d rfl])]
  rw [trimBy, hdrop hfirst, trimEndBy, hdrop, List.reverse_reverse]
  rwa [List.head?_reverse]

theorem trimBy_of_forall (h : ∀ c ∈ cs, p c = false) : trimBy p cs = cs :=
  trimBy_eq_self (fun c hc => h c (List.mem_of_head? hc))
    (fun c hc => h c (List.mem_of_getLast? hc))

end

end TypedLambda.Text
