/-
The lines of the command line.

The text of a type is made of letters, brackets, commas and arrows, so the line that shows it has
it as it is.  The text of a term may hold anything, because names do: it may have several lines,
and none of them need look like what it is.  Where such a text follows a label, the label is still
what its first line begins with.  That is enough to tell the reports of a run apart.
-/
import TypedLambda.Command
import TypedLambda.Proofs.Rendering
import TypedLambda.Proofs.Text.Display

namespace TypedLambda

/-! ### The texts of types -/

namespace Ty

end Ty

namespace Command

/-! ### Labels -/

end Command

end TypedLambda
