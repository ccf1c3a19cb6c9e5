/-
What the run of a sample reports.

A report follows the lines that a run opens with.  It is the error of the check; or it is the
type, and after it the value, the news that there is none, or nothing if nothing was to be
evaluated.  `TellsTruth` says of a term when each of them is given, with what is shown in it.
A run that comes upon an integer it cannot write gives none of them: it ends there.

A report can be told from the others by its exit code and by how the lines after the opening
begin, so what is said about when a report is given holds in both directions.
-/
import TypedLambda.Proofs.Command.Lines
import TypedLambda.Proofs.Naming
import TypedLambda.Proofs.Writable

namespace TypedLambda

/-- Some budget is enough for the evaluation to come to an end. -/
def Term.Ends (t : Term) : Prop :=
  ∃ n, (({} : Naming).run (t.evaluate n)).1 ≠ .error .outOfBudget

namespace Command

/-! ### The reports -/

section

variable (opening closing : List String)

end

namespace TellsTruth

variable {t : Term} {τ : Ty} {noEval : Bool} (opening closing : List String)

variable {opening closing} {r : Result}

end TellsTruth

/-! ### Reports that cannot be written -/

end Command

end TypedLambda
