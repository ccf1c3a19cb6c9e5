import TypedLambda.Command
import TypedLambda.Main
import TypedLambda.Proofs.Supply
import TypedLambda.Proofs.WellFormed
import TypedLambda.Proofs.Naming
import TypedLambda.Proofs.Nameless
import TypedLambda.Proofs.Subst.Capture
import TypedLambda.Proofs.Subst
import TypedLambda.Proofs.Subst.FreeNames
import TypedLambda.Proofs.Subst.Rules
import TypedLambda.Proofs.Subst.Totality
import TypedLambda.Proofs.Instantiate
import TypedLambda.Proofs.Results
import TypedLambda.Proofs.Reduce
import TypedLambda.Proofs.Typing
import TypedLambda.Proofs.Soundness
import TypedLambda.Proofs.Termination
import TypedLambda.Proofs.Writable
import TypedLambda.Proofs.Store
import TypedLambda.Proofs.Store.Resolve
import TypedLambda.Proofs.Unify
import TypedLambda.Proofs.Unify.Growth
import TypedLambda.Proofs.Unify.Termination
import TypedLambda.Proofs.Unify.Calls
import TypedLambda.Proofs.Unify.Solutions
import TypedLambda.Proofs.Unify.Arrangement
import TypedLambda.Proofs.Unify.Frame
import TypedLambda.Proofs.Unify.Recursion
import TypedLambda.Proofs.Unify.Repetition
import TypedLambda.Proofs.Unify.UnboundCell
import TypedLambda.Proofs.Naming.Outcome
import TypedLambda.Proofs.Scope
import TypedLambda.Proofs.Subst.Confined
import TypedLambda.Proofs.Confinement
import TypedLambda.Proofs.Environment
import TypedLambda.Proofs.Environment.Agreement
import TypedLambda.Proofs.Alpha
import TypedLambda.Proofs.Alpha.Nameless
import TypedLambda.Proofs.Alpha.Typing
import TypedLambda.Proofs.Alpha.Evaluation
import TypedLambda.Proofs.Typing.Refusal
import TypedLambda.Proofs.Typing.Scope
import TypedLambda.Proofs.Typing.Judgement
import TypedLambda.Proofs.Subst.Typing
import TypedLambda.Proofs.Subst.Simultaneous
import TypedLambda.Proofs.Unify.Conflict
import TypedLambda.Proofs.Store.Rendering
import TypedLambda.Proofs.Typing.Order
import TypedLambda.Proofs.Factorial
import TypedLambda.Proofs.Rendering
import TypedLambda.Proofs.Logging
import TypedLambda.Proofs.Text.Parts
import TypedLambda.Proofs.Text.Case
import TypedLambda.Proofs.Text.Case.Words
import TypedLambda.Proofs.Log.Nearest
import TypedLambda.Proofs.Log.Reading
import TypedLambda.Proofs.Log.Filter
import TypedLambda.Proofs.Store.Occurs
import TypedLambda.Proofs.Supply.Interleaving
import TypedLambda.Proofs.Subst.Parameters
import TypedLambda.Proofs.Text.Display
import TypedLambda.Proofs.Command.Lines
import TypedLambda.Proofs.Command.Reports
import TypedLambda.Proofs.Command.Run
