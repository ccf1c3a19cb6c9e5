/-
Texts set one after another with a comma between.

Everything the language prints in a row (operands, parameters, the bindings of a
context) is set this way.  The recursion is on the list alone, so a statement
about a printed row is an induction on its entries.
-/

namespace TypedLambda.Text

/-- The texts in order, with a comma and a blank between neighbours. -/
def commaSeparated : List String → String
  | [] => ""
  | [s] => s
  | s :: t :: rest => s ++ ", " ++ commaSeparated (t :: rest)

end TypedLambda.Text
