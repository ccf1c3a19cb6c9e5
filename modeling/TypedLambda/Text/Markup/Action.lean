/-
Actions, which a tag can name after an equals sign.

An action is a handler, a dotted name, with or without arguments in brackets; or it is the
arguments alone.  The arguments are a literal value.
-/
import TypedLambda.Text.Blank
import TypedLambda.Text.Literal

namespace TypedLambda.Text.Markup.Action

def continuesHandler (c : Char) : Bool :=
  c == '_' || c == '.' || isLetterOrNumeral c

/-- The arguments of an action.  Those of a handler stand on one line. -/
def arguments (action : List Char) : List Char :=
  match action.dropWhile continuesHandler with
  | [] => "()".toList
  | rest =>
    if rest.head? = some '(' ∧ rest.getLast? = some ')' ∧ '\n' ∉ rest then rest else action

/-- Whether an action can be read. -/
def isReadable (action : List Char) : Bool :=
  action = [] || isLiteral (arguments (trimBy isBlank action))

end TypedLambda.Text.Markup.Action
