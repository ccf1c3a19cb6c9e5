/-
How a term is written.

Every compound term is bracketed, an application excepted, which is its function
followed by the arguments in brackets.  A primitive operation with one operand is
written before it and with two between them; any other number, which no well typed
term has, is written like a function.

A term with an integer that has too many digits is not written at all.
-/
import TypedLambda.Term

namespace TypedLambda.Term

/-- An integer in decimal notation. -/
def renderInt (n : Int) : Except Fault String :=
  if (Nat.toDigits 10 n.natAbs).length ≤ maxDigits then .ok n.repr else .error .integerTooLong

/-- A parameter with its annotation. -/
def renderParam (p : String × Ty) : String :=
  p.1 ++ ":" ++ p.2.render

/-- An operation around the texts of its operands. -/
def layoutPrim (op : Prim) : List String → String
  | [only] => "(" ++ op.symbol ++ only ++ ")"
  | [left, right] => "(" ++ left ++ " " ++ op.symbol ++ " " ++ right ++ ")"
  | texts => op.functionName ++ "(" ++ Text.commaSeparated texts ++ ")"

mutual

def render : Term → Except Fault String
  | int n => renderInt n
  | bool b => return if b then "true" else "false"
  | var x => return x
  | ite c t e => do
    return "(if " ++ (← render c) ++ " then " ++ (← render t) ++ " else " ++ (← render e) ++ ")"
  | prim op ts => return layoutPrim op (← renderAll ts)
  | fn ps b => do
    return "(fn (" ++ Text.commaSeparated (ps.map renderParam) ++ ") => " ++ (← render b) ++ ")"
  | fix f τ b => return "(rec " ++ f ++ ":" ++ τ.render ++ ". " ++ (← render b) ++ ")"
  | letIn x v b => do
    return "(let " ++ x ++ " = " ++ (← render v) ++ " in " ++ (← render b) ++ ")"
  | app f ts => do
    return (← render f) ++ "(" ++ Text.commaSeparated (← renderAll ts) ++ ")"
  | stray s => return s

def renderAll : List Term → Except Fault (List String)
  | [] => return []
  | t :: ts => return (← render t) :: (← renderAll ts)

end

end TypedLambda.Term
