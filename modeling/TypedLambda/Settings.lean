/-
The settings of the command line.

There are three: a recursion limit of at least a thousand, a log filter, and whether
terms are shown.  Each comes from an override if there is one, else from the
environment, else from its default.  Overrides and variables are found whatever the case
of their names.  Of variables that differ in case alone the last counts; of overrides the
one that is written as the setting, else the first.

A value may come as a text, a number or a truth value, and what cannot be taken for the
kind that is asked for is refused.  Every setting is looked at, so several may be
refused at once.  A value that is overridden is not looked at.
-/
import TypedLambda.Settings.Reading
import TypedLambda.Text.Case

namespace TypedLambda

structure Settings where
  recursionLimit : Int := 20000
  logFilter : String := "info"
  showTerms : Bool := true
  deriving DecidableEq, Inhabited

namespace Settings

/-- A value as it is handed over. -/
inductive Value where
  | text (s : String)
  | number (n : Int)
  | truth (b : Bool)
  /-- Nothing, a list or a table. -/
  | other
  deriving DecidableEq, Inhabited

/-! ### What can be wrong with a value -/

inductive Reason where
  /-- The number is too small. -/
  | tooSmall
  /-- The text is no integer. -/
  | notAnInt
  | intExpected
  /-- The text or the number is no truth value. -/
  | notABool
  | boolExpected
  | textExpected
  deriving DecidableEq, Inhabited

/-- The word for a reason. -/
def Reason.word : Reason → String
  | tooSmall => "greater_than_equal"
  | notAnInt => "int_parsing"
  | intExpected => "int_type"
  | notABool => "bool_parsing"
  | boolExpected => "bool_type"
  | textExpected => "string_type"

/-- A refused value, by the name of its setting. -/
structure Refusal where
  reason : Reason
  field : String
  deriving DecidableEq, Inhabited

/-! ### Taking a value for a kind -/

def leastRecursionLimit : Int := 1000

def atLeast (least n : Int) : Except Reason Int :=
  if n < least then .error .tooSmall else .ok n

/-- A truth value counts as zero or one. -/
def Value.toInt : Value → Except Reason Int
  | text s => match readInt? s with
    | some n => .ok n
    | none => .error .notAnInt
  | number n => .ok n
  | truth b => .ok (if b then 1 else 0)
  | other => .error .intExpected

/-- The bounds of the numbers that are looked at as a truth value. -/
def leastWord : Int := -9223372036854775808

def greatestWord : Int := 9223372036854775807

def Value.toBool : Value → Except Reason Bool
  | text s => match readBool? s with
    | some b => .ok b
    | none => .error .notABool
  | number n =>
    if n = 0 then .ok false
    else if n = 1 then .ok true
    else if leastWord ≤ n ∧ n ≤ greatestWord then .error .notABool
    else .error .boolExpected
  | truth b => .ok b
  | other => .error .boolExpected

def Value.toText : Value → Except Reason String
  | text s => .ok s
  | _ => .error .textExpected

/-! ### Loading -/

/-- What the names of the variables begin with, in lower case. -/
def variableStem : String := "funcore_"

/-- The last variable of the environment for a setting. -/
def fromEnvironment (env : List (String × String)) (field : String) : Option Value :=
  (env.reverse.find? fun v => Text.toLower v.1 == variableStem ++ field).map fun v => .text v.2

/-- The override of a setting. -/
def fromOverrides (overrides : List (String × Value)) (field : String) : Option Value :=
  (overrides.lookup field).or
    ((overrides.find? fun v => Text.toLower v.1 == field).map fun v => v.2)

/-- One setting, from its override, its variable or its default. -/
def get {α : Type} (env : List (String × String)) (overrides : List (String × Value))
    (field : String) (take : Value → Except Reason α) (fallback : α) : Except Refusal α :=
  match (fromOverrides overrides field).or (fromEnvironment env field) with
  | some v => (take v).mapError fun reason => ⟨reason, field⟩
  | none => .ok fallback

/-- The refusal of one setting, if it was refused. -/
def refusalOf {α : Type} : Except Refusal α → List Refusal
  | .ok _ => []
  | .error r => [r]

def load (env : List (String × String)) (overrides : List (String × Value)) :
    Except (List Refusal) Settings :=
  let limit := get env overrides "recursion_limit"
    (fun v => v.toInt >>= atLeast leastRecursionLimit) ({} : Settings).recursionLimit
  let logFilter := get env overrides "log_filter" Value.toText ({} : Settings).logFilter
  let showTerms := get env overrides "show_terms" Value.toBool ({} : Settings).showTerms
  match limit, logFilter, showTerms with
  | .ok limit, .ok logFilter, .ok showTerms => .ok ⟨limit, logFilter, showTerms⟩
  | limit, logFilter, showTerms =>
    .error (refusalOf limit ++ refusalOf logFilter ++ refusalOf showTerms)

end Settings

end TypedLambda
