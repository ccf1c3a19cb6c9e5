/-
How severe a record is.

Seven levels have names.  A record may also come with a bare number that has none; it
is shown as `Level n` and filtered by its number like the others.
-/

namespace TypedLambda.Log

inductive Level where
  | trace
  | debug
  | info
  | success
  | warning
  | error
  | critical
  deriving DecidableEq, Inhabited

namespace Level

def all : List Level := [trace, debug, info, success, warning, error, critical]

def name : Level → String
  | trace => "TRACE"
  | debug => "DEBUG"
  | info => "INFO"
  | success => "SUCCESS"
  | warning => "WARNING"
  | error => "ERROR"
  | critical => "CRITICAL"

def number : Level → Nat
  | trace => 5
  | debug => 10
  | info => 20
  | success => 25
  | warning => 30
  | error => 40
  | critical => 50

def ofName? (s : String) : Option Level :=
  all.find? (·.name == s)

end Level

/-- A level as a record carries it. -/
structure Severity where
  name : String
  number : Nat
  deriving DecidableEq, Inhabited

def Level.severity (l : Level) : Severity := ⟨l.name, l.number⟩

namespace Severity

/-- The levels that the plain logging facility calls by name. -/
def plainLevels : List Level := [.debug, .info, .warning, .error, .critical]

/-- A number from the plain logging facility, by name where it has one there. -/
def ofNumber (n : Nat) : Severity :=
  match plainLevels.find? (·.number == n) with
  | some l => l.severity
  | none => ⟨"Level " ++ n.repr, n⟩

end Severity

end TypedLambda.Log
