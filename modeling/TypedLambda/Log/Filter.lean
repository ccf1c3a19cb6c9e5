/-
Log filters: which records of which module are written.

A filter is written as parts between commas.  A part with an equals sign is an entry
for a module: a level, from which on its records are written, or `false`, which drops
them all.  A part without one is the level for every other module, and the last such
part counts.  Blanks around parts, module names and levels do not matter, and neither
does case: the whole text is put into lower case first, the module names with it.

Reading a filter accepts every text.  Only when the filter is put to use are the level
names looked up, and then the first entry that names no level is refused.

A record is judged by the nearest entry: that of its module, else of the module before
the last dot, and so on to the empty name, which stands for all modules.
-/
import TypedLambda.Log.Level
import TypedLambda.Text.Blank
import TypedLambda.Text.Case
import TypedLambda.Text.Split

namespace TypedLambda.Log

/-- What a filter says about a module. -/
inductive Rule where
  | off
  /-- Everything from the level of that name on. -/
  | level (name : String)
  deriving DecidableEq, Inhabited

/-- A filter as it was written. -/
structure FilterSpec where
  /-- The level for modules without an entry. -/
  level : String := "info"
  /-- The entries, in the order in which their modules first appeared. -/
  entries : List (String × Rule) := []
  deriving DecidableEq, Inhabited

/-- Gives a module a rule: in the place of its entry if there is one, and else at the end. -/
def setRule (module : String) (rule : Rule) : List (String × Rule) → List (String × Rule)
  | [] => [(module, rule)]
  | e :: entries =>
    if e.1 = module then (module, rule) :: entries else e :: setRule module rule entries

namespace FilterSpec

/-! ### Reading -/

def readRule (level : List Char) : Rule :=
  let level := Text.trimBy Text.isBlank level
  if level = "false".toList then .off else .level (Text.toUpper (String.ofList level))

def addPart (f : FilterSpec) (part : List Char) : FilterSpec :=
  match Text.cutAt '=' part with
  | none => { f with level := String.ofList part }
  | some (module, level) =>
    let module := String.ofList (Text.trimBy Text.isBlank module)
    { f with entries := setRule module (readRule level) f.entries }

/-- The parts of a filter that hold more than blanks, in lower case. -/
def parts (s : String) : List (List Char) :=
  ((Text.splitAt ',' (Text.toLower s).toList).map (Text.trimBy Text.isBlank)).filter (· ≠ [])

def parse (s : String) : FilterSpec :=
  (parts s).foldl addPart {}

/-! ### Looking the levels up -/

/-- The entries, with the level for all other modules under the empty name. -/
def rules (f : FilterSpec) : List (String × Rule) :=
  if f.entries.any (·.1 == "") then f.entries
  else f.entries ++ [("", .level (Text.toUpper f.level))]

end FilterSpec

/-- An entry that names no level. -/
structure UnknownLevel where
  module : String
  level : String
  deriving DecidableEq, Inhabited

def UnknownLevel.message (e : UnknownLevel) : String :=
  "The filter dict contains a module '" ++ e.module
    ++ "' associated to a level name which does not exist: '" ++ e.level ++ "'"

/-- The least number each module needs to be written; none drops everything. -/
abbrev Thresholds := List (String × Option Nat)

def Rule.threshold (module : String) : Rule → Except UnknownLevel (Option Nat)
  | .off => .ok none
  | .level name =>
    match Level.ofName? name with
    | some l => .ok (some l.number)
    | none => .error ⟨module, name⟩

def FilterSpec.thresholds (f : FilterSpec) : Except UnknownLevel Thresholds :=
  f.rules.mapM fun e => do return (e.1, ← e.2.threshold e.1)

/-! ### Judging records -/

/-- The modules above one, nearest first and the empty name last; the name is read backwards. -/
def ancestors : List Char → List (List Char)
  | [] => [[]]
  | c :: cs => if c = '.' then cs :: ancestors cs else ancestors cs

/-- A module and those above it, nearest first. -/
def lineage (module : String) : List String :=
  let backwards := module.toList.reverse
  (backwards :: ancestors backwards).map fun cs => String.ofList cs.reverse

/-- Whether a record of a module with a number is written. -/
def Thresholds.admits (ts : Thresholds) (module : String) (number : Nat) : Bool :=
  match (lineage module).findSome? (ts.lookup ·) with
  | some (some least) => least ≤ number
  | some none => false
  | none => true

end TypedLambda.Log
