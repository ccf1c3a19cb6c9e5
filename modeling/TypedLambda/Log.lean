/-
Where log records go.

There is at most one sink.  Configuring installs one for a profile and remembers the
profile; a second call for the remembered profile does nothing.  The old sink is taken
down before the new filter is looked at, so a filter that is refused leaves no sink
behind, while the remembered profile stays what it was.  In the beginning there is no sink.
A logging facility may come with a handler of its own, on the error stream; the first call
takes that down too, be its filter accepted or refused.  It belongs to no profile, and what
it writes before the first call is left out here.

Records come from two sides.  Those of the program itself go to the sink.  Those of the
plain logging facility are dropped below the level of warnings, and the others go to the
sink once a configuration has succeeded; before that they are written as they are.
-/
import TypedLambda.Log.Filter
import TypedLambda.Text.Display

namespace TypedLambda.Log

/-- How records are laid out. -/
inductive Profile where
  | standard
  | cli
  deriving DecidableEq, Inhabited

structure Record where
  module : String
  /-- The function in the module, and the line in it. -/
  site : String
  severity : Severity
  message : String
  deriving DecidableEq, Inhabited

structure Sink where
  profile : Profile
  thresholds : Thresholds
  deriving DecidableEq, Inhabited

/-! ### Layout -/

/-- A text filled up with blanks on the right. -/
def padEnd (width : Nat) (s : String) : String :=
  s ++ String.ofList (List.replicate (width - s.length) ' ')

/-- The lines of a text to the right of a label; below the label there are blanks. -/
def besideLabel (label : String) : List String → List String
  | [] => []
  | first :: rest =>
    (label ++ " " ++ first) :: rest.map (padEnd label.length "" ++ " " ++ ·)

/--
The lines of a record.  The standard layout names the place the record comes from; the
one for the command line has a column for the level, of eight or more, and one for the
message.
-/
def Profile.layout (p : Profile) (r : Record) : List String :=
  let written := match p with
    | .standard =>
      Text.lines (padEnd 6 r.severity.name ++ " | " ++ r.module ++ ":" ++ r.site ++ " | "
        ++ r.message)
    | .cli => besideLabel (padEnd 8 r.severity.name) (Text.displayLines r.message)
  written.map Text.trimEnd

/-- What a sink writes of a record. -/
def Sink.write (s : Sink) (r : Record) : List String :=
  if s.thresholds.admits r.module r.severity.number then s.profile.layout r else []

end Log

/-! ### The state of logging -/

open Log in
structure Logging where
  /-- The profile of the last configuration that succeeded. -/
  profile : Option Profile := none
  sink : Option Sink := none
  /-- Whether records of the plain facility go to the sink. -/
  forwarding : Bool := false
  deriving DecidableEq, Inhabited

namespace Logging

open Log

/-- Installs a sink for a profile, unless that profile is the remembered one. -/
def configure (L : Logging) (p : Profile) (spec : String) : Except UnknownLevel Unit × Logging :=
  if L.profile = some p then (.ok (), L)
  else
    match (FilterSpec.parse spec).thresholds with
    | .error e => (.error e, { L with sink := none })
    | .ok ts => (.ok (), { profile := some p, sink := some ⟨p, ts⟩, forwarding := true })

/-- What is written of a record of the program. -/
def write (L : Logging) (r : Record) : List String :=
  match L.sink with
  | some s => s.write r
  | none => []

/-- What is written of a record of the plain facility. -/
def writePlain (L : Logging) (r : Record) : List String :=
  if r.severity.number < Level.warning.number then []
  else if L.forwarding then L.write r
  else (Text.lines r.message).map Text.trimEnd

end Logging

end TypedLambda
