/-
The command line.

Four commands work on a registry of samples: `list` shows it as a table, `run` checks a
sample and evaluates it, and two demonstrations show a substitution that renames a
binder and two unifications, one of which fails.

A run has an exit code and the lines it writes, log records among them where they
occur.  The command is looked up first.  Then the settings are loaded and logging is
configured, and only then are the arguments of the command read; so of a bad setting
and a bad argument the setting is reported.  Wrong usage exits with 2.  What no command
handles (refused settings, a filter with an unknown level, a refused text in the table, a
stray text in a term, an integer that is too long to be written) ends the run with 1,
keeping what was written.

Everything a sample brings along is escaped before it is shown, except in the table,
whose cells are read as text with style tags.

The console is taken to be wide enough for what is said and for the log records.  A
narrower one would fold the lines that do not fit; here no line is folded but those of a
table cell that turns out wider than its column.
-/
import TypedLambda.Eval
import TypedLambda.Log
import TypedLambda.Mono.Unify
import TypedLambda.Samples
import TypedLambda.Settings
import TypedLambda.Text.Markup
import TypedLambda.Text.Table
import TypedLambda.Typing

namespace TypedLambda

/-! ### Reading the arguments -/

inductive Command where
  | list
  | run (sample : String) (noEval : Bool)
  | substDemo
  | unifyDemo
  deriving DecidableEq

namespace Command

/-- The commands by name, their arguments not yet read. -/
inductive Verb where
  | list
  | run
  | substDemo
  | unifyDemo
  deriving DecidableEq

def Verb.ofName? : String → Option Verb
  | "list" => some list
  | "run" => some run
  | "subst-demo" => some substDemo
  | "unify-demo" => some unifyDemo
  | _ => none

/-- A single dash is an argument, like everything without one. -/
def isOption (arg : String) : Bool :=
  match arg.toList with
  | '-' :: _ :: _ => true
  | _ => false

/-- The command, which nothing but the end of the options may precede, and its arguments. -/
def verb? : List String → Option (Verb × List String)
  | "--" :: name :: args | name :: args => (Verb.ofName? name).map fun v => (v, args)
  | [] => none

/-- What the arguments of a command say. -/
structure Arguments where
  noEval : Bool := false
  /-- The arguments that are no options. -/
  plain : List String := []
  deriving DecidableEq

/-- Options may stand anywhere before the end of the options, and may be repeated. -/
def readArguments? : List String → Option Arguments
  | [] => some {}
  | "--" :: args => some { plain := args }
  | "--no-eval" :: args => (readArguments? args).map fun a => { a with noEval := true }
  | arg :: args =>
    if isOption arg then none
    else (readArguments? args).map fun a => { a with plain := arg :: a.plain }

def Verb.command? (v : Verb) (args : List String) : Option Command :=
  match v, readArguments? args with
  | .list, some ⟨false, []⟩ => some .list
  | .run, some ⟨noEval, [sample]⟩ => some (.run sample noEval)
  | .substDemo, some ⟨false, []⟩ => some .substDemo
  | .unifyDemo, some ⟨false, []⟩ => some .unifyDemo
  | _, _ => none

/-! ### What a run leaves -/

/-- What ends a run that no command handles. -/
inductive Crash where
  | settings (refusals : List Settings.Refusal)
  | filter (e : Log.UnknownLevel)
  | markup (e : Text.Markup.Refusal)
  | term (f : Fault)
  | signature (op : Prim)
  deriving DecidableEq

structure Result where
  exitCode : Nat
  lines : List String
  crash : Option Crash := none
  deriving DecidableEq

namespace Result

/-- Lines that were written before. -/
def after (lines : List String) (r : Result) : Result :=
  { r with lines := lines ++ r.lines }

def done (lines : List String) : Result := ⟨0, lines, none⟩

def failed (lines : List String) : Result := ⟨1, lines, none⟩

def crashed (c : Crash) : Result := ⟨1, [], some c⟩

def wrongUsage : Result := ⟨2, [], none⟩

end Result

/-! ### Writing -/

/-- What is seen of a text that was escaped. -/
def shown (s : String) : String :=
  match Text.Markup.render (Text.Markup.escape s) with
  | .ok t => t
  | .error _ => s

/-- A label and a text of the sample's. -/
def say (label text : String) : List String :=
  Text.displayLines (label ++ shown text)

/--
What is said of a text of the sample's, and what comes after it.  If the text cannot be
written, that ends the run.
-/
def saying (label : String) (text : Except Fault String) (next : Result) : Result :=
  match text with
  | .ok s => .after (say label s) next
  | .error f => .crashed (.term f)

/-- A record of the program.  The layout of the command line does not show its site. -/
def record (module message : String) (level : Log.Level) : Log.Record :=
  ⟨module, "", level.severity, message⟩

/-- The records of binders that were renamed, in the order in which they were. -/
def renamingLines (L : Logging) (names : Naming) : List String :=
  names.renamed.reverse.flatMap fun r =>
    L.write (record "funcore.core.subst"
      ("subst.rename binder=" ++ r.binder ++ " fresh=" ++ r.fresh) .debug)

/-- The records of cells that were bound, each with the type as it was shown before. -/
def bindingLines (L : Logging) : Store → List (Nat × MonoTy) → List String
  | _, [] => []
  | S, (i, t) :: rest =>
    L.write (record "funcore.core.unify"
      ("unify.bind var=" ++ S.renderCell i ++ " type=" ++ S.render t) .debug)
      ++ bindingLines L (S.bind i t) rest

/-! ### The commands -/

/--
The rows of the table, their cells read as text with style tags.  All names are read before
the first description, and all cells before one is painted.
-/
def sampleRows (samples : List Sample) : Except Text.Markup.Refusal (List (List String)) := do
  let names ← samples.mapM fun s => Text.Markup.parse s.name
  let descriptions ← samples.mapM fun s => Text.Markup.parse s.description
  (names.zip descriptions).mapM fun row => return [← row.1.show, ← row.2.show]

def listSamples (R : Registry) : Result :=
  match sampleRows R.samples with
  | .ok rows => .done (Text.Table.render ⟨"Samples", ["name", "description"], rows⟩)
  | .error e => .crashed (.markup e)

/--
The budget of a run.  The recursion limit counts nested calls, of which an evaluation inside
another takes three; below the usual budget it has no effect.
-/
def budget (s : Settings) : Nat :=
  max Term.defaultBudget (s.recursionLimit.toNat / 3)

/-- The end of a run that evaluates a term. -/
def evaluateSample (L : Logging) (budget : Nat) (s : Sample) (logged : String → List String) :
    Result :=
  let (outcome, names) := (s.term.evaluate budget).run.run {}
  .after (renamingLines L names) <|
    match outcome with
    | .ok v => saying "value " v.render (.done (logged ("run.done sample=" ++ s.name)))
    | .error (.error e) => saying ("runtime error (" ++ e.kind ++ "): ") e.message (.failed [])
    | .error .outOfBudget => .failed ["evaluation diverged: recursion limit exceeded"]
    | .error (.fault f) => .crashed (.term f)

/-- The end of a run that checks a term, and evaluates it if that is wanted. -/
def checkSample (L : Logging) (budget : Nat) (s : Sample) (noEval : Bool)
    (logged : String → List String) : Result :=
  match s.term.infer .standard .empty with
  | .error (.error e) => .failed (say ("type error (" ++ e.kind ++ "): ") e.message)
  | .error (.missingSignature op) => .crashed (.signature op)
  | .error (.fault f) => .crashed (.term f)
  | .ok τ =>
    .after (say "type  " τ.render) (if noEval then .done [] else evaluateSample L budget s logged)

def runSample (R : Registry) (settings : Settings) (L : Logging) (name : String) (noEval : Bool) :
    Result :=
  match R.find? name with
  | none => ⟨2, say "Unknown sample: " name, none⟩
  | some s =>
    let logged (message : String) := L.write (record "funcore.cli.app" message .info)
    let flag := if noEval then "True" else "False"
    let checked := checkSample L (budget settings) s noEval logged
    .after (logged ("run.start sample=" ++ name ++ " no_eval=" ++ flag))
      (if settings.showTerms then saying "term  " s.term.render checked else checked)

/-- A substitution that has to rename a binder. -/
def showSubstitution (L : Logging) : Result :=
  let s : Substitution := ⟨.var "z", "x"⟩
  let t : Term := .fn [("z", .int)] (.var "x")
  let (outcome, names) := (s.apply t).run.run {}
  .after (L.write (record "funcore.core.fresh" "fresh.reset" .debug)) <|
    .after (renamingLines L names) <|
      match outcome with
      | .ok r =>
        saying "" (do return (← s.render) ++ " " ++ (← t.render))
          <| saying "  = " r.render
          <| .done (say "  free variables: " (", ".intercalate (Term.sortedNames r.freeNames)))
      | .error f => .crashed (.term f)

/-- One unification: what it says, and the store it leaves. -/
def unifyLines (L : Logging) (S : Store) (left right : MonoTy) (failure : UnifyFailure → String) :
    List String × Store :=
  let (outcome, after) := (Store.unify left right).run.run S
  let result := match outcome with
    | .ok () => say "  ok: " (after.render (after.resolve left))
    | .error e => say (failure e) (e.message after)
  (say "" ("unify " ++ S.render left ++ " with " ++ S.render right)
    ++ bindingLines L S (after.bindingsSince S) ++ result, after)

/-- Two arrows that unify, and a cell that occurs in the type it should equal. -/
def showUnification (L : Logging) : Result :=
  let S : Store := (({} : Store).addCell none).addCell none
  let (first, S) := unifyLines L S (.arrow (.var 0) .int) (.arrow .bool (.var 1))
    fun _ => "  failed: "
  let S := S.addCell none
  let (second, _) := unifyLines L S (.var 2) (.arrow (.var 2) .int)
    fun e => "  failed (" ++ e.kind ++ "): "
  .done (first ++ second)

def execute (R : Registry) (settings : Settings) (L : Logging) : Command → Result
  | list => listSamples R
  | run sample noEval => runSample R settings L sample noEval
  | substDemo => showSubstitution L
  | unifyDemo => showUnification L

/-- A whole run, from the arguments and the environment. -/
def invoke (R : Registry) (env : List (String × String)) (args : List String) : Result :=
  match verb? args with
  | none => .wrongUsage
  | some (v, args) =>
    match Settings.load env [] with
    | .error refusals => .crashed (.settings refusals)
    | .ok settings =>
      match ({} : Logging).configure .cli settings.logFilter with
      | (.error e, _) => .crashed (.filter e)
      | (.ok (), L) =>
        match v.command? args with
        | none => .wrongUsage
        | some c => c.execute R settings L

end Command

end TypedLambda
