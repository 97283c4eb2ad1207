import ChatRules.Evaluation.Report
import ChatRules.Progressive.Patch

/-!
# Progressive runs

Rules run one after the other in the order given, and what a rule writes stands
in the context before the next one runs. Every patch has to lead to an allowed
target. One that does not ends the run: what was written before it stays, and
the report names the offending path.

Models `run_rules_progressive` and `ProgressiveReport` (`SPEC_FULL.md` §2.6).
-/

namespace ChatRules

/-- The targets that rules may write to unless others are named. -/
def defaultTargets : List String :=
  ["character.example_dialogs", "character.personality", "character.scenario"]

/-- The names of targets that are always known. -/
def defaultAliases : List (String × String) :=
  [("example_dialogs", "character.example_dialogs"), ("personality", "character.personality"),
   ("scenario", "character.scenario")]

/-- What a progressive run may use, and where it may write. -/
structure ProgressiveOptions where
  allowedTargets : List String := defaultTargets
  aliases : List (String × String) := defaultAliases
  state : Json := .null
  derived : List (String × Float) := []
  strict : Bool := false
  now : Option Instant := none

namespace ProgressiveOptions

/-- Whether rules may write to a path. -/
def isAllowed (o : ProgressiveOptions) (path : String) : Bool := o.allowedTargets.contains path

/-- What the rules may use on a context. -/
def access (o : ProgressiveOptions) (registry : Registry) (ctx : Context) : Access where
  registry := registry
  view := ⟨ctx, o.state, o.derived⟩
  strict := o.strict
  now := o.now
  moduleId := defaultModule

end ProgressiveOptions

/-- A write that ended a run. -/
structure BlockedWrite where
  ruleId : String
  path : String
deriving DecidableEq, Repr

/-- The sentence for a write that ended a run. -/
def BlockedWrite.message (b : BlockedWrite) : String :=
  "rule '" ++ b.ruleId ++ "' may not write to " ++ b.path

/-- A progressive run so far. -/
structure ProgressiveRun where
  context : Context
  fired : List RuleResult := []
  effects : EffectTree := .empty
  applied : List Patch := []
  trace : List TraceEvent := []
  diagnostics : List Diagnostic := []
  blocked : Option BlockedWrite := none

namespace ProgressiveRun

/-- The run with a write that failed. -/
def addWriteError (run : ProgressiveRun) (ruleId message : String) : ProgressiveRun :=
  let d : Diagnostic := ⟨ruleId, .write, message⟩
  { run with trace := run.trace ++ [d.event], diagnostics := run.diagnostics ++ [d] }

/-- The run after a patch. -/
def apply (o : ProgressiveOptions) (run : ProgressiveRun) (p : Patch) : ProgressiveRun :=
  if o.isAllowed p.path then
    match run.context.writeInPlace p.path p.op p.value with
    | .done context =>
      { run with
        context
        trace := run.trace ++ [.patchApplied p.ruleId p.path p.op]
        applied := run.applied ++ [p] }
    | .failed e context =>
      { run with context }.addWriteError p.ruleId (Error.write e).message
  else
    { run with
      trace := run.trace ++ [.writeBlocked p.ruleId p.path]
      blocked := some ⟨p.ruleId, p.path⟩ }

/-- The run after patches, up to one that is blocked. -/
def applyAll (o : ProgressiveOptions) : List Patch → ProgressiveRun → ProgressiveRun
  | [], run => run
  | p :: rest, run =>
    let run := run.apply o p
    if run.blocked.isSome then run else applyAll o rest run

/-- The write of a rule as patches, or the error if its target has no known path. -/
def writePatches (o : ProgressiveOptions) (p : RuleProgram) : Except String (List Patch) :=
  match p.write with
  | none => .ok []
  | some w =>
    match w.destination? o.aliases with
    | some path => .ok [⟨p.id, path, w.op, w.content⟩]
    | none => .error ("unknown write target " ++ Text.quoted (w.targetId.getD ""))

/-- The run after a rule: it is evaluated alone on the context as it stands, and if it
    fires, its effects and then its own write are made into patches. -/
def step (o : ProgressiveOptions) (registry : Registry) (run : ProgressiveRun)
    (p : RuleProgram) : ProgressiveRun :=
  let batch := evaluate [p] (o.access registry run.context)
  let run := { run with
    trace := run.trace ++ batch.trace
    diagnostics := run.diagnostics ++ batch.diagnostics }
  if batch.fired.isEmpty then run
  else
    let run := { run with
      fired := run.fired ++ batch.fired
      effects := run.effects.merge batch.effects }
    let patches := Patch.ofEffects p.id batch.effects
    match writePatches o p with
    | .ok own => run.applyAll o (patches ++ own)
    | .error message => (run.addWriteError p.id message).applyAll o patches

/-- The run after rules, up to one that is blocked. -/
def steps (o : ProgressiveOptions) (registry : Registry) :
    List RuleProgram → ProgressiveRun → ProgressiveRun
  | [], run => run
  | p :: rest, run =>
    let run := run.step o registry p
    if run.blocked.isSome then run else steps o registry rest run

/-- Whether no write was blocked. -/
def ok (run : ProgressiveRun) : Bool := run.blocked.isNone

/-- The conflicts of the rules that fired. -/
def conflicts (run : ProgressiveRun) : List ConflictGroup := ConflictGroup.groups run.fired

/-- The names of the rules that fired. -/
def firedIds (run : ProgressiveRun) : List String := run.fired.map (·.id)

/-- The report of the run as an object. -/
def toJson (run : ProgressiveRun) : Json :=
  .object ([("ok", .bool run.ok), ("fired", .array (run.fired.map RuleResult.toJson)),
    ("conflicts", .array (run.conflicts.map ConflictGroup.toJson)),
    ("effects", run.effects.toJson), ("applied", .array (run.applied.map Patch.toJson)),
    ("trace", .array (run.trace.map TraceEvent.toJson)),
    ("diagnostics", .array (run.diagnostics.map Diagnostic.toJson))] ++
    Json.optional "hardError" (fun b => .string b.message) run.blocked)

/-- The report of the run as a text. -/
def text (run : ProgressiveRun) : String :=
  let head := match run.blocked with
    | some b => "✗ stopped: " ++ b.message
    | none => "✓ " ++ toString run.fired.length ++ " rule(s) fired"
  head ++ "\n" ++ String.join (run.applied.map fun p => "  " ++ p.text ++ "\n") ++
    String.join (run.diagnostics.map fun d => "  ⚠ " ++ d.text ++ "\n")

end ProgressiveRun

/-- Runs rules on a context, each on what those before it wrote. -/
def runProgressive (o : ProgressiveOptions) (registry : Registry) (rules : List RuleProgram)
    (ctx : Context) : ProgressiveRun :=
  ProgressiveRun.steps o registry rules { context := ctx }

end ChatRules
