import ChatRules.Evaluation.Conflict
import ChatRules.Evaluation.Order

/-!
# Evaluating rules

All rules see the same context. They run one after the other in the order of
evaluation, and one report takes in what each of them leaves: the condition of a
rule is decided, and if it holds, the rule commits and produces its effects,
which are merged into those of the rules before it.

Models `run_rules` and `EvaluationReport` (`SPEC_FULL.md` §2.5).
-/

namespace ChatRules

/-- The report of an evaluation. -/
structure EvaluationReport where
  results : List RuleResult := []
  fired : List RuleResult := []
  conflicts : List ConflictGroup := []
  effects : EffectTree := .empty
  trace : List TraceEvent := []
  diagnostics : List Diagnostic := []

namespace EvaluationReport

/-- The report with one more event. -/
def emit (report : EvaluationReport) (event : TraceEvent) : EvaluationReport :=
  { report with trace := report.trace ++ [event] }

/-- The report after a stage of a rule, and what the stage came to. A stage that fails
    leaves a diagnostic and its event, after the events of the stage. -/
def stage {α : Type} (report : EvaluationReport) (p : RuleProgram) (stage : RuleStage)
    (x : Traced α) : EvaluationReport × Except Error α :=
  let report := { report with trace := report.trace ++ x.events }
  match x.result with
  | .ok a => (report, .ok a)
  | .error e =>
    let d : Diagnostic := ⟨p.id, stage, e.message⟩
    ({ report.emit d.event with diagnostics := report.diagnostics ++ [d] }, .error e)

/-- The report after the condition of a rule is decided, and the reason. -/
def decide (a : Access) (p : RuleProgram) (report : EvaluationReport) :
    EvaluationReport × Reason :=
  let (report, reason?) := report.stage p .when (p.condition a)
  let reason := match reason? with
    | .ok reason => reason
    | .error e => RuleProgram.failedCondition e.message
  (report.emit (.ruleEvaluated p.id reason.ok), reason)

/-- The report after a rule commits. -/
def commit (a : Access) (p : RuleProgram) (report : EvaluationReport) : EvaluationReport :=
  match p.commit with
  | none => report
  | some commit => (report.stage p .commit (commit a)).1

/-- The report after a rule produces its effects. -/
def produce (a : Access) (p : RuleProgram) (report : EvaluationReport) : EvaluationReport :=
  match p.effects with
  | none => report
  | some effects =>
    match report.stage p .effects (effects a) with
    | (report, .ok tree) => { report with effects := report.effects.merge tree }
    | (report, .error _) => report

/-- The report after a rule that fires. -/
def fire (a : Access) (p : RuleProgram) (result : RuleResult) (report : EvaluationReport) :
    EvaluationReport :=
  let report := (report.commit a p).produce a p
  { report with fired := report.fired ++ [result] }

/-- The report after a rule. -/
def step (a : Access) (report : EvaluationReport) (p : RuleProgram) : EvaluationReport :=
  let a := p.accessFor a
  let (report, reason) := report.decide a p
  let result := p.resultOf reason
  let report := if result.ok then report.fire a p result else report
  { report with results := report.results ++ [result] }

/-- The report with the conflicts of the rules that fired. -/
def finish (report : EvaluationReport) : EvaluationReport :=
  { report with conflicts := ConflictGroup.groups report.fired }

/-- The names of the rules in the order of evaluation. -/
def order (r : EvaluationReport) : List String := r.results.map (·.id)

/-- The names of the rules that fired. -/
def firedIds (r : EvaluationReport) : List String := r.fired.map (·.id)

/-- Whether a rule with a name fired. -/
def isFired (r : EvaluationReport) (id : String) : Bool := r.fired.any (·.id == id)

/-- The first result of a rule with a name. -/
def result? (r : EvaluationReport) (id : String) : Option RuleResult :=
  r.results.find? (·.id == id)

/-- The report as an object. -/
def toJson (r : EvaluationReport) : Json :=
  .object [("results", .array (r.results.map RuleResult.toJson)),
    ("fired", .array (r.fired.map RuleResult.toJson)),
    ("conflicts", .array (r.conflicts.map ConflictGroup.toJson)), ("effects", r.effects.toJson),
    ("trace", .array (r.trace.map TraceEvent.toJson)),
    ("diagnostics", .array (r.diagnostics.map Diagnostic.toJson))]

/-- A result with its reason, on lines of their own. -/
def resultText (r : RuleResult) : String :=
  let mark := if r.ok then "✓" else "✗"
  "\n" ++ mark ++ " " ++ r.label ++ " [" ++ r.moduleId ++ "] priority " ++
    Decimal.Spelling.plain.write r.priority ++ "\n" ++
    String.join (r.reason.lines.map fun l => "    " ++ l ++ "\n")

/-- A paragraph of a report, left out if it has no lines. -/
def paragraph (title : String) (lines : List String) : String :=
  if lines.isEmpty then ""
  else "\n" ++ title ++ ":\n" ++ String.join (lines.map fun l => "  " ++ l ++ "\n")

/-- The report as a text, with all rules or with those that fired. -/
def text (showAll : Bool) (r : EvaluationReport) : String :=
  let shown := r.results.filter fun x => x.ok || showAll
  let conflicts := r.conflicts.map fun g =>
    "⚠ " ++ g.key ++ ": " ++ ", ".intercalate (g.rules.map (·.id))
  let effects := r.effects.leaves.flatMap fun (path, values) =>
    values.map fun v => path ++ " += " ++ Text.quoted v
  toString r.results.length ++ " rule(s) evaluated, " ++ toString r.fired.length ++ " fired\n" ++
    String.join (shown.map resultText) ++ paragraph "Conflicts" conflicts ++
    paragraph "Effects" effects ++ paragraph "Diagnostics" (r.diagnostics.map Diagnostic.text)

end EvaluationReport

/-- Runs rules on one view of the context. -/
def evaluate (rules : List RuleProgram) (a : Access) : EvaluationReport :=
  ((RuleProgram.byPriority rules).foldl (EvaluationReport.step a) {}).finish

end ChatRules
