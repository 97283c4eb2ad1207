import ChatRules.Rule.Program

/-!
# The outcome of a rule

What a rule comes to is its result: the data that name the rule, and the reason
of its condition. A stage of the rule that fails leaves a diagnostic; a
condition that fails counts as one that does not hold.

Models `RuleResult` and `RuleDiagnostic` (`SPEC_FULL.md` §2.5).
-/

namespace ChatRules

/-- What a rule came to. -/
structure RuleResult where
  id : String
  label : String
  moduleId : String
  priority : Double
  targets : List String
  reason : Reason

namespace RuleResult

/-- Whether the rule fires. -/
def ok (r : RuleResult) : Bool := r.reason.ok

/-- The result as an object. -/
def toJson (r : RuleResult) : Json :=
  .object [("id", .string r.id), ("label", .string r.label), ("moduleId", .string r.moduleId),
    ("priority", .number (.float r.priority)), ("targets", .ofStrings r.targets),
    ("ok", .bool r.ok), ("reason", r.reason.toJson)]

end RuleResult

/-- A stage of a rule that failed. -/
structure Diagnostic where
  ruleId : String
  stage : RuleStage
  message : String
deriving DecidableEq, Repr

namespace Diagnostic

/-- The diagnostic as an object. -/
def toJson (d : Diagnostic) : Json :=
  .object [("ruleId", .string d.ruleId), ("stage", .string d.stage.word),
    ("message", .string d.message)]

/-- The event of a diagnostic. -/
def event (d : Diagnostic) : TraceEvent := .ruleError d.ruleId d.stage d.message

/-- The diagnostic on a line. -/
def text (d : Diagnostic) : String := d.ruleId ++ " " ++ d.stage.word ++ ": " ++ d.message

end Diagnostic

namespace RuleProgram

/-- The result of a rule with a reason. -/
def resultOf (p : RuleProgram) (reason : Reason) : RuleResult :=
  ⟨p.id, p.label, p.moduleId, p.priority, p.targets, reason⟩

/-- The reason of a condition that failed with an error. -/
def failedCondition (message : String) : Reason :=
  (Reason.error message).withDetail "stage" (.string "when")

/-- What a rule may use, given what all rules may. -/
def accessFor (p : RuleProgram) (a : Access) : Access := { a with moduleId := p.moduleId }

end RuleProgram

end ChatRules
