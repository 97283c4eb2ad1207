import ChatRules.Condition.Evaluate
import ChatRules.EffectTree
import ChatRules.Instant
import ChatRules.Rule.Basic

/-!
# Rules that can run

A rule becomes a program: computations for its condition, for its effects and
for what is committed when it fires. Every rule becomes one. A condition that is
missing or broken comes to a failed reason when the program runs, and malformed
effect paths come to an error then.

Models `compile_rule`, `compile_rules` and `effect_tree` (`SPEC_FULL.md` §2.3).
-/

namespace ChatRules

/-- What the computations of a rule may use. -/
structure Access where
  registry : Registry
  view : View
  strict : Bool := false
  now : Option Instant := none
  moduleId : String

/-- Reads a source for the module of the rule. -/
def Access.read (a : Access) (sourceId : String) : Traced (Option SourceValue) :=
  a.registry.read a.moduleId a.view a.strict sourceId

/-- A rule that can run. -/
structure RuleProgram where
  id : String
  label : String
  moduleId : String := defaultModule
  priority : Double := 0
  targets : List String := []
  condition : Access → Traced Reason
  effects : Option (Access → Traced EffectTree) := none
  commit : Option (Access → Traced Unit) := none
  write : Option Write := none

/-- The effect tree that a rule declares. -/
def Rule.effectTree? (r : Rule) : Option (Except WriteError EffectTree) :=
  r.effects.map fun es => EffectTree.ofPaths (es.map fun e => (e.1, e.2.texts))

/-- The reason of a rule without a condition. -/
def Reason.noCondition : Reason := .error "rule has no condition"

namespace RuleProgram

/-- The computation for the condition of a rule. -/
def conditionOf [Regex.Engine] (r : Rule) (a : Access) : Traced Reason :=
  match r.condition with
  | some c => c.evaluate a.read
  | none => return .noCondition

/-- The program of a rule. -/
def ofRule [Regex.Engine] (r : Rule) : RuleProgram where
  id := r.id
  label := r.displayLabel
  moduleId := r.moduleId
  priority := r.priority.value
  targets := r.targets
  condition := conditionOf r
  effects := r.effectTree?.map fun tree? _ =>
    match tree? with
    | .ok tree => return tree
    | .error e => .fail (.write e)
  write := r.write

end RuleProgram

/-! ## Descriptions -/

/-- A write with its fields. -/
def Write.describe (w : Write) : String :=
  let op := match w.op with
    | .set => "Set"
    | .append => "Append"
  "WriteSpec \x7b path: " ++ Registry.quotedOption w.path ++ ", target_id: " ++
    Registry.quotedOption w.targetId ++ ", op: " ++ op ++ ", value: " ++
    Registry.quotedOption w.value ++ ", text: " ++ Registry.quotedOption w.text ++ " \x7d"

/-- A program without its computations. -/
def RuleProgram.describe (p : RuleProgram) : String :=
  let write := match p.write with
    | some w => "Some(" ++ w.describe ++ ")"
    | none => "None"
  "CompiledRule \x7b id: " ++ Text.quoted p.id ++ ", module_id: " ++ Text.quoted p.moduleId ++
    ", priority: " ++ Decimal.Spelling.dump.write p.priority ++ ", targets: [" ++
    Registry.quotedList p.targets ++ "], effects: " ++ toString p.effects.isSome ++
    ", commit: " ++ toString p.commit.isSome ++ ", write: " ++ write ++ " \x7d"

end ChatRules
