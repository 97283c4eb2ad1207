import ChatRules.Condition.Basic
import ChatRules.Context
import ChatRules.Decimal.Double

/-!
# Rules

A rule has a condition and what happens when it holds: text fragments for
dot-paths, and perhaps one write of its own. Rules are authored by hand, so a
rule may lack its condition, and its priority may be something else than a
number.

Models `RuleSpec`, `Priority`, `EffectValue` and `WriteSpec` (`SPEC_FULL.md` §2, rule
model).
-/

namespace ChatRules

/-- A priority; what is no number is kept as it was written. -/
inductive Priority where
  | number (x : Double)
  | malformed (raw : Json)

namespace Priority

/-- The number of a priority. -/
def value : Priority → Double
  | .number x => x
  | .malformed _ => 0

/-- Whether the priority is a finite number. -/
def isValid : Priority → Bool
  | .number x => Decimal.isFinite x
  | .malformed _ => false

end Priority

/-- The fragments for a path: one alone, or a list. -/
inductive Fragments where
  | one (text : String)
  | many (texts : List String)
deriving DecidableEq, Repr

/-- The fragments as a list. -/
def Fragments.texts : Fragments → List String
  | .one text => [text]
  | .many texts => texts

/-- A write to a path, or to a target that has a name. -/
structure Write where
  path : Option String := none
  targetId : Option String := none
  op : WriteOp := .append
  value : Option String := none
  text : Option String := none
deriving DecidableEq, Repr

/-- What is written: the value, or else the text. -/
def Write.content (w : Write) : String := (w.value.or w.text).getD ""

/-- Where a write leads: to its path, or else to the path that its target is a name for. -/
def Write.destination? (aliases : List (String × String)) (w : Write) : Option String :=
  w.path.or (w.targetId.bind (Dict.find? · aliases))

/-- The module of a rule that names none. -/
def defaultModule : String := "core"

/-- A rule. -/
structure Rule where
  id : String := ""
  label : Option String := none
  moduleId : String := defaultModule
  priority : Priority := .number 0
  targets : List String := []
  condition : Option Condition := none
  effects : Option (List (String × Fragments)) := none
  write : Option Write := none
  description : Option String := none

namespace Rule

/-- The label of a rule; its name if it has none. -/
def displayLabel (r : Rule) : String := r.label.getD r.id

/-- The rule with one more target. -/
def addTarget (r : Rule) (path : String) : Rule := { r with targets := r.targets ++ [path] }

/-- The rule with fragments for a path, which becomes a target if it is none. -/
def setEffect (r : Rule) (path : String) (fragments : Fragments) : Rule :=
  let r := if r.targets.contains path then r else r.addTarget path
  { r with effects := some (Dict.insert path fragments (r.effects.getD [])) }

end Rule

/-- Rules in the order in which they were authored. -/
structure RuleSet where
  rules : List Rule := []

/-- The first rule with a name. -/
def RuleSet.find? (s : RuleSet) (id : String) : Option Rule := s.rules.find? (·.id == id)

end ChatRules
