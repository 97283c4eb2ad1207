import ChatRules.Context
import ChatRules.Matching

/-!
# Blocks

A block is one branch of a chain: it opens one, or stands in it as another
branch or as the last resort. It has a tree of gates, which decides whether it
is executed, and actions, which change the context.

Models `Block`, `ConditionNode`, `Condition` and `Action` (`SPEC_FULL.md` §2, block
model).

Results:

* `GateTree.induction`: what passes from the items of groups to the groups holds of every
  tree of gates.
-/

namespace ChatRules

/-- The position of a block in its chain. -/
inductive BlockKind where
  | opening | alternative | fallback
deriving DecidableEq, Repr

namespace BlockKind

/-- The word for a position. -/
def word : BlockKind → String
  | .opening => "if"
  | .alternative => "elseif"
  | .fallback => "else"

/-- All positions with their words. -/
def words : List (String × BlockKind) :=
  [.opening, .alternative, .fallback].map fun k => (k.word, k)

end BlockKind

/-- How results are joined. -/
inductive Join where
  | all | any
deriving DecidableEq, Repr

namespace Join

/-- The word for a join. -/
def word : Join → String
  | .all => "AND"
  | .any => "OR"

/-- The word for a join inside a group. -/
def groupWord : Join → String
  | .all => "and"
  | .any => "or"

/-- The joins by their words. -/
def words : List (String × Join) := [("AND", .all), ("and", .all), ("OR", .any), ("or", .any)]

/-- The joined result. No results pass, however they are joined. -/
def combine (j : Join) (results : List Bool) : Bool :=
  results.isEmpty ||
    match j with
    | .all => results.all id
    | .any => results.any id

end Join

/-- A gate: a test of the conversation, of the memory or of chance. -/
inductive Gate where
  | randomChance (percent : Float)
  | messageCount (op : CompareOp) (value : Float)
  | anyInList (listId : String)
  | noneInList (listId : String)
  | countInHistory (listId : String) (window : Option Nat) (op : CompareOp) (value : Float)
  | historyContainsList (listId : String) (window : Option Nat)
  | derivedNumber (key : String) (op : CompareOp) (value : Float)
  | memoryNumber (key : String) (op : CompareOp) (value : Float)
  | memoryContains (key text : String)
  | personalityContains (text : String)
  | scenarioContains (text : String)
deriving DecidableEq

/-- The word for the type of a gate. -/
def Gate.typeName : Gate → String
  | .randomChance _ => "randomChance"
  | .messageCount _ _ => "messageCountComparison"
  | .anyInList _ => "anyInList"
  | .noneInList _ => "noneInList"
  | .countInHistory _ _ _ _ => "countInHistory"
  | .historyContainsList _ _ => "historyContainsList"
  | .derivedNumber _ _ _ => "derivedNumberComparison"
  | .memoryNumber _ _ _ => "memoryNumberComparison"
  | .memoryContains _ _ => "memoryStringContains"
  | .personalityContains _ => "personalityContains"
  | .scenarioContains _ => "scenarioContains"

/-- A tree of gates. A node may be negated; a group is negated after it is joined. -/
inductive GateTree where
  | gate (negated : Bool) (gate : Gate)
  | group (join : Join) (negated : Bool) (items : List GateTree)

/-- What passes from the items of a group to the group holds of every tree of gates. -/
theorem GateTree.induction {P : GateTree → Prop}
    (gate : ∀ negated gate, P (.gate negated gate))
    (group : ∀ join negated items, (∀ t ∈ items, P t) → P (.group join negated items))
    (t : GateTree) : P t :=
  @GateTree.rec P (fun items => ∀ t ∈ items, P t) gate group (by simp)
    (fun _ _ first rest => List.forall_mem_cons.2 ⟨first, rest⟩) t

/-- How a number is stored in the memory. -/
inductive NumericMode where
  | set | increase | decrease
deriving DecidableEq, Repr

/-- The word for a way to store a number. -/
def NumericMode.word : NumericMode → String
  | .set => "set"
  | .increase => "inc"
  | .decrease => "dec"

/-- The ways to store a number by their words. -/
def NumericMode.words : List (String × NumericMode) :=
  [.set, .increase, .decrease].map fun m => (m.word, m)

/-- The number that is stored over another one. -/
def NumericMode.combine (mode : NumericMode) (current amount : Float) : Float :=
  match mode with
  | .set => amount
  | .increase => current + amount
  | .decrease => current - amount

/-- The word for a text field of the character. -/
def TextField.word : TextField → String
  | .personality => "personality"
  | .scenario => "scenario"
  | .exampleDialogs => "example_dialogs"

/-- The text fields by their words. -/
def TextField.words : List (String × TextField) :=
  [.personality, .scenario, .exampleDialogs].map fun f => (f.word, f)

/-- An action of a block. -/
inductive BlockAction where
  | append (field : TextField) (text : String)
  | appendRandom (listId : String) (field : TextField)
  | memoryNumber (key : String) (mode : NumericMode) (value : Option Float) (text : Option String)
  | memoryText (key : String) (op : WriteOp) (text : String)
deriving DecidableEq

/-- The word for the type of an action. -/
def BlockAction.typeName : BlockAction → String
  | .append .personality _ => "appendPersonality"
  | .append .scenario _ => "appendScenario"
  | .append .exampleDialogs _ => "appendExampleDialogs"
  | .appendRandom _ _ => "appendRandomFromList"
  | .memoryNumber _ _ _ _ => "memoryNumeric"
  | .memoryText _ _ _ => "memoryString"

/-- A block. -/
structure Block where
  id : String := ""
  kind : BlockKind := .opening
  label : String := ""
  join : Join := .all
  conditions : List GateTree := []
  actions : List BlockAction := []
  groupId : Option String := none

/-- The label of a block; its name if it has none. -/
def Block.displayLabel (b : Block) : String := if b.label.isEmpty then b.id else b.label

/-- Blocks in their order, and the lists of terms that they refer to. -/
structure BlockSet where
  blocks : List Block := []
  lists : List (String × List String) := []

/-- The first block with a name. -/
def BlockSet.find? (s : BlockSet) (id : String) : Option Block := s.blocks.find? (·.id == id)

end ChatRules
