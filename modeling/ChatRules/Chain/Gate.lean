import ChatRules.Block.Basic
import ChatRules.Chain.Matching
import ChatRules.Decimal.Read
import ChatRules.Random

/-!
# Passing gates

A gate is decided on the context, on the derived numbers and on the lists of
terms; only a gate of chance draws a random number. Every gate that is
decided has the next number and a line in the log. All gates of a tree are
decided, from left to right.

Models `eval_nodes`, `eval_leaf` and `check` of the block-chain runner (`SPEC_FULL.md`
§2.7).

Results:

* `decide_generator`: a gate that is not of chance draws nothing.
-/

namespace ChatRules.Chain

variable {σ : Type}

/-- What gates may look at. -/
structure GateView where
  context : Context
  lists : List (String × List String) := []
  window : Nat
  derived : List (String × Float) := []

/-- A number in running text. -/
def numberText (x : Float) : String := Decimal.Spelling.plain.write x

/-- The number in the memory at a key; 0 where there is none. -/
def memoryNumber (ctx : Context) (key : String) : Float :=
  match Dict.find? key ctx.character.memory with
  | some (.number n) => n.toFloat
  | some (.string s) => (Decimal.read? (Text.trim s)).getD 0
  | _ => 0

/-- The text in the memory at a key; no text where there is none. -/
def memoryText (ctx : Context) (key : String) : String :=
  ((Dict.find? key ctx.character.memory).map Json.plainText).getD ""

/-- Whether a text holds another one, without regard to case. -/
def holdsLower (text part : String) : Bool := Text.holds (Text.lower text) (Text.lower part)

/-- A comparison in running text. -/
def comparisonText (left : String) (op : CompareOp) (value : Float) : String :=
  left ++ " " ++ op.sign ++ " " ++ numberText value

/-- A truth value in running text. -/
def truthText (b : Bool) : String := if b then "true" else "false"

/-- The result of a gate about a list, which fails if the list is not known. -/
def withList (v : GateView) (listId : String) (decide : List String → Bool × String) :
    Bool × String :=
  match Dict.find? listId v.lists with
  | some terms => decide terms
  | none => (false, "unknown list '" ++ listId ++ "'")

/-- The name of a list and its window in running text. -/
def windowText (listId : String) (window : Nat) : String :=
  "'" ++ listId ++ "' in last " ++ toString window ++ ": "

/-- Whether the last message mentions a list. -/
def lastMentions (v : GateView) (terms : List String) : Bool :=
  mentionsAny (Text.normalize (v.context.lastMessage?.getD "")) terms

/-- The line for a gate about the last message. -/
def lastText (listId : String) (hit : Bool) : String :=
  "list '" ++ listId ++ "' in last message: " ++ truthText hit

/-- Whether a gate passes, before it is negated, and what was looked at. -/
def decideGate [RandomSource σ] (v : GateView) (g : σ) : Gate → (Bool × String) × σ
  | .randomChance percent =>
    let (roll, g) := RandomSource.percent g
    ((roll < percent, "roll " ++ Decimal.fixed 2 roll ++ " < " ++ numberText percent), g)
  | .messageCount op value =>
    let count := Float.ofNat v.context.chat.messageCount
    ((op.holds count value, "count " ++ comparisonText (numberText count) op value), g)
  | .anyInList listId =>
    (withList v listId fun terms =>
      let hit := lastMentions v terms
      (hit, lastText listId hit), g)
  | .noneInList listId =>
    (withList v listId fun terms =>
      let hit := lastMentions v terms
      (!hit, lastText listId hit), g)
  | .countInHistory listId window op value =>
    let window := window.getD v.window
    (withList v listId fun terms =>
      let count := Float.ofNat (mentionCount v.context.chat.messages window terms)
      (op.holds count value,
        windowText listId window ++ comparisonText (numberText count) op value),
      g)
  | .historyContainsList listId window =>
    let window := window.getD v.window
    (withList v listId fun terms =>
      let hit := (recent v.context.chat.messages window).any fun m => mentionsAny m terms
      (hit, windowText listId window ++ truthText hit), g)
  | .derivedNumber key op value =>
    match Dict.find? key v.derived with
    | some n => ((op.holds n value, key ++ " = " ++ comparisonText (numberText n) op value), g)
    | none => ((false, key ++ " missing"), g)
  | .memoryNumber key op value =>
    let n := memoryNumber v.context key
    ((op.holds n value, "memory." ++ key ++ " = " ++ comparisonText (numberText n) op value), g)
  | .memoryContains key text =>
    ((holdsLower (memoryText v.context key) text,
      "memory." ++ key ++ " contains " ++ Text.quoted text), g)
  | .personalityContains text =>
    ((holdsLower v.context.character.personality text,
      "personality contains " ++ Text.quoted text), g)
  | .scenarioContains text =>
    ((holdsLower v.context.character.scenario text, "scenario contains " ++ Text.quoted text), g)

/-- What is drawn from, the number of gates that were decided, and the log. -/
structure GateState (σ : Type) where
  generator : σ
  gates : Nat := 0
  log : List String := []

/-- The state with one more line, two blanks deeper each level. -/
def GateState.line (s : GateState σ) (depth : Nat) (text : String) : GateState σ :=
  { s with log := s.log ++ ["".pushn ' ' (2 * depth) ++ text] }

/-- The word for a result. -/
def passWord (ok : Bool) : String := if ok then "PASS" else "FAIL"

variable [RandomSource σ]

/-- Decides a gate with its negation. -/
def passGate (v : GateView) (depth : Nat) (negated : Bool) (gate : Gate) (s : GateState σ) :
    Bool × GateState σ :=
  let ((raw, detail), generator) := decideGate v s.generator gate
  let ok := raw != negated
  let s := { s with generator, gates := s.gates + 1 }
  (ok, s.line depth ("Gate " ++ toString s.gates ++ ": " ++ (if negated then "NOT " else "") ++
    gate.typeName ++ " (" ++ detail ++ ") -> " ++ passWord ok))

mutual

/-- Decides a tree. -/
def passTree (v : GateView) (depth : Nat) : GateTree → GateState σ → Bool × GateState σ
  | .gate negated gate, s => passGate v depth negated gate s
  | .group join negated items, s =>
    let s := s.line depth ("Group " ++ join.word ++ (if negated then " NOT" else "") ++ " (" ++
      toString items.length ++ " item(s))")
    let (results, s) := passTrees v (depth + 1) items s
    let ok := join.combine results != negated
    (ok, s.line depth ("Group " ++ join.word ++ " -> " ++ passWord ok))

/-- Decides trees from left to right. -/
def passTrees (v : GateView) (depth : Nat) :
    List GateTree → GateState σ → List Bool × GateState σ
  | [], s => ([], s)
  | t :: rest, s =>
    let (ok, s) := passTree v depth t s
    let (oks, s) := passTrees v depth rest s
    (ok :: oks, s)

end

theorem decide_generator {gate : Gate} (h : ∀ percent, gate ≠ .randomChance percent)
    (v : GateView) (g : σ) : (decideGate v g gate).2 = g := by
  cases gate with
  | randomChance percent => exact absurd rfl (h percent)
  | derivedNumber key op value => simp only [decideGate]; split <;> rfl
  | _ => rfl

end ChatRules.Chain
