import ChatRules.Chain.Gate
import ChatRules.Config.Basic

/-!
# Running chains

Blocks run from top to bottom. An opening block begins a chain, and the blocks
after it belong to the chain up to the next opening one. At most one block of a
chain is executed: an alternative only while none before it was, and only the
first fallback. What a block writes is seen by the gates after it.

Models `run_chain` and `apply` (`SPEC_FULL.md` §2.7).

Results:

* `eligible_opening`: an opening block is always eligible.
-/

namespace ChatRules.Chain

variable {σ : Type} [RandomSource σ]

/-- What a chain run may look at beside the context. -/
structure ChainInput where
  derived : List (String × Float) := []
  lists : List (String × List String) := []
  window : Nat := defaultWindow

/-- The input of a configuration, with further lists of terms over its own. -/
def ChainInput.ofConfig (c : Config) (lists : List (String × List String)) : ChainInput where
  lists := c.mergedLists lists
  window := c.historyWindow

/-! ## Eligibility -/

/-- Where a run stands in a chain: whether one is open, whether one of its blocks was
    executed, and whether it had its fallback. -/
structure Position where
  isOpen : Bool := false
  isTaken : Bool := false
  hasFallback : Bool := false
deriving DecidableEq, Repr

/-- Why a block is not eligible. -/
inductive Ineligible where
  | noOpenChain | alreadyTaken | secondFallback
deriving DecidableEq, Repr

/-- The remark on a block that is not eligible. -/
def Ineligible.text : Ineligible → String
  | .noOpenChain => " (no open chain)"
  | .alreadyTaken => " (chain already taken)"
  | .secondFallback => " (chain already has an else)"

/-- The position when a block is met. -/
def Position.meet (p : Position) : BlockKind → Position
  | .opening => { isOpen := true }
  | .alternative => p
  | .fallback => if p.isOpen then { p with hasFallback := true } else p

/-- Why a block is not eligible at a position, if it is not. -/
def Position.obstacle? (p : Position) : BlockKind → Option Ineligible
  | .opening => none
  | .alternative =>
    if !p.isOpen then some .noOpenChain else if p.isTaken then some .alreadyTaken else none
  | .fallback =>
    if !p.isOpen then some .noOpenChain
    else if p.hasFallback then some .secondFallback
    else if p.isTaken then some .alreadyTaken
    else none

/-! ## Actions -/

/-- A number as a value of the memory: a whole number where it is one of less than 54
    bits. -/
def numberValue (x : Float) : Json :=
  if Decimal.isWhole x && x.abs < 9007199254740992.0 then .number (.int (Decimal.truncated x))
  else .ofFloat x

/-- The context with a value in the memory. -/
def setMemory (ctx : Context) (key : String) (value : Json) : Context :=
  let memory := Dict.insert key value ctx.character.memory
  { ctx with character := { ctx.character with memory } }

/-- The context with a text appended to a field, and what was done. -/
def appendField (ctx : Context) (field : TextField) (text : String) : Context × String :=
  match ctx.writeInPlace field.path .append text with
  | .done ctx => (ctx, field.path ++ " += " ++ Text.quoted text)
  | .failed e ctx => (ctx, field.path ++ " failed: " ++ (Error.write e).message)

/-- The amount of a numeric action: its value, or else the number in its text. -/
def amount? (value : Option Float) (text : Option String) : Option Float :=
  value.or (text.bind fun t => Decimal.read? (Text.trim t))

/-- Carries out an action: the context after it, what is drawn from next, and what was done. -/
def act (lists : List (String × List String)) (ctx : Context) (g : σ) :
    BlockAction → Context × σ × String
  | .append field text =>
    let (ctx, summary) := appendField ctx field text
    (ctx, g, summary)
  | .appendRandom listId field =>
    match Dict.find? listId lists with
    | none => (ctx, g, "unknown list '" ++ listId ++ "'; skipped")
    | some items =>
      if items.isEmpty then (ctx, g, "list '" ++ listId ++ "' is empty; skipped")
      else
        let (i, g) := RandomSource.index g items.length
        let (ctx, summary) := appendField ctx field (items.getD i "")
        (ctx, g, summary)
  | .memoryNumber key mode value text =>
    match amount? value text with
    | none => (ctx, g, "memory." ++ key ++ ": no numeric value; skipped")
    | some amount =>
      let next := mode.combine (memoryNumber ctx key) amount
      (setMemory ctx key (numberValue next), g, "memory." ++ key ++ " = " ++ numberText next)
  | .memoryText key op text =>
    let next := op.combine (memoryText ctx key) text
    (setMemory ctx key (.string next), g, "memory." ++ key ++ " = " ++ Text.quoted next)

/-! ## Blocks -/

/-- What happened to a block. The condition is absent where it was not looked at. -/
structure BlockOutcome where
  blockId : String
  kind : BlockKind
  eligible : Bool
  condition : Option Bool
  executed : Bool
deriving DecidableEq, Repr

/-- The outcome as an object. -/
def BlockOutcome.toJson (o : BlockOutcome) : Json :=
  .object [("blockId", .string o.blockId), ("kind", .string o.kind.word),
    ("eligible", .bool o.eligible), ("condition", Json.ofOption .bool o.condition),
    ("executed", .bool o.executed)]

/-- A chain run so far. -/
structure ChainRun (σ : Type) where
  context : Context
  gates : GateState σ
  position : Position := {}
  outcomes : List BlockOutcome := []

namespace ChainRun

/-- The log of the run. -/
def log (run : ChainRun σ) : List String := run.gates.log

/-- The run with one more line in its log. -/
def line (run : ChainRun σ) (depth : Nat) (text : String) : ChainRun σ :=
  { run with gates := run.gates.line depth text }

/-- The run after actions. -/
def acts (lists : List (String × List String)) (run : ChainRun σ) :
    List BlockAction → ChainRun σ
  | [] => run
  | a :: rest =>
    let (context, generator, summary) := act lists run.context run.gates.generator a
    let run := { run with context, gates := { run.gates with generator } }
    acts lists (run.line 2 (a.typeName ++ ": " ++ summary)) rest

/-- Decides the condition of a block. -/
def decideBlock (input : ChainInput) (derived : List (String × Float)) (run : ChainRun σ)
    (b : Block) : Bool × ChainRun σ :=
  let view : GateView := ⟨run.context, input.lists, input.window, derived⟩
  let (results, gates) := passTrees view 1 b.conditions run.gates
  let ok := b.join.combine results
  (ok, { run with gates := gates.line 1 ("condition " ++ b.join.word ++ " -> " ++ passWord ok) })

/-- The run after a block. -/
def step (input : ChainInput) (derived : List (String × Float)) (run : ChainRun σ) (b : Block) :
    ChainRun σ :=
  let obstacle? := run.position.obstacle? b.kind
  let eligible := obstacle?.isNone
  let run := { run with position := run.position.meet b.kind }
  let run := run.line 0 ("Block " ++ toString (run.outcomes.length + 1) ++ " [" ++ b.kind.word ++
    "] " ++ Text.quoted b.displayLabel ++ ": eligible=" ++ truthText eligible ++
    (obstacle?.map Ineligible.text).getD "")
  let (condition, run) :=
    if eligible && b.kind != .fallback then
      let (ok, run) := decideBlock input derived run b
      (some ok, run)
    else (none, run)
  let executed := eligible && condition.getD true
  let run := run.line 1 ("exec=" ++ truthText executed)
  let run :=
    if executed then
      acts input.lists { run with position := { run.position with isTaken := true } } b.actions
    else run
  { run with outcomes := run.outcomes ++ [⟨b.id, b.kind, eligible, condition, executed⟩] }

/-- The lines about the character at the end of a run. -/
def finalLines (run : ChainRun σ) : ChainRun σ :=
  let c := run.context.character
  ((((run.line 0 "Final state:").line 1 ("personality: " ++ Text.quoted c.personality)).line 1
    ("scenario: " ++ Text.quoted c.scenario)).line 1
    ("example_dialogs: " ++ Text.quoted c.exampleDialogs)).line 1
    ("memory: " ++ (Json.object c.memory).compact)

/-- The names of the blocks that were executed. -/
def executedIds (run : ChainRun σ) : List String :=
  (run.outcomes.filter (·.executed)).map (·.blockId)

/-- The first outcome of a block with a name. -/
def outcome? (run : ChainRun σ) (id : String) : Option BlockOutcome :=
  run.outcomes.find? (·.blockId == id)

end ChainRun

/-- The derived numbers of a run: those of the input over the counts of its lists. -/
def derivedNumbers (input : ChainInput) (ctx : Context) : List (String × Float) :=
  Dict.override (listCounts ctx input.lists input.window) input.derived

/-- Runs blocks on a context. -/
def run (blocks : List Block) (input : ChainInput) (ctx : Context) (g : σ) : ChainRun σ :=
  let derived := derivedNumbers input ctx
  let start : ChainRun σ := { context := ctx, gates := { generator := g } }
  (blocks.foldl (ChainRun.step input derived) start).finalLines

theorem eligible_opening (p : Position) : p.obstacle? .opening = none := rfl

end ChatRules.Chain
