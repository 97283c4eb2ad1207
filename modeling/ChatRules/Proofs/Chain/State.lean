import ChatRules.Proofs.Chain.Branches

/-!
# What a run goes by

A chain run keeps a log, and it numbers gates and blocks for the log. What it decides and
what it does can be said without them, by the context, the source of random numbers and
the position alone.

Results:

* `passTrees_congr`: what gates come to depends on what is drawn, and not on the log or on
  the number of gates before.
* `ChainRun.outcomes_state_step`: what a block does to a run, its outcome and the state
  after it, is said by the state before it.
* `outcomes_state_run`: so it is with all that a run decides and does.
-/

namespace ChatRules

namespace Chain

variable {σ : Type} [RandomSource σ]

/-! ## Gates -/

/-- What was decided comes to the same, and what is drawn next is the same. -/
def SameVerdict {α : Type} (x y : α × GateState σ) : Prop :=
  x.1 = y.1 ∧ x.2.generator = y.2.generator

variable {v : GateView} {s s' : GateState σ}

theorem passTrees_congr_of_forall {items : List GateTree}
    (parts : ∀ t ∈ items, ∀ (depth depth' : Nat) {s s' : GateState σ},
      s.generator = s'.generator → SameVerdict (passTree v depth t s) (passTree v depth' t s'))
    (depth depth' : Nat) (same : s.generator = s'.generator) :
    SameVerdict (passTrees v depth items s) (passTrees v depth' items s') := by
  induction items generalizing s s' with
  | nil => exact ⟨rfl, same⟩
  | cons t rest ih =>
    obtain ⟨first, others⟩ := List.forall_mem_cons.1 parts
    obtain ⟨ok, drawn⟩ := first depth depth' same
    obtain ⟨oks, after⟩ := ih others drawn
    exact ⟨List.cons_eq_cons.2 ⟨ok, oks⟩, after⟩

theorem passTree_congr (t : GateTree) (depth depth' : Nat) (same : s.generator = s'.generator) :
    SameVerdict (passTree v depth t s) (passTree v depth' t s') := by
  induction t using GateTree.induction generalizing depth depth' s s' with
  | gate negated gate =>
    simp only [SameVerdict, passTree, passGate, GateState.line, same, and_self]
  | group join negated items ih =>
    have opened (text text' : String) :
        (s.line depth text).generator = (s'.line depth' text').generator := same
    obtain ⟨results, drawn⟩ := passTrees_congr_of_forall
      (fun t mem depth depth' _ _ => ih t mem depth depth') (depth + 1) (depth' + 1) (opened _ _)
    exact ⟨congrArg (fun results => join.combine results != negated) results, drawn⟩

/-- What gates come to does not depend on the log, on the number of gates before, or on
    how deep they stand. -/
theorem passTrees_congr (items : List GateTree) (depth depth' : Nat)
    (same : s.generator = s'.generator) :
    SameVerdict (passTrees v depth items s) (passTrees v depth' items s') :=
  passTrees_congr_of_forall (fun t _ depth depth' _ _ => passTree_congr t depth depth')
    depth depth' same

/-! ## States -/

/-- What a run goes by: everything but the log and the numbers in it. -/
structure State (σ : Type) where
  context : Context
  generator : σ
  position : Position := {}

/-- The state of a run. -/
def ChainRun.state (run : ChainRun σ) : State σ := ⟨run.context, run.gates.generator, run.position⟩

namespace State

variable (input : ChainInput) (derived : List (String × Float)) (st : State σ) (b : Block)

/-- What the condition of a block comes to, if it is looked at, and what is drawn from
    next. -/
def condition : Option Bool × σ :=
  if (st.position.obstacle? b.kind).isNone && b.kind != .fallback then
    let view : GateView := ⟨st.context, input.lists, input.window, derived⟩
    let (results, gates) := passTrees view 1 b.conditions { generator := st.generator }
    (some (b.join.combine results), gates.generator)
  else (none, st.generator)

/-- The outcome of a block. -/
def outcome : BlockOutcome :=
  let eligible := (st.position.obstacle? b.kind).isNone
  let condition := (st.condition input derived b).1
  ⟨b.id, b.kind, eligible, condition, eligible && condition.getD true⟩

/-- The state after actions. -/
def acts (lists : List (String × List String)) (st : State σ) : List BlockAction → State σ
  | [] => st
  | a :: rest =>
    let (context, generator, _) := act lists st.context st.generator a
    acts lists { st with context, generator } rest

/-- The state after a block. -/
def step : State σ :=
  let o := st.outcome input derived b
  let decided : State σ :=
    ⟨st.context, (st.condition input derived b).2, st.position.after o⟩
  if o.executed then decided.acts input.lists b.actions else decided

/-- The outcomes of blocks, one after the other. -/
def outcomes : State σ → List Block → List BlockOutcome
  | _, [] => []
  | st, b :: rest => st.outcome input derived b :: outcomes (st.step input derived b) rest

/-- The state after blocks. -/
def steps (st : State σ) (blocks : List Block) : State σ := blocks.foldl (step input derived) st

end State

/-! ## Runs -/

namespace ChainRun

variable (input : ChainInput) (derived : List (String × Float)) (run : ChainRun σ)

theorem state_acts (lists : List (String × List String)) (actions : List BlockAction) :
    (run.acts lists actions).state = run.state.acts lists actions := by
  induction actions generalizing run with
  | nil => rfl
  | cons a rest ih => exact ih _

/-- The condition of a block is looked at, or it is not: either way it comes to what it
    comes to in the state of the run. -/
theorem exists_decided (st : State σ) (met : ChainRun σ) (context : met.context = st.context)
    (generator : met.gates.generator = st.generator) (b : Block) :
    ∃ decided : ChainRun σ,
      (if (st.position.obstacle? b.kind).isNone && b.kind != .fallback then
        (some (decideBlock input derived met b).1, (decideBlock input derived met b).2)
      else (none, met)) = ((st.condition input derived b).1, decided) ∧
      decided.state = ⟨st.context, (st.condition input derived b).2, met.position⟩ ∧
      decided.outcomes = met.outcomes := by
  unfold State.condition
  cases (st.position.obstacle? b.kind).isNone && b.kind != .fallback with
  | false => exact ⟨met, rfl, by rw [state, context, generator]; rfl, rfl⟩
  | true =>
    have same : met.gates.generator = ({ generator := st.generator } : GateState σ).generator :=
      generator
    obtain ⟨results, drawn⟩ := passTrees_congr
      (v := ⟨st.context, input.lists, input.window, derived⟩) b.conditions 1 1 same
    refine ⟨(decideBlock input derived met b).2, ?_, ?_, rfl⟩
    · simp only [if_true, decideBlock, context, results]
    · simp only [if_true, state, decideBlock, GateState.line, context, drawn]

/-- The parts of a block, whatever is announced of it in the log. -/
theorem exists_step_eq (b : Block) :
    ∃ announced : String,
      let met := line { run with position := run.position.meet b.kind } 0 ("Block " ++ announced)
      let eligible := (run.position.obstacle? b.kind).isNone
      let decided :=
        if eligible && b.kind != .fallback then
          (some (decideBlock input derived met b).1, (decideBlock input derived met b).2)
        else (none, met)
      let executed := eligible && decided.1.getD true
      let said := decided.2.line 1 ("exec=" ++ truthText executed)
      let after :=
        if executed then
          acts input.lists { said with position := { said.position with isTaken := true } }
            b.actions
        else said
      run.step input derived b =
        { after with
          outcomes := after.outcomes ++ [⟨b.id, b.kind, eligible, decided.1, executed⟩] } := by
  unfold step
  simp only [String.append_assoc]
  exact ⟨_, rfl⟩

/-- What follows the decision: a block that is executed takes the chain and acts. -/
theorem outcomes_state_decided (executed : Bool) (text : String)
    (lists : List (String × List String)) (actions : List BlockAction) :
    let said := run.line 1 text
    let after :=
      if executed then
        acts lists { said with position := { said.position with isTaken := true } } actions
      else said
    after.outcomes = run.outcomes ∧
      after.state =
        if executed then
          ({ run.state with position := { run.position with isTaken := true } } : State σ).acts
            lists actions
        else run.state := by
  cases executed with
  | false => exact ⟨rfl, rfl⟩
  | true => exact ⟨(acts_position_outcomes (_ : ChainRun σ) _ _).2, state_acts _ _ _⟩

/-- What a block does to a run: its outcome and the state after it are those of the state
    before it. -/
theorem outcomes_state_step (b : Block) :
    (run.step input derived b).outcomes =
        run.outcomes ++ [run.state.outcome input derived b] ∧
      (run.step input derived b).state = run.state.step input derived b := by
  obtain ⟨announced, eq⟩ := exists_step_eq input derived run b
  obtain ⟨decided, found, decidedState, outcomes⟩ := exists_decided input derived run.state
    (line { run with position := run.position.meet b.kind } 0 ("Block " ++ announced)) rfl rfl b
  change (if (run.position.obstacle? b.kind).isNone && b.kind != .fallback then _ else _) = _
    at found
  rw [eq, found]
  let o := run.state.outcome input derived b
  obtain ⟨sameOutcomes, afterState⟩ := outcomes_state_decided decided o.executed
    ("exec=" ++ truthText o.executed) input.lists b.actions
  refine ⟨congrArg (· ++ [o]) (sameOutcomes.trans outcomes), afterState.trans ?_⟩
  have position : decided.position = run.position.meet b.kind :=
    congrArg State.position decidedState
  rw [decidedState, position]
  change _ = if o.executed then State.acts input.lists ⟨_, _, run.position.after o⟩ b.actions
    else ⟨_, _, run.position.after o⟩
  unfold Position.after
  cases o.executed <;> rfl

/-- What blocks do to a run. -/
theorem outcomes_state_foldl (blocks : List Block) :
    (blocks.foldl (step input derived) run).outcomes =
        run.outcomes ++ run.state.outcomes input derived blocks ∧
      (blocks.foldl (step input derived) run).state = run.state.steps input derived blocks := by
  induction blocks generalizing run with
  | nil => exact ⟨(List.append_nil _).symm, rfl⟩
  | cons b rest ih =>
    obtain ⟨first, next⟩ := outcomes_state_step input derived run b
    obtain ⟨others, after⟩ := ih (run.step input derived b)
    rw [next] at others after
    refine ⟨?_, after⟩
    rw [List.foldl_cons, others, first, List.append_assoc]
    rfl

end ChainRun

/-- The outcomes of a run, and the state that it ends in, are those of its blocks from the
    state that it begins in. -/
theorem outcomes_state_run (blocks : List Block) (input : ChainInput) (ctx : Context) (g : σ) :
    (run blocks input ctx g).outcomes =
        State.outcomes input (derivedNumbers input ctx) ⟨ctx, g, {}⟩ blocks ∧
      (run blocks input ctx g).state =
        State.steps input (derivedNumbers input ctx) ⟨ctx, g, {}⟩ blocks :=
  ChainRun.outcomes_state_foldl input (derivedNumbers input ctx)
    { context := ctx, gates := { generator := g } } blocks

end Chain

end ChatRules
