import ChatRules.Proofs.Chain.Frame

/-!
# Cutting a chain

An opening block forgets where the run stands, and the counts of the lists stay what they
were before the first block, since no action reaches the messages. So a run over two lists
of blocks, the second of which begins with an opening block, is the run over the first and
then the one over the second.

Results:

* `State.outcomes_append`: the outcomes of two lists of blocks.
* `State.steps_restarted`: blocks that begin with an opening one do the same from the
  beginning of a chain.
* `derivedNumbers_run`: the derived numbers that would be counted after a run.
* `run_append`: a run is cut before an opening block.
-/

namespace ChatRules.Chain

variable {σ : Type} [RandomSource σ]

/-! ## States -/

namespace State

variable (input : ChainInput) (derived : List (String × Float)) (st : State σ)

theorem outcomes_append (first second : List Block) :
    st.outcomes input derived (first ++ second) =
      st.outcomes input derived first ++
        (st.steps input derived first).outcomes input derived second := by
  induction first generalizing st with
  | nil => rfl
  | cons b rest ih => exact congrArg (st.outcome input derived b :: ·) (ih _)

/-- The state as a run begins with it, before any chain. -/
def restarted : State σ := { st with position := {} }

/-- An opening block finds the state as a run begins with it. -/
theorem outcome_step_opening {b : Block} (opening : b.kind = .opening) :
    st.outcome input derived b = st.restarted.outcome input derived b ∧
      st.step input derived b = st.restarted.step input derived b := by
  have eligible (p : Position) : p.obstacle? b.kind = none := by rw [opening, eligible_opening]
  have moved (p p' : Position) : p.meet b.kind = p'.meet b.kind := by
    rw [opening, Position.meet, Position.meet]
  have condition : st.condition input derived b = st.restarted.condition input derived b := by
    simp only [State.condition, restarted, eligible]
  have same : st.outcome input derived b = st.restarted.outcome input derived b := by
    simp only [outcome, condition, eligible]
  have after : st.position.after (st.restarted.outcome input derived b) =
      st.restarted.position.after (st.restarted.outcome input derived b) := by
    have kind : (st.restarted.outcome input derived b).kind = b.kind := rfl
    simp only [Position.after, kind, moved st.position st.restarted.position]
  refine ⟨same, ?_⟩
  unfold step
  simp only [same, condition, after]
  rfl

/-- Blocks that begin with an opening one go on as they do from the beginning of a chain.
    No blocks at all leave the position, and only that. -/
theorem steps_restarted (blocks : List Block)
    (opens : ∀ b ∈ blocks.head?, b.kind = .opening) :
    st.outcomes input derived blocks = st.restarted.outcomes input derived blocks ∧
      (st.steps input derived blocks).restarted =
        (st.restarted.steps input derived blocks).restarted := by
  cases blocks with
  | nil => exact ⟨rfl, rfl⟩
  | cons b rest =>
    obtain ⟨outcome, step⟩ := outcome_step_opening input derived st (opens b rfl)
    refine ⟨?_, ?_⟩
    · rw [outcomes, outcomes, outcome, step]
    · rw [steps, steps, List.foldl_cons, List.foldl_cons, step]

end State

/-! ## Derived numbers -/

/-- No action reaches the messages, so the lists count the same after a run. -/
theorem listCounts_run (blocks : List Block) (input : ChainInput) (ctx : Context) (g : σ) :
    listCounts (run blocks input ctx g).context input.lists input.window =
      listCounts ctx input.lists input.window := by
  have chat : (run blocks input ctx g).context.chat = ctx.chat :=
    (performed_run blocks input ctx g).induction (P := fun c => c.chat = ctx.chat)
      (fun _ _ _ _ change same => change.chat.trans same) rfl
  rw [listCounts, listCounts, chat]

theorem derivedNumbers_run (blocks : List Block) (input : ChainInput) (ctx : Context) (g : σ) :
    derivedNumbers input (run blocks input ctx g).context = derivedNumbers input ctx := by
  rw [derivedNumbers, derivedNumbers, listCounts_run]

/-! ## Runs -/

/-- **A chain can be cut before every opening block.** The run over all the blocks has the
    outcomes of the run over the first ones, and then those of a new run over the others,
    from the context and the source of random numbers that the first run left; it ends with
    the context and the source of the new run. The counts of the lists, which are taken once before
    the first block, are those that the new run takes. -/
theorem run_append (first second : List Block) (opens : ∀ b ∈ second.head?, b.kind = .opening)
    (input : ChainInput) (ctx : Context) (g : σ) :
    let begun := run first input ctx g
    let rest := run second input begun.context begun.gates.generator
    let whole := run (first ++ second) input ctx g
    whole.outcomes = begun.outcomes ++ rest.outcomes ∧
      whole.context = rest.context ∧
      whole.gates.generator = rest.gates.generator ∧
      listCounts begun.context input.lists input.window =
        listCounts ctx input.lists input.window ∧
      derivedNumbers input begun.context = derivedNumbers input ctx := by
  intro begun rest whole
  have derived : derivedNumbers input begun.context = derivedNumbers input ctx :=
    derivedNumbers_run first input ctx g
  obtain ⟨begunOutcomes, begunState⟩ := outcomes_state_run first input ctx g
  obtain ⟨restOutcomes, restState⟩ :=
    outcomes_state_run second input begun.context begun.gates.generator
  obtain ⟨wholeOutcomes, wholeState⟩ := outcomes_state_run (first ++ second) input ctx g
  rw [derived] at restOutcomes restState
  -- The new run begins with the state that the first one left, but for the position.
  obtain ⟨sameOutcomes, sameState⟩ :=
    State.steps_restarted input (derivedNumbers input ctx) begun.state second opens
  have outcomes : whole.outcomes = begun.outcomes ++ rest.outcomes := by
    calc whole.outcomes
      _ = begun.outcomes ++
          begun.state.outcomes input (derivedNumbers input ctx) second := by
        rw [wholeOutcomes, State.outcomes_append, ← begunOutcomes, ← begunState]
      _ = begun.outcomes ++ rest.outcomes := by
        rw [sameOutcomes, restOutcomes]
        rfl
  have state : whole.state.restarted = rest.state.restarted := by
    calc whole.state.restarted
      _ = (begun.state.steps input (derivedNumbers input ctx) second).restarted := by
        rw [wholeState, begunState, State.steps, List.foldl_append]
        rfl
      _ = rest.state.restarted := by
        rw [sameState, restState]
        rfl
  exact ⟨outcomes, congrArg State.context state, congrArg State.generator state,
    listCounts_run first input ctx g, derived⟩

/-- A fallback that is executed before the cut draws a text and writes into the memory. The
    chain after the cut looks at both, and draws again. -/
theorem run_append_after_fallback :
    let first : List Block :=
      [{ conditions := [.gate false (.memoryContains "met" "yes")] },
       { kind := .fallback
         actions := [.appendRandom "sweets" .personality, .memoryText "met" .set "yes"] }]
    let second : List Block :=
      [{ conditions := [.gate false (.memoryContains "met" "yes"),
           .gate false (.personalityContains "pie")]
         actions := [.appendRandom "sweets" .scenario] },
       { kind := .alternative, actions := [.append .scenario "Day."] }]
    let input : ChainInput := { lists := [("sweets", ["cake", "pie"])] }
    let g : Replay := ⟨[1, 0]⟩
    let begun := run first input {} g
    let rest := run second input begun.context begun.gates.generator
    let whole := run (first ++ second) input {} g
    (∀ b ∈ second.head?, b.kind = .opening) ∧
      whole.outcomes = begun.outcomes ++ rest.outcomes ∧ whole.context = rest.context ∧
      whole.outcomes.map (·.executed) = [false, true, true, false] ∧
      whole.context.character.scenario = "cake" := by
  intro first second input g begun rest whole
  have opens : ∀ b ∈ second.head?, b.kind = .opening := by decide
  obtain ⟨outcomes, context, -⟩ := run_append first second opens input {} g
  exact ⟨opens, outcomes, context, by decide +kernel, by decide +kernel⟩

end ChatRules.Chain
