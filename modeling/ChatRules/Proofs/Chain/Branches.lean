import ChatRules.Chain.Run

/-!
# The branches of a chain

A run keeps three flags: whether a chain is open, whether one of its blocks was
executed, and whether it had its fallback. What they come to can be said without
them, by the outcomes alone: the list of outcomes is cut at the opening blocks, and
a block is eligible if it opens a chain, or stands in one of which no block before
it was executed.

Results:

* `step_branches`: what a block adds to a run, and the flags after it.
* `follows_run`: the outcomes of a run are those that the flags lead to.
* `run_branches`: the same said by chains.
-/

namespace ChatRules.Chain

/-! ## Cutting a list of outcomes -/

/-- Whether the block of an outcome opens a chain. -/
def BlockOutcome.isOpening (o : BlockOutcome) : Bool := o.kind == .opening

/-- Outcomes cut at the opening blocks: those before the first one, and the chains. -/
def cut : List BlockOutcome → List BlockOutcome × List (List BlockOutcome)
  | [] => ([], [])
  | o :: rest =>
    let (before, chains) := cut rest
    if o.isOpening then ([], (o :: before) :: chains) else (o :: before, chains)

/-- The outcomes outside of all chains. -/
def outside (outcomes : List BlockOutcome) : List BlockOutcome := (cut outcomes).1

/-- The chains: each begins with an opening block and goes on up to the next one. -/
def chains (outcomes : List BlockOutcome) : List (List BlockOutcome) := (cut outcomes).2

theorem outside_cons (o : BlockOutcome) (rest : List BlockOutcome) :
    outside (o :: rest) = if o.isOpening then [] else o :: outside rest := by
  simp only [outside, cut]
  split <;> rfl

theorem chains_cons (o : BlockOutcome) (rest : List BlockOutcome) :
    chains (o :: rest) =
      if o.isOpening then (o :: outside rest) :: chains rest else chains rest := by
  simp only [outside, chains, cut]
  split <;> rfl

/-- To cut a list loses nothing. -/
theorem outside_append_flatten_chains (outcomes : List BlockOutcome) :
    outside outcomes ++ (chains outcomes).flatten = outcomes := by
  induction outcomes with
  | nil => rfl
  | cons o rest ih =>
    rw [outside_cons, chains_cons]
    split <;> simp [ih]

theorem isOpening_of_mem_outside {outcomes : List BlockOutcome} {o : BlockOutcome}
    (mem : o ∈ outside outcomes) : o.isOpening = false := by
  induction outcomes with
  | nil => cases mem
  | cons first rest ih =>
    rw [outside_cons] at mem
    split at mem
    · cases mem
    · rename_i notOpening
      rcases List.mem_cons.1 mem with rfl | mem
      · simpa using notOpening
      · exact ih mem

theorem exists_of_mem_chains {outcomes chain : List BlockOutcome}
    (mem : chain ∈ chains outcomes) :
    ∃ first rest, chain = first :: rest ∧ first.isOpening = true ∧
      ∀ o ∈ rest, o.isOpening = false := by
  induction outcomes with
  | nil => simp [chains, cut] at mem
  | cons o rest ih =>
    rw [chains_cons] at mem
    split at mem
    · rename_i opening
      rcases List.mem_cons.1 mem with rfl | mem
      · exact ⟨o, outside rest, rfl, opening, fun e => isOpening_of_mem_outside⟩
      · exact ih mem
    · exact ih mem

/-! ## What the flags lead to -/

/-- A block has a recorded condition if it is eligible and no fallback, and it is executed
    if it is eligible and no condition spoke against it. -/
structure BlockOutcome.IsConsistent (o : BlockOutcome) : Prop where
  condition : o.condition.isSome = true ↔ o.eligible = true ∧ o.kind ≠ .fallback
  executed : o.executed = true ↔ o.eligible = true ∧ o.condition ≠ some false

theorem BlockOutcome.IsConsistent.executed_of_fallback {o : BlockOutcome} (h : o.IsConsistent)
    (eligible : o.eligible = true) (fallback : o.kind = .fallback) : o.executed = true := by
  refine h.executed.2 ⟨eligible, fun some => ?_⟩
  have isSome : o.condition.isSome = true := by rw [some]; rfl
  exact (h.condition.1 isSome).2 fallback

/-- The position after a block with this outcome. -/
def Position.after (p : Position) (o : BlockOutcome) : Position :=
  if o.executed then { p.meet o.kind with isTaken := true } else p.meet o.kind

theorem Position.isOpen_after (p : Position) (o : BlockOutcome) :
    (p.after o).isOpen = (o.isOpening || p.isOpen) := by
  unfold Position.after BlockOutcome.isOpening
  cases o.executed <;> cases o.kind <;> cases open_ : p.isOpen <;> simp [meet, open_]

theorem Position.isTaken_after (p : Position) (o : BlockOutcome) :
    (p.after o).isTaken = (o.executed || (!o.isOpening && p.isTaken)) := by
  unfold Position.after BlockOutcome.isOpening
  cases o.executed <;> cases o.kind <;> cases open_ : p.isOpen <;> simp [meet, open_]

/-- Outcomes that come from a position: the flags say who is eligible. -/
def Follows : Position → List BlockOutcome → Prop
  | _, [] => True
  | p, o :: rest =>
    o.eligible = (p.obstacle? o.kind).isNone ∧ o.IsConsistent ∧ Follows (p.after o) rest

theorem follows_concat {p : Position} {outcomes : List BlockOutcome} {o : BlockOutcome}
    (h : Follows p outcomes) (consistent : o.IsConsistent)
    (eligible : o.eligible = ((outcomes.foldl Position.after p).obstacle? o.kind).isNone) :
    Follows p (outcomes ++ [o]) := by
  induction outcomes generalizing p with
  | nil => exact ⟨eligible, consistent, trivial⟩
  | cons first rest ih => exact ⟨h.1, h.2.1, ih h.2.2 eligible⟩

theorem isConsistent_of_follows {p : Position} {outcomes : List BlockOutcome}
    (h : Follows p outcomes) : ∀ o ∈ outcomes, o.IsConsistent := by
  induction outcomes generalizing p with
  | nil => simp
  | cons first rest ih => exact List.forall_mem_cons.2 ⟨h.2.1, ih h.2.2⟩

/-! ## Runs -/

namespace ChainRun

variable {σ : Type} [RandomSource σ]
variable (input : ChainInput) (derived : List (String × Float)) (run : ChainRun σ)

/-- Actions change neither the position nor the outcomes. -/
theorem acts_position_outcomes (lists : List (String × List String)) (actions : List BlockAction) :
    (run.acts lists actions).position = run.position ∧
      (run.acts lists actions).outcomes = run.outcomes := by
  induction actions generalizing run with
  | nil => exact ⟨rfl, rfl⟩
  | cons a rest ih => exact ih _

/-- What a block adds to a run: an outcome that the flags lead to. -/
theorem step_branches (b : Block) :
    ∃ o : BlockOutcome, (run.step input derived b).outcomes = run.outcomes ++ [o] ∧
      (run.step input derived b).position = run.position.after o ∧
      o.blockId = b.id ∧ o.kind = b.kind ∧
      o.eligible = (run.position.obstacle? b.kind).isNone ∧ o.IsConsistent := by
  unfold step
  simp only
  cases eligible : (run.position.obstacle? b.kind).isNone with
  | false =>
    refine ⟨⟨b.id, b.kind, false, none, false⟩, rfl, rfl, rfl, rfl, rfl, ?_⟩
    constructor <;> simp
  | true =>
    by_cases fallback : b.kind = .fallback
    · -- A fallback that is eligible is executed without a condition.
      simp only [fallback, bne_self_eq_false, Bool.and_false, Bool.false_eq_true, if_false,
        Option.getD_none, Bool.and_true, if_true]
      refine ⟨⟨b.id, .fallback, true, none, true⟩, ?_, ?_, rfl, rfl, rfl, ?_⟩
      · rw [(acts_position_outcomes _ _ _).2]
        rfl
      · exact (acts_position_outcomes _ _ _).1
      · constructor <;> simp
    · have conditional : (b.kind != .fallback) = true := by simpa using fallback
      simp only [conditional, Bool.and_true, if_true, Option.getD_some, Bool.true_and]
      cases decided : (decideBlock input derived (_ : ChainRun σ) b).1 with
      | false =>
        refine ⟨⟨b.id, b.kind, true, some false, false⟩, rfl, rfl, rfl, rfl, rfl, ?_⟩
        constructor <;> simp [fallback]
      | true =>
        refine ⟨⟨b.id, b.kind, true, some true, true⟩, ?_, ?_, rfl, rfl, rfl, ?_⟩
        · simp only [if_true]
          rw [(acts_position_outcomes _ _ _).2]
          rfl
        · simp only [if_true]
          rw [(acts_position_outcomes _ _ _).1]
          rfl
        · constructor <;> simp [fallback]

theorem follows_foldl (follows : Follows {} run.outcomes)
    (position : run.position = run.outcomes.foldl Position.after {}) (blocks : List Block) :
    let after := blocks.foldl (step input derived) run
    Follows {} after.outcomes ∧ after.position = after.outcomes.foldl Position.after {} ∧
      after.outcomes.map (fun o => (o.blockId, o.kind)) =
        run.outcomes.map (fun o => (o.blockId, o.kind)) ++ blocks.map fun b => (b.id, b.kind) := by
  induction blocks generalizing run with
  | nil => exact ⟨follows, position, by simp⟩
  | cons b rest ih =>
    obtain ⟨o, outcomes, moved, id, kind, eligible, consistent⟩ :=
      step_branches input derived run b
    rw [position, ← kind] at eligible
    have stepFollows : Follows {} (run.step input derived b).outcomes := by
      rw [outcomes]
      exact follows_concat follows consistent eligible
    have stepPosition : (run.step input derived b).position =
        (run.step input derived b).outcomes.foldl Position.after {} := by
      rw [moved, outcomes, position, List.foldl_append]
      rfl
    obtain ⟨restFollows, restPosition, names⟩ := ih _ stepFollows stepPosition
    refine ⟨restFollows, restPosition, ?_⟩
    rw [List.foldl_cons, names, outcomes]
    simp [id, kind]

end ChainRun

variable {σ : Type} [RandomSource σ]

/-- The outcomes of a run are those that its flags lead to, one for each block. -/
theorem follows_run (blocks : List Block) (input : ChainInput) (ctx : Context) (g : σ) :
    let outcomes := (run blocks input ctx g).outcomes
    Follows {} outcomes ∧
      (run blocks input ctx g).position = outcomes.foldl Position.after {} ∧
      outcomes.map (fun o => (o.blockId, o.kind)) = blocks.map fun b => (b.id, b.kind) := by
  exact ChainRun.follows_foldl input (derivedNumbers input ctx)
    { context := ctx, gates := { generator := g } } trivial rfl blocks

/-! ## Positions -/

/-- Where a fallback was seen, a block of the chain was executed: the fallback itself, or
    the one that kept it from being eligible. -/
def Position.IsSound (p : Position) : Prop := p.hasFallback = true → p.isTaken = true

theorem Position.IsSound.obstacle?_isNone {p : Position} (h : p.IsSound) (kind : BlockKind) :
    (p.obstacle? kind).isNone = (kind == .opening || (p.isOpen && !p.isTaken)) := by
  obtain ⟨isOpen, isTaken, hasFallback⟩ := p
  simp only [IsSound] at h
  cases kind <;> cases isOpen <;> cases isTaken <;> cases hasFallback <;> simp_all [obstacle?]

/-- The flag for the fallback never decides. -/
theorem Position.IsSound.obstacle?_withoutFlag {p : Position} (h : p.IsSound) (kind : BlockKind) :
    (p.obstacle? kind).isNone = (({ p with hasFallback := false }).obstacle? kind).isNone := by
  have flagless : ({ p with hasFallback := false } : Position).IsSound := nofun
  rw [h.obstacle?_isNone, flagless.obstacle?_isNone]

theorem Position.IsSound.after {p : Position} (h : p.IsSound) {o : BlockOutcome}
    (eligible : o.eligible = (p.obstacle? o.kind).isNone) (consistent : o.IsConsistent) :
    (p.after o).IsSound := by
  unfold Position.after
  split
  · exact fun _ => rfl
  · rename_i notExecuted
    cases kind : o.kind with
    | opening => exact nofun
    | alternative => exact h
    | fallback =>
      intro flag
      cases isOpen : p.isOpen with
      | true =>
        -- A fallback that is not executed is not eligible, so the chain was taken.
        have notEligible : o.eligible ≠ true := fun isEligible =>
          notExecuted (consistent.executed_of_fallback isEligible kind)
        rw [eligible, h.obstacle?_isNone, kind] at notEligible
        simpa [meet, isOpen] using notEligible
      | false =>
        simp only [meet, isOpen, Bool.false_eq_true, if_false] at flag ⊢
        exact h flag

theorem isSound_foldl {p : Position} {outcomes : List BlockOutcome} (h : Follows p outcomes)
    (sound : p.IsSound) : (outcomes.foldl Position.after p).IsSound := by
  induction outcomes generalizing p with
  | nil => exact sound
  | cons o rest ih => exact ih h.2.2 (sound.after h.1 h.2.1)

/-! ## Chains -/

/-- Blocks of a chain: each of them is eligible unless one was executed, be it before all of
    these (`taken`) or among those before it. -/
def IsBranching : Bool → List BlockOutcome → Prop
  | _, [] => True
  | taken, o :: rest =>
    o.eligible = !taken ∧ o.IsConsistent ∧ IsBranching (taken || o.executed) rest

/-- Outcomes that come from a position, cut at the opening blocks: those before the first
    one go on with the chain of the position, if one is open. -/
theorem branching_of_follows {p : Position} (sound : p.IsSound) {outcomes : List BlockOutcome}
    (h : Follows p outcomes) :
    (p.isOpen = false → ∀ o ∈ outside outcomes, o.eligible = false) ∧
      (p.isOpen = true → IsBranching p.isTaken (outside outcomes)) ∧
      ∀ chain ∈ chains outcomes, IsBranching false chain := by
  induction outcomes generalizing p with
  | nil => exact ⟨by simp [outside, cut], fun _ => trivial, by simp [chains, cut]⟩
  | cons o rest ih =>
    obtain ⟨eligible, consistent, restFollows⟩ := h
    obtain ⟨closed, opened, restChains⟩ := ih (sound.after eligible consistent) restFollows
    rw [Position.isOpen_after, Position.isTaken_after] at opened
    rw [Position.isOpen_after] at closed
    rw [sound.obstacle?_isNone] at eligible
    rw [outside_cons, chains_cons]
    cases isOpening : o.isOpening with
    | true =>
      have isEligible : o.eligible = true := by
        rw [eligible, show o.kind = .opening by simpa [BlockOutcome.isOpening] using isOpening]
        rfl
      simp only [isOpening, Bool.true_or, Bool.not_true, Bool.false_and, Bool.or_false,
        if_true] at opened ⊢
      refine ⟨by simp, fun _ => trivial, List.forall_mem_cons.2 ⟨?_, restChains⟩⟩
      exact ⟨isEligible, consistent, opened trivial⟩
    | false =>
      have notOpening : (o.kind == .opening) = false := isOpening
      rw [notOpening] at eligible
      simp only [isOpening, Bool.false_or, Bool.not_false, Bool.true_and, Bool.false_eq_true,
        if_false] at closed opened eligible ⊢
      refine ⟨fun isClosed => ?_, fun isOpen => ⟨?_, consistent, ?_⟩, restChains⟩
      · refine List.forall_mem_cons.2 ⟨?_, closed isClosed⟩
        rw [eligible, isClosed, Bool.false_and]
      · rw [eligible, isOpen, Bool.true_and]
      · rw [Bool.or_comm]
        exact opened isOpen

variable {taken : Bool} {chain : List BlockOutcome}

theorem IsBranching.eligible_iff (h : IsBranching taken chain) {before after : List BlockOutcome}
    {o : BlockOutcome} (eq : chain = before ++ o :: after) :
    o.eligible = true ↔ taken = false ∧ ∀ e ∈ before, e.executed = false := by
  induction before generalizing chain taken with
  | nil =>
    subst eq
    rw [h.1]
    simp
  | cons first rest ih =>
    subst eq
    rw [ih h.2.2 rfl, Bool.or_eq_false_iff, List.forall_mem_cons, and_assoc]

/-- Blocks that stand where the chain is taken are not executed; where it is not, at most
    one of them is, and one is if a fallback is among them. -/
theorem IsBranching.executed (h : IsBranching taken chain) :
    (taken = true → (chain.filter (·.executed)).length = 0) ∧
      (chain.filter (·.executed)).length ≤ 1 ∧
      (taken = false → (∃ o ∈ chain, o.kind = .fallback) →
        (chain.filter (·.executed)).length = 1) := by
  induction chain generalizing taken with
  | nil => simp
  | cons o rest ih =>
    obtain ⟨eligible, consistent, branching⟩ := h
    obtain ⟨none, atMostOne, one⟩ := ih branching
    rw [List.filter_cons]
    cases executed : o.executed with
    | true =>
      have notTaken : taken = false := by
        have isEligible := (consistent.executed.1 executed).1
        rw [eligible] at isEligible
        simpa using isEligible
      have noOther := none (by simp [executed])
      simp [notTaken, noOther]
    | false =>
      simp only [executed, Bool.or_false, Bool.false_eq_true, if_false] at none one ⊢
      refine ⟨none, atMostOne, fun notTaken fallback => one notTaken ?_⟩
      obtain ⟨e, mem, kind⟩ := fallback
      rcases List.mem_cons.1 mem with rfl | mem
      · -- The fallback is eligible here, so it would have been executed.
        have isExecuted := consistent.executed_of_fallback (by simp [eligible, notTaken]) kind
        rw [executed] at isExecuted
        cases isExecuted
      · exact ⟨e, mem, kind⟩

/-- **The branches of chains.** A run has one outcome for each block, in order. Cut at the
    opening blocks they are chains, and what stands before the first one is never eligible.
    An opening block always is, and a block of a chain is if no block before it in the
    chain was executed. At most one block of a chain is executed, and exactly one if the
    chain has a fallback. A condition is recorded if the block is eligible and no
    fallback, and it is executed if it is eligible and its condition does not fail. So the
    flag for the fallback never decides, whatever block comes next. -/
theorem run_branches (blocks : List Block) (input : ChainInput) (ctx : Context) (g : σ) :
    let after := run blocks input ctx g
    after.outcomes.map (fun o => (o.blockId, o.kind)) = blocks.map (fun b => (b.id, b.kind)) ∧
      outside after.outcomes ++ (chains after.outcomes).flatten = after.outcomes ∧
      (∀ o ∈ outside after.outcomes, o.isOpening = false ∧ o.eligible = false) ∧
      (∀ chain ∈ chains after.outcomes,
        (∃ first rest, chain = first :: rest ∧ first.isOpening = true ∧
          ∀ o ∈ rest, o.isOpening = false) ∧
        (∀ before o after, chain = before ++ o :: after →
          (o.eligible = true ↔ ∀ e ∈ before, e.executed = false)) ∧
        (chain.filter (·.executed)).length ≤ 1 ∧
        ((∃ o ∈ chain, o.kind = .fallback) → (chain.filter (·.executed)).length = 1)) ∧
      (∀ o ∈ after.outcomes, o.IsConsistent) ∧
      ∀ kind, (after.position.obstacle? kind).isNone =
        (({ after.position with hasFallback := false }).obstacle? kind).isNone := by
  intro after
  obtain ⟨follows, position, names⟩ := follows_run blocks input ctx g
  have initial : ({} : Position).IsSound := nofun
  obtain ⟨outsideChains, -, branching⟩ := branching_of_follows initial follows
  have sound : after.position.IsSound := by
    rw [show after.position = _ from position]
    exact isSound_foldl follows initial
  refine ⟨names, outside_append_flatten_chains _, fun o mem => ?_, fun chain mem => ?_,
    isConsistent_of_follows follows, sound.obstacle?_withoutFlag⟩
  · exact ⟨isOpening_of_mem_outside mem, outsideChains rfl o mem⟩
  · obtain ⟨-, atMostOne, one⟩ := (branching chain mem).executed
    refine ⟨exists_of_mem_chains mem, fun before o after eq => ?_, atMostOne, one rfl⟩
    rw [(branching chain mem).eligible_iff eq]
    simp

end ChatRules.Chain
