import ChatRules.Proofs.Block.Leaves
import ChatRules.Proofs.Chain.State

/-!
# The gates in the log

Every gate that is decided has an entry in the log, with its number and with what it came
to. So the log tells why a block was executed: what its condition came to is what the entries
of its gates come to, joined as the block says.

Results:

* `passTree_eq`, `passTrees_eq`: trees are decided by deciding their leaves, from left to
  right, and joining what these come to.
* `ChainRun.adds_step`: the entries that a block adds to the log.
* `run_gates`: the entries of a whole run, and what they say about its blocks.
-/

namespace ChatRules.Chain

variable {σ : Type}

/-! ## Deciding leaves -/

/-- A leaf that was decided: what it came to with its negation, and what was looked at. -/
structure Verdict where
  leaf : Bool × Gate
  ok : Bool
  detail : String

/-- The entry for the gate with a number. -/
def Verdict.entry (number : Nat) (d : Verdict) : String :=
  "Gate " ++ toString number ++ ": " ++ (if d.leaf.1 then "NOT " else "") ++
    d.leaf.2.typeName ++ " (" ++ d.detail ++ ") -> " ++ passWord d.ok

/-- The entries for gates, in order, after as many as there were before. -/
def entriesAfter (count : Nat) (verdicts : List Verdict) : List String :=
  (verdicts.zipIdx (count + 1)).map fun d => d.1.entry d.2

/-- Decides leaves, one after the other. -/
def decideLeaves [RandomSource σ] (v : GateView) : List (Bool × Gate) → σ → List Verdict × σ
  | [], g => ([], g)
  | (negated, gate) :: rest, g =>
    let ((raw, detail), g) := decideGate v g gate
    let (verdicts, g) := decideLeaves v rest g
    (⟨(negated, gate), raw != negated, detail⟩ :: verdicts, g)

theorem entriesAfter_append (count : Nat) (first second : List Verdict) :
    entriesAfter count (first ++ second) =
      entriesAfter count first ++ entriesAfter (count + first.length) second := by
  simp only [entriesAfter, List.zipIdx_append, List.map_append, Nat.add_right_comm]

theorem decideLeaves_append [RandomSource σ] (v : GateView) (first second : List (Bool × Gate))
    (g : σ) :
    decideLeaves v (first ++ second) g =
      let begun := decideLeaves v first g
      let ended := decideLeaves v second begun.2
      (begun.1 ++ ended.1, ended.2) := by
  induction first generalizing g with
  | nil => rfl
  | cons leaf rest ih => simp only [List.cons_append, decideLeaves, ih]

/-- Every leaf is decided once, in order. -/
theorem map_leaf_decideLeaves [RandomSource σ] (v : GateView) (leaves : List (Bool × Gate))
    (g : σ) :
    (decideLeaves v leaves g).1.map (·.leaf) = leaves := by
  induction leaves generalizing g with
  | nil => rfl
  | cons leaf rest ih => simp only [decideLeaves, List.map_cons, ih]

/-! ## Entries of the log -/

/-- The entry of a line about a gate: what follows its indentation. -/
def entryOf? (line : String) : Option String :=
  let text := line.toList.dropWhile (· == ' ')
  if "Gate ".toList.isPrefixOf text then some (String.ofList text) else none

/-- The entries about gates in a log. -/
def gateEntries (log : List String) : List String := log.filterMap entryOf?

theorem entryOf?_indented (depth : Nat) (text : String) :
    entryOf? ("".pushn ' ' depth ++ text) = entryOf? text := by
  have dropped : (List.replicate depth ' ' ++ text.toList).dropWhile (· == ' ') =
      text.toList.dropWhile (· == ' ') := by
    induction depth with
    | zero => rfl
    | succ n ih => exact ih
  simp only [entryOf?, String.toList_append, Text.toList_spaces, dropped]

theorem entryOf?_entry (number : Nat) (d : Verdict) :
    entryOf? (d.entry number) = some (d.entry number) := by
  obtain ⟨rest, eq⟩ : ∃ rest, d.entry number = "Gate " ++ rest := by
    simp only [Verdict.entry, String.append_assoc]
    exact ⟨_, rfl⟩
  have kept : ("Gate ".toList ++ rest.toList).dropWhile (· == ' ') =
      "Gate ".toList ++ rest.toList := rfl
  simp only [eq, entryOf?, String.toList_append, kept, List.prefix_append,
    List.isPrefixOf_iff_prefix, if_true, String.ofList_append, String.ofList_toList]

theorem entryOf?_group (rest : String) : entryOf? ("Group " ++ rest) = none := by
  rw [entryOf?, String.toList_append]
  rfl

/-- A line is not about a gate if its first letter says so. -/
theorem entryOf?_eq_none {start : String}
    (other : start.toList.head?.any (fun c => c != ' ' && c != 'G') = true) (rest : String) :
    entryOf? (start ++ rest) = none := by
  rw [entryOf?, String.toList_append]
  cases chars : start.toList with
  | nil => simp [chars] at other
  | cons c cs =>
    obtain ⟨blank, letter⟩ : c ≠ ' ' ∧ c ≠ 'G' := by simpa [chars] using other
    have gate : "Gate ".toList = ['G', 'a', 't', 'e', ' '] := rfl
    simp [gate, blank, Ne.symm letter]

/-! ## What is added to the log -/

/-- The gates that were decided are counted, and they have their entries in the log; nothing
    else is added to either. -/
structure Adds (before : GateState σ) (verdicts : List Verdict) (after : GateState σ) : Prop where
  gates : after.gates = before.gates + verdicts.length
  entries : gateEntries after.log = gateEntries before.log ++ entriesAfter before.gates verdicts

namespace Adds

variable {before middle after : GateState σ} {first second : List Verdict}

theorem trans (h : Adds before first middle) (h' : Adds middle second after) :
    Adds before (first ++ second) after where
  gates := by rw [h'.gates, h.gates, List.length_append, Nat.add_assoc]
  entries := by
    rw [h'.entries, h.entries, h.gates, entriesAfter_append, List.append_assoc]

/-- A line that is not about a gate adds nothing. -/
theorem line (h : Adds before first after) (depth : Nat) {text : String}
    (other : entryOf? text = none) : Adds before first (after.line depth text) where
  gates := h.gates
  entries := by
    have none : gateEntries ["".pushn ' ' (2 * depth) ++ text] = [] := by
      rw [gateEntries, List.filterMap_cons_none ((entryOf?_indented _ _).trans other),
        List.filterMap_nil]
    rw [← h.entries, GateState.line, gateEntries, List.filterMap_append, ← gateEntries,
      ← gateEntries, none, List.append_nil]

theorem refl (s : GateState σ) : Adds s [] s := ⟨rfl, (List.append_nil _).symm⟩

end Adds

/-! ## Trees -/

variable [RandomSource σ]

section Trees

variable (v : GateView)

/-- What leaves come to. -/
def leafResults (leaves : List (Bool × Gate)) (g : σ) : List Bool :=
  (decideLeaves v leaves g).1.map (·.ok)

/-- The leaves were decided, one after the other, and nothing else. -/
structure Decided (leaves : List (Bool × Gate)) (before after : GateState σ) : Prop where
  generator : after.generator = (decideLeaves v leaves before.generator).2
  adds : Adds before (decideLeaves v leaves before.generator).1 after

variable {v}

theorem Decided.trans {before middle after : GateState σ} {first second : List (Bool × Gate)}
    (h : Decided v first before middle) (h' : Decided v second middle after) :
    Decided v (first ++ second) before after where
  generator := by rw [h'.generator, h.generator, decideLeaves_append]
  adds := by
    have adds := h.adds.trans h'.adds
    rw [h.generator] at adds
    rw [decideLeaves_append]
    exact adds

theorem Decided.line {before after : GateState σ} {leaves : List (Bool × Gate)}
    (h : Decided v leaves before after) (depth : Nat) {text : String}
    (other : entryOf? text = none) : Decided v leaves before (after.line depth text) :=
  ⟨h.generator, h.adds.line depth other⟩

theorem Decided.gate (depth : Nat) (negated : Bool) (gate : Gate) (s : GateState σ) :
    Decided v [(negated, gate)] s (passGate v depth negated gate s).2 where
  generator := rfl
  adds := {
    gates := rfl
    entries := by
      let d : Verdict := ⟨(negated, gate), (decideGate v s.generator gate).1.1 != negated,
        (decideGate v s.generator gate).1.2⟩
      change gateEntries (s.log ++ ["".pushn ' ' (2 * depth) ++ d.entry (s.gates + 1)]) =
        gateEntries s.log ++ [d.entry (s.gates + 1)]
      rw [gateEntries, List.filterMap_append, ← gateEntries,
        List.filterMap_cons_some ((entryOf?_indented _ _).trans (entryOf?_entry _ d)),
        List.filterMap_nil] }

theorem passTrees_eq_of_forall {items : List GateTree}
    (parts : ∀ t ∈ items, ∀ (depth : Nat) (s : GateState σ),
      (passTree v depth t s).1 = t.value (leafResults v t.leaves s.generator) ∧
        Decided v t.leaves s (passTree v depth t s).2)
    (depth : Nat) (s : GateState σ) :
    (passTrees v depth items s).1 =
        GateTree.values items (leafResults v (GateTree.leavesAll items) s.generator) ∧
      Decided v (GateTree.leavesAll items) s (passTrees v depth items s).2 := by
  induction items generalizing s with
  | nil => exact ⟨rfl, rfl, Adds.refl s⟩
  | cons t rest ih =>
    obtain ⟨first, others⟩ := List.forall_mem_cons.1 parts
    obtain ⟨ok, decided⟩ := first depth s
    obtain ⟨oks, after⟩ := ih others (passTree v depth t s).2
    refine ⟨?_, decided.trans after⟩
    have length : (leafResults v t.leaves s.generator).length = t.leaves.length := by
      rw [leafResults, List.length_map, ← List.length_map (·.leaf), map_leaf_decideLeaves]
    have split : leafResults v (GateTree.leavesAll (t :: rest)) s.generator =
        leafResults v t.leaves s.generator ++
          leafResults v (GateTree.leavesAll rest) (passTree v depth t s).2.generator := by
      rw [GateTree.leavesAll, leafResults, decideLeaves_append, List.map_append, decided.generator]
      rfl
    rw [split, GateTree.values_cons_append t rest length, ← ok, ← oks]
    rfl

/-- A tree is decided by deciding its leaves, from left to right; it comes to what these
    come to, joined and negated as its groups say. -/
theorem passTree_eq (t : GateTree) (depth : Nat) (s : GateState σ) :
    (passTree v depth t s).1 = t.value (leafResults v t.leaves s.generator) ∧
      Decided v t.leaves s (passTree v depth t s).2 := by
  induction t using GateTree.induction generalizing depth s with
  | gate negated gate => exact ⟨rfl, Decided.gate depth negated gate s⟩
  | group join negated items ih =>
    let opened := s.line depth ("Group " ++ join.word ++ (if negated then " NOT" else "") ++
      " (" ++ toString items.length ++ " item(s))")
    obtain ⟨results, decided⟩ := passTrees_eq_of_forall ih (depth + 1) opened
    have begun : Decided v [] s opened :=
      ⟨rfl, (Adds.refl s).line depth (by simp only [String.append_assoc, entryOf?_group])⟩
    refine ⟨?_, (begun.trans decided).line depth
      (by simp only [String.append_assoc, entryOf?_group])⟩
    change (join.combine (passTrees v (depth + 1) items opened).1 != negated) = _
    rw [results, Join.combine_eq_passes, GateTree.value]
    cases negated <;> simp [opened, GateState.line, GateTree.leaves]

/-- Trees are decided by deciding all of their leaves. -/
theorem passTrees_eq (items : List GateTree) (depth : Nat) (s : GateState σ) :
    (passTrees v depth items s).1 =
        GateTree.values items (leafResults v (GateTree.leavesAll items) s.generator) ∧
      Decided v (GateTree.leavesAll items) s (passTrees v depth items s).2 :=
  passTrees_eq_of_forall (fun t _ depth s => passTree_eq t depth s) depth s

end Trees

/-! ## Blocks -/

theorem entryOf?_action (a : BlockAction) (summary : String) :
    entryOf? (a.typeName ++ ": " ++ summary) = none := by
  rw [String.append_assoc]
  refine entryOf?_eq_none ?_ _
  unfold BlockAction.typeName
  split <;> rfl

namespace State

variable (input : ChainInput) (derived : List (String × Float)) (st : State σ) (b : Block)

/-- What the gates of a block may look at. -/
def view : GateView := ⟨st.context, input.lists, input.window, derived⟩

/-- The gates of a block that are decided: all of them if its condition is looked at, and
    else none. -/
def verdicts : List Verdict :=
  if (st.condition input derived b).1.isSome then
    (decideLeaves (st.view input derived) b.leaves st.generator).1
  else []

variable {input derived st b}

theorem verdicts_of_none (unseen : (st.condition input derived b).1 = none) :
    st.verdicts input derived b = [] := by
  rw [verdicts, unseen]
  rfl

/-- If the condition is looked at, every gate of the block is decided, in order, and the
    condition comes to what the gates come to. -/
theorem verdicts_of_some {ok : Bool} (seen : (st.condition input derived b).1 = some ok) :
    (st.verdicts input derived b).map (·.leaf) = b.leaves ∧
      ok = b.value ((st.verdicts input derived b).map (·.ok)) := by
  have all : st.verdicts input derived b =
      (decideLeaves (st.view input derived) b.leaves st.generator).1 := by
    rw [verdicts, seen]
    rfl
  refine ⟨by rw [all, map_leaf_decideLeaves], ?_⟩
  unfold condition at seen
  split at seen
  · obtain ⟨results, -⟩ := passTrees_eq (v := st.view input derived) b.conditions 1
      { generator := st.generator }
    have joined : b.join.combine
        (passTrees (st.view input derived) 1 b.conditions { generator := st.generator }).1 = ok :=
      Option.some.inj seen
    rw [← joined, results, Join.combine_eq_passes, all]
    rfl
  · cases seen

/-- The gates of a block that are decided. -/
theorem map_leaf_verdicts :
    (st.verdicts input derived b).map (·.leaf) =
      if (st.outcome input derived b).condition.isSome then b.leaves else [] := by
  cases condition : (st.outcome input derived b).condition with
  | none =>
    rw [verdicts_of_none condition]
    rfl
  | some ok => exact (verdicts_of_some condition).1

/-- The states in which blocks are met, one block after the other. -/
def met (input : ChainInput) (derived : List (String × Float)) :
    State σ → List Block → List (Block × State σ)
  | _, [] => []
  | st, b :: rest => (b, st) :: met input derived (st.step input derived b) rest

theorem map_fst_met (blocks : List Block) : (st.met input derived blocks).map (·.1) = blocks := by
  induction blocks generalizing st with
  | nil => rfl
  | cons b rest ih => exact congrArg (b :: ·) ih

theorem map_outcome_met (blocks : List Block) :
    (st.met input derived blocks).map (fun m => m.2.outcome input derived m.1) =
      st.outcomes input derived blocks := by
  induction blocks generalizing st with
  | nil => rfl
  | cons b rest ih => exact congrArg (st.outcome input derived b :: ·) ih

/-- The gates that are decided, block by block, are those of the blocks whose condition is
    looked at. -/
theorem map_leaf_flatMap_verdicts (met : List (Block × State σ)) :
    (met.flatMap fun m => m.2.verdicts input derived m.1).map (·.leaf) =
      (met.filter fun m => (m.2.outcome input derived m.1).condition.isSome).flatMap
        (·.1.leaves) := by
  induction met with
  | nil => rfl
  | cons m rest ih =>
    rw [List.flatMap_cons, List.map_append, map_leaf_verdicts, ih, List.filter_cons]
    split <;> rfl

end State

namespace ChainRun

variable (input : ChainInput) (derived : List (String × Float))

theorem adds_acts {before : GateState σ} {verdicts : List Verdict} {run : ChainRun σ}
    (h : Adds before verdicts run.gates) (lists : List (String × List String))
    (actions : List BlockAction) : Adds before verdicts (run.acts lists actions).gates := by
  induction actions generalizing run with
  | nil => exact h
  | cons a rest ih =>
    have acted (generator : σ) :
        Adds before verdicts { run.gates with generator } := ⟨h.gates, h.entries⟩
    exact ih ((acted _).line 2 (entryOf?_action a _))

theorem adds_decideBlock (run : ChainRun σ) (b : Block) :
    Adds run.gates
      (decideLeaves (run.state.view input derived) b.leaves run.gates.generator).1
      (decideBlock input derived run b).2.gates := by
  obtain ⟨-, decided⟩ :=
    passTrees_eq (v := run.state.view input derived) b.conditions 1 run.gates
  have said (rest : String) : entryOf? ("condition " ++ rest) = none :=
    entryOf?_eq_none rfl rest
  exact decided.adds.line 1 (by simp only [String.append_assoc, said])

/-- The condition of a block adds the entries of its gates, if it is looked at. -/
theorem adds_decided (st : State σ) (met : ChainRun σ) (context : met.context = st.context)
    (generator : met.gates.generator = st.generator) (b : Block) :
    Adds met.gates (st.verdicts input derived b)
      (if (st.position.obstacle? b.kind).isNone && b.kind != .fallback then
        (some (decideBlock input derived met b).1, (decideBlock input derived met b).2)
      else (none, met)).2.gates := by
  unfold State.verdicts State.condition
  cases (st.position.obstacle? b.kind).isNone && b.kind != .fallback with
  | false => exact Adds.refl met.gates
  | true =>
    have adds := adds_decideBlock input derived met b
    rwa [State.view, state, context, generator] at adds

/-- What follows the decision adds nothing. -/
theorem adds_executed {before : GateState σ} {verdicts : List Verdict} {run : ChainRun σ}
    (h : Adds before verdicts run.gates) (executed : Bool) (lists : List (String × List String))
    (actions : List BlockAction) :
    let said := run.line 1 ("exec=" ++ truthText executed)
    let after :=
      if executed then
        acts lists { said with position := { said.position with isTaken := true } } actions
      else said
    Adds before verdicts after.gates := by
  have said : Adds before verdicts (run.line 1 ("exec=" ++ truthText executed)).gates :=
    h.line 1 (entryOf?_eq_none rfl _)
  cases executed with
  | false => exact said
  | true =>
    refine adds_acts ?_ lists actions
    exact said

/-- The entries that a block adds to the log: those of its gates, if its condition is looked
    at. -/
theorem adds_step (run : ChainRun σ) (b : Block) :
    Adds run.gates (run.state.verdicts input derived b) (run.step input derived b).gates := by
  obtain ⟨announced, eq⟩ := exists_step_eq input derived run b
  let met := line { run with position := run.position.meet b.kind } 0 ("Block " ++ announced)
  have begun : Adds run.gates [] met.gates :=
    (Adds.refl run.gates).line 0 (entryOf?_eq_none rfl announced)
  have decided := begun.trans (adds_decided input derived run.state met rfl rfl b)
  rw [eq]
  exact adds_executed decided _ input.lists b.actions

theorem adds_foldl (run : ChainRun σ) (blocks : List Block) :
    Adds run.gates
      ((run.state.met input derived blocks).flatMap fun m => m.2.verdicts input derived m.1)
      (blocks.foldl (step input derived) run).gates := by
  induction blocks generalizing run with
  | nil => exact Adds.refl run.gates
  | cons b rest ih =>
    have others := ih (run.step input derived b)
    rw [(outcomes_state_step input derived run b).2] at others
    exact (adds_step input derived run b).trans others

omit [RandomSource σ] in
theorem adds_finalLines {before : GateState σ} {verdicts : List Verdict} {run : ChainRun σ}
    (h : Adds before verdicts run.gates) : Adds before verdicts run.finalLines.gates :=
  ((((h.line 0 (by rfl)).line 1 (entryOf?_eq_none rfl _)).line 1
    (entryOf?_eq_none rfl _)).line 1 (entryOf?_eq_none rfl _)).line 1
      (entryOf?_eq_none rfl _)

end ChainRun

/-- **The gates explain what a run decides.** The entries about gates in the log are those of
    the gates that were decided, numbered from 1 on through the whole run. These are the gates
    of the blocks whose condition has an outcome, all of them, each once and from left to
    right. If a condition has no outcome, none of its gates was decided. If it has one, all of
    its gates were, and the outcome is what they came to, joined as the block and its groups
    say. -/
theorem run_gates (blocks : List Block) (input : ChainInput) (ctx : Context) (g : σ) :
    let derived := derivedNumbers input ctx
    let after := run blocks input ctx g
    let met := State.met input derived ⟨ctx, g, {}⟩ blocks
    let verdicts := met.flatMap fun m => m.2.verdicts input derived m.1
    met.map (·.1) = blocks ∧
      met.map (fun m => m.2.outcome input derived m.1) = after.outcomes ∧
      gateEntries after.log = entriesAfter 0 verdicts ∧
      verdicts.map (·.leaf) =
        ((blocks.zip after.outcomes).filter (·.2.condition.isSome)).flatMap (·.1.leaves) ∧
      ∀ m ∈ met, match (m.2.outcome input derived m.1).condition with
        | none => m.2.verdicts input derived m.1 = []
        | some ok =>
          (m.2.verdicts input derived m.1).map (·.leaf) = m.1.leaves ∧
            ok = m.1.value ((m.2.verdicts input derived m.1).map (·.ok)) := by
  intro derived after met verdicts
  have same : met.map (·.1) = blocks := State.map_fst_met blocks
  have outcomes : met.map (fun m => m.2.outcome input derived m.1) = after.outcomes :=
    (State.map_outcome_met blocks).trans (outcomes_state_run blocks input ctx g).1.symm
  have adds := ChainRun.adds_foldl input derived
    { context := ctx, gates := { generator := g } } blocks
  refine ⟨same, outcomes, (ChainRun.adds_finalLines adds).entries, ?_, fun m _ => ?_⟩
  · have zipped : blocks.zip after.outcomes =
        met.map fun m => (m.1, m.2.outcome input derived m.1) := by
      rw [← List.zip_map', same, outcomes]
    rw [zipped, List.filter_map, List.flatMap_map]
    exact State.map_leaf_flatMap_verdicts met
  · split
    · rename_i unseen
      exact State.verdicts_of_none unseen
    · rename_i seen
      exact State.verdicts_of_some seen

/-- A gate in a negated group, one beside it, and one that is not decided because the chain is
    taken. -/
example :
    let none : GateTree := .gate false (.noneInList "sweets")
    let blocks : List Block :=
      [{ join := .any, conditions := [.group .any true [.gate true (.noneInList "sours")], none] },
       { kind := .alternative, conditions := [none] }]
    let after := run blocks { lists := [("sweets", [])] } {} (Generator.ofWords [])
    after.outcomes.map (·.condition) = [some true, Option.none] ∧
      gateEntries after.log =
        ["Gate 1: NOT noneInList (unknown list 'sours') -> PASS",
         "Gate 2: noneInList (list 'sweets' in last message: false) -> PASS"] := by
  decide +kernel

end ChatRules.Chain
