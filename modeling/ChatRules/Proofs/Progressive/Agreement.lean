import ChatRules.Proofs.Condition.Related
import ChatRules.Proofs.Evaluation.Isolation
import ChatRules.Proofs.Progressive.Confinement
import ChatRules.Source.Builtin

/-!
# Runs that agree

A progressive run writes between its rules, and what it writes can be read by the
rules after it. If their conditions look at the conversation and at derived numbers
only, this makes no difference: no write changes the chat, so the run comes to the
same as evaluating the rules together, on the context that it began with.

Results:

* `read_eq_of_isOfConversation`: the standard sources of the conversation do not
  depend on what can be written.
* `Agrees.step`: the agreement holds after every rule.
* `runProgressive_agrees`: it holds of every run in which no write is blocked.
-/

namespace ChatRules

/-! ## Sources of the conversation -/

/-- Whether a source tells about the conversation or is a derived number. -/
def isOfConversation (sourceId : String) : Bool :=
  Path.startsWith sourceId "lastUser." || Path.startsWith sourceId "history." ||
    sourceId == "chat.messageCount" || Path.startsWith sourceId derivedStart

/-- Two views of the same conversation, with the same derived numbers. -/
structure View.SameConversation (v w : View) : Prop where
  chat : v.context.chat = w.context.chat
  derived : v.derived = w.derived

/-- The registry of the standard sources, with restrictions for modules. -/
def Registry.restricted (allowlists : List (String × List String)) : Registry :=
  { Registry.standard with allowlists }

theorem get_eq_of_mem_standardSources {s : Source} (mem : s ∈ standardSources)
    (ofConversation : isOfConversation s.id = true) {v w : View} (same : v.SameConversation w) :
    s.get v = s.get w := by
  have lastMessage : v.lastMessage = w.lastMessage := by
    simp only [View.lastMessage, Context.lastMessage?, same.chat]
  simp only [standardSources, List.mem_cons, List.not_mem_nil, or_false] at mem
  rcases mem with rfl | rfl | rfl | rfl | rfl | rfl | rfl | rfl
  · exact congrArg Except.ok lastMessage
  · exact congrArg Except.ok lastMessage
  · simp only [same.chat]
  · simp only [same.chat]
  · exact absurd ofConversation (by decide +kernel)
  · exact absurd ofConversation (by decide +kernel)
  · exact absurd ofConversation (by decide +kernel)
  · simp only [same.chat]

theorem get_eq_of_find?_standard {sourceId : String} {s : Source}
    (found : Dict.find? sourceId Registry.standard.sources = some s)
    (ofConversation : isOfConversation sourceId = true) {v w : View}
    (same : v.SameConversation w) : s.get v = s.get w := by
  have entry := Dict.mem_of_mem_ofList (Dict.mem_of_find? found)
  obtain ⟨source, mem, eq⟩ := List.mem_map.1 entry
  obtain ⟨rfl, rfl⟩ := Prod.mk.inj eq
  exact get_eq_of_mem_standardSources mem ofConversation same

/-- What a source of the conversation gives does not depend on the rest of the context. -/
theorem read_eq_of_isOfConversation {sourceId : String}
    (ofConversation : isOfConversation sourceId = true)
    (allowlists : List (String × List String)) (moduleId : String) (strict : Bool) {v w : View}
    (same : v.SameConversation w) :
    (Registry.restricted allowlists).read moduleId v strict sourceId =
      (Registry.restricted allowlists).read moduleId w strict sourceId := by
  have resolved : (Registry.restricted allowlists).resolve moduleId sourceId v =
      (Registry.restricted allowlists).resolve moduleId sourceId w := by
    unfold Registry.resolve
    cases found : Dict.find? sourceId (Registry.restricted allowlists).sources with
    | none => simp only [Registry.derived?, same.derived]
    | some s => simp only [Registry.compute, get_eq_of_find?_standard found ofConversation same]
  unfold Registry.read
  rw [resolved]

/-! ## Diagnostics -/

/-- Whether a diagnostic is about something else than a write. -/
def Diagnostic.isOfRule (d : Diagnostic) : Bool := d.stage != .write

namespace EvaluationReport

variable {report : EvaluationReport} (a : Access) (p : RuleProgram)

theorem isOfRule_stage {α : Type} {s : RuleStage} (ne : s ≠ .write) (x : Traced α)
    (h : ∀ d ∈ report.diagnostics, d.isOfRule = true) :
    ∀ d ∈ (report.stage p s x).1.diagnostics, d.isOfRule = true := by
  unfold stage
  cases x.result with
  | ok => exact h
  | error e =>
    intro d mem
    rcases List.mem_append.1 mem with old | new
    · exact h d old
    · rw [List.mem_singleton.1 new]
      simpa [Diagnostic.isOfRule] using ne

theorem isOfRule_commit (h : ∀ d ∈ report.diagnostics, d.isOfRule = true) :
    ∀ d ∈ (report.commit a p).diagnostics, d.isOfRule = true := by
  unfold EvaluationReport.commit
  split
  · exact h
  · exact isOfRule_stage p (s := .commit) nofun _ h

theorem isOfRule_produce (h : ∀ d ∈ report.diagnostics, d.isOfRule = true) :
    ∀ d ∈ (report.produce a p).diagnostics, d.isOfRule = true := by
  unfold produce
  cases p.effects with
  | none => exact h
  | some effects =>
    have staged := isOfRule_stage p (s := .effects) nofun (effects a) h
    dsimp only
    generalize report.stage p .effects (effects a) = after at staged ⊢
    obtain ⟨after, e | tree⟩ := after <;> exact staged

/-- A rule leaves no diagnostic about a write. -/
theorem isOfRule_step (h : ∀ d ∈ report.diagnostics, d.isOfRule = true) :
    ∀ d ∈ (report.step a p).diagnostics, d.isOfRule = true := by
  have decided : ∀ d ∈ (report.decide (p.accessFor a) p).1.diagnostics, d.isOfRule = true :=
    isOfRule_stage p (s := .when) nofun _ h
  unfold step
  dsimp only
  split
  · exact isOfRule_produce _ p (isOfRule_commit _ p decided)
  · exact decided

end EvaluationReport

/-- The diagnostics of an evaluation are never about writes. -/
theorem filter_isOfRule_evaluate (p : RuleProgram) (a : Access) :
    (evaluate [p] a).diagnostics.filter (·.isOfRule) = (evaluate [p] a).diagnostics := by
  rw [evaluate_singleton]
  exact List.filter_eq_self.2 (EvaluationReport.isOfRule_step a p (by simp))

theorem evaluate_singleton_congr {r : Rule}
    (reads : ∀ s ∈ r.sources, isOfConversation s = true)
    (allowlists : List (String × List String)) (o : ProgressiveOptions) {ctx ctx' : Context}
    (chat : ctx.chat = ctx'.chat) :
    evaluate [.ofRule r] (o.access (.restricted allowlists) ctx) =
      evaluate [.ofRule r] (o.access (.restricted allowlists) ctx') := by
  rw [evaluate_singleton, evaluate_singleton, EvaluationReport.step_ofRule_congr]
  cases given : r.condition with
  | none => simp only [RuleProgram.ofRule, RuleProgram.conditionOf, given]
  | some c =>
    simp only [RuleProgram.ofRule, RuleProgram.conditionOf, given]
    refine Condition.evaluate_congr c fun s mem => ?_
    have ofConversation : isOfConversation s = true :=
      reads s (by simpa [Rule.sources, given, Condition.childSources] using mem)
    exact read_eq_of_isOfConversation ofConversation allowlists _ _ ⟨chat, rfl⟩

/-! ## Progressive runs -/

namespace ProgressiveRun

/-- What a run reports about its rules is put together from reports of the rules on the
    context that it began with; the chat is still that one. -/
structure Agrees (begin : Context) (parts : List EvaluationReport) (run : ProgressiveRun) :
    Prop where
  chat : run.context.chat = begin.chat
  fired : run.fired = parts.flatMap (·.fired)
  effects : run.effects = (parts.map (·.effects)).foldl EffectTree.merge .empty
  diagnostics : run.diagnostics.filter (·.isOfRule) = parts.flatMap (·.diagnostics)

variable {o : ProgressiveOptions} {begin : Context} {run after : ProgressiveRun}
  {parts : List EvaluationReport}

/-- Patches change neither the chat nor what is reported about rules. -/
structure SameRules (before after : ProgressiveRun) : Prop where
  chat : after.context.chat = before.context.chat
  fired : after.fired = before.fired
  effects : after.effects = before.effects
  diagnostics : after.diagnostics.filter (·.isOfRule) = before.diagnostics.filter (·.isOfRule)

theorem SameRules.refl (run : ProgressiveRun) : SameRules run run := ⟨rfl, rfl, rfl, rfl⟩

theorem SameRules.trans {later : ProgressiveRun} (h : SameRules run after)
    (h' : SameRules after later) : SameRules run later where
  chat := h'.chat.trans h.chat
  fired := h'.fired.trans h.fired
  effects := h'.effects.trans h.effects
  diagnostics := h'.diagnostics.trans h.diagnostics

theorem sameRules_addWriteError (run : ProgressiveRun) (ruleId message : String) :
    SameRules run (run.addWriteError ruleId message) := by
  refine ⟨rfl, rfl, rfl, ?_⟩
  simp [addWriteError, Diagnostic.isOfRule]

theorem sameRules_apply (o : ProgressiveOptions) (run : ProgressiveRun) (p : Patch) :
    SameRules run (run.apply o p) := by
  rw [apply_eq]
  split
  · split
    · rename_i context written
      exact ⟨(Context.change_of_write_ok written).chat, rfl, rfl, rfl⟩
    · exact sameRules_addWriteError run _ _
  · exact ⟨rfl, rfl, rfl, rfl⟩

theorem sameRules_applyAll (o : ProgressiveOptions) (run : ProgressiveRun) (patches : List Patch) :
    SameRules run (run.applyAll o patches) := by
  induction patches generalizing run with
  | nil => exact .refl run
  | cons p rest ih =>
    unfold applyAll
    dsimp only
    split
    · exact sameRules_apply o run p
    · exact (sameRules_apply o run p).trans (ih _)

theorem Agrees.congr (h : Agrees begin parts run) (same : SameRules run after) :
    Agrees begin parts after where
  chat := same.chat.trans h.chat
  fired := same.fired.trans h.fired
  effects := same.effects.trans h.effects
  diagnostics := same.diagnostics.trans h.diagnostics

/-- The agreement holds after a rule that reads the conversation only. -/
theorem Agrees.step {r : Rule} (h : Agrees begin parts run)
    (reads : ∀ s ∈ r.sources, isOfConversation s = true)
    (allowlists : List (String × List String)) :
    Agrees begin (parts ++ [evaluate [.ofRule r] (o.access (.restricted allowlists) begin)])
      (run.step o (.restricted allowlists) (.ofRule r)) := by
  unfold ProgressiveRun.step
  rw [evaluate_singleton_congr reads allowlists o h.chat]
  obtain ⟨-, fired, effects⟩ :=
    evaluate_alone (.ofRule r) (o.access (.restricted allowlists) begin)
  have ofRule := filter_isOfRule_evaluate (.ofRule r) (o.access (.restricted allowlists) begin)
  generalize evaluate [.ofRule r] (o.access (.restricted allowlists) begin) = batch at *
  have reported : Agrees begin (parts ++ [batch])
      { run with
        trace := run.trace ++ batch.trace
        diagnostics := run.diagnostics ++ batch.diagnostics
        fired := run.fired ++ batch.fired
        effects := run.effects.merge batch.effects } :=
    { chat := h.chat
      fired := by simp [h.fired]
      effects := by simp [h.effects]
      diagnostics := by simp [h.diagnostics, ofRule] }
  dsimp only
  split
  · -- A rule that does not fire has no effects either.
    rename_i notFired
    have none : batch.fired = [] := List.isEmpty_iff.1 notFired
    have empty : batch.effects = .empty := by
      rw [effects, if_neg]
      intro ok
      simp [fired, ok] at none
    refine reported.congr ⟨rfl, ?_, ?_, rfl⟩
    · simp [none]
    · exact (empty ▸ run.effects.merge_empty).symm
  · split
    · exact reported.congr (sameRules_applyAll o _ _)
    · exact reported.congr ((sameRules_addWriteError _ _ _).trans (sameRules_applyAll o _ _))

theorem Agrees.steps {rules : List Rule} (h : Agrees begin parts run)
    (reads : ∀ r ∈ rules, ∀ s ∈ r.sources, isOfConversation s = true)
    (allowlists : List (String × List String)) (notYet : run.blocked = none)
    (notBlocked : (run.steps o (.restricted allowlists) (rules.map .ofRule)).blocked = none) :
    Agrees begin
      (parts ++ rules.map fun r => evaluate [.ofRule r] (o.access (.restricted allowlists) begin))
      (run.steps o (.restricted allowlists) (rules.map .ofRule)) := by
  induction rules generalizing run parts with
  | nil => simpa [ProgressiveRun.steps] using h
  | cons r rest ih =>
    obtain ⟨first, others⟩ := List.forall_mem_cons.1 reads
    simp only [List.map_cons, ProgressiveRun.steps] at notBlocked ⊢
    split at notBlocked
    · rename_i blocked
      rw [notBlocked] at blocked
      cases blocked
    · rename_i free
      rw [if_neg free]
      have stepped := ih (h.step first allowlists) others (by simpa using free) notBlocked
      simpa using stepped

end ProgressiveRun

open ProgressiveRun

/-- **A progressive run on conditions that cannot see its writes is an evaluation.** If the
    conditions of the rules read the conversation and derived numbers only, and no write is
    blocked, the run on the rules by priority reports what evaluating them together on the
    context at its beginning reports, but for diagnostics about writes. -/
theorem runProgressive_agrees (rules : List Rule)
    (reads : ∀ r ∈ rules, ∀ s ∈ r.sources, isOfConversation s = true)
    (allowlists : List (String × List String)) (o : ProgressiveOptions) (ctx : Context) :
    let registry := Registry.restricted allowlists
    let programs := RuleProgram.byPriority (rules.map .ofRule)
    let run := runProgressive o registry programs ctx
    let batch := evaluate programs (o.access registry ctx)
    run.blocked = none →
      run.fired = batch.fired ∧ run.effects = batch.effects ∧
        run.conflicts = batch.conflicts ∧
        run.diagnostics.filter (·.isOfRule) = batch.diagnostics := by
  intro registry programs run batch notBlocked
  let inOrder := rules.mergeSort fun a b => RuleProgram.mayPrecede (.ofRule a) (.ofRule b)
  have sorted : programs = inOrder.map .ofRule := RuleProgram.byPriority_map_ofRule rules
  have join : batch.IsJoin (programs.map fun p => evaluate [p] (o.access registry ctx)) := by
    have join := isJoin_evaluate programs (o.access registry ctx)
    rwa [RuleProgram.byPriority_byPriority] at join
  have agrees : Agrees ctx (programs.map fun p => evaluate [p] (o.access registry ctx)) run := by
    have start : Agrees ctx [] { context := ctx } := ⟨rfl, rfl, rfl, rfl⟩
    have readsSorted : ∀ r ∈ inOrder, ∀ s ∈ r.sources, isOfConversation s = true :=
      fun r mem => reads r (List.mem_mergeSort.1 mem)
    simp only [run, runProgressive, sorted] at notBlocked ⊢
    rw [List.map_map]
    exact start.steps readsSorted allowlists rfl notBlocked
  have fired : run.fired = batch.fired := agrees.fired.trans join.fired.symm
  refine ⟨fired, agrees.effects.trans join.effects.symm, ?_,
    agrees.diagnostics.trans join.diagnostics.symm⟩
  rw [ProgressiveRun.conflicts, fired, join.conflicts]

/-- A rule on the length of the conversation, one of whose writes fails, before a rule on a
    derived number. -/
theorem runProgressive_agrees_after_failed_write :
    let rules : List Rule :=
      [{ id := "start", priority := .number 2
         condition := some (.check "chat.messageCount" (.numberCompare .less 3))
         effects := some [("character.scenario", .one "night"), ("chat.note", .one "x")] },
       { id := "mood", priority := .number 1
         condition := some (.check "derived.mood" (.numberCompare .greater 0.5)) }]
    let o : ProgressiveOptions :=
      { allowedTargets := ["character.scenario", "chat.note"], derived := [("mood", 1)] }
    let registry := Registry.restricted []
    let programs := RuleProgram.byPriority (rules.map .ofRule)
    let run := runProgressive o registry programs {}
    let batch := evaluate programs (o.access registry {})
    (∀ r ∈ rules, ∀ s ∈ r.sources, isOfConversation s = true) ∧ run.blocked = none ∧
      run.firedIds = ["start", "mood"] ∧ run.diagnostics.length = 1 ∧
      run.fired = batch.fired ∧ run.diagnostics.filter (·.isOfRule) = batch.diagnostics := by
  intro rules o registry programs run batch
  have reads : ∀ r ∈ rules, ∀ s ∈ r.sources, isOfConversation s = true := by decide +kernel
  have inOrder : programs = rules.map .ofRule :=
    List.mergeSort_of_pairwise (by decide +kernel)
  have ran : run = runProgressive o registry (rules.map .ofRule) {} := by rw [← inOrder]
  have notBlocked : run.blocked = none := by
    rw [ran]
    decide +kernel
  obtain ⟨fired, -, -, diagnostics⟩ := runProgressive_agrees rules reads [] o {} notBlocked
  refine ⟨reads, notBlocked, ?_, ?_, fired, diagnostics⟩ <;>
    rw [ran] <;> decide +kernel

end ChatRules
