import ChatRules.Proofs.Evaluation.Strictness

/-!
# What a trace tells

The trace of an evaluation says in passing what its report says in sum: which rules were
decided and how, and which stages failed. Rules that only read leave nothing else in the
trace than failed reads, so that both can be read off it.

Results:

* `RuleProgram.readsOnly_ofRule`: the computations of an authored rule leave no events but
  failed reads.
* `EvaluationReport.Told.step`: what a rule adds to a report, it adds to the trace.
* `told_evaluate`: the trace of an evaluation tells its results and its diagnostics.
-/

namespace ChatRules

/-! ## Reading events -/

namespace TraceEvent

/-- The rule that was decided, and whether it held. -/
def decision? : TraceEvent → Option (String × Bool)
  | .ruleEvaluated ruleId ok => some (ruleId, ok)
  | _ => none

/-- The diagnostic of the stage that failed. -/
def diagnostic? : TraceEvent → Option Diagnostic
  | .ruleError ruleId stage message => some ⟨ruleId, stage, message⟩
  | _ => none

/-- The names of the rules that held when they were decided. -/
def heldIds (events : List TraceEvent) : List String :=
  ((events.filterMap decision?).filter (·.2)).map (·.1)

/-- Whether a write was made or blocked. -/
def isOfWrite : TraceEvent → Bool
  | .patchApplied _ _ _ => true
  | .writeBlocked _ _ => true
  | _ => false

variable {events : List TraceEvent}

/-- Failed reads tell nothing of rules. -/
theorem filterMap_of_isOfSource (source : ∀ event ∈ events, event.isOfSource = true) :
    events.filterMap decision? = [] ∧ events.filterMap diagnostic? = [] ∧
      ∀ event ∈ events, event.isOfWrite = false := by
  refine ⟨List.filterMap_eq_nil_iff.2 ?_, List.filterMap_eq_nil_iff.2 ?_, ?_⟩ <;>
  · intro event mem
    have ofSource := source event mem
    cases event <;> first | rfl | cases ofSource

end TraceEvent

open TraceEvent

/-! ## Rules that only read -/

/-- The computations of a rule leave no events but failed reads. -/
structure RuleProgram.ReadsOnly (p : RuleProgram) : Prop where
  condition : ∀ a, ∀ event ∈ (p.condition a).events, event.isOfSource = true
  commit : ∀ f ∈ p.commit, ∀ a, ∀ event ∈ (f a).events, event.isOfSource = true
  effects : ∀ f ∈ p.effects, ∀ a, ∀ event ∈ (f a).events, event.isOfSource = true

theorem RuleProgram.readsOnly_ofRule (r : Rule) : (ofRule r).ReadsOnly where
  condition := isOfSource_condition r
  commit := by simp [ofRule]
  effects := by
    intro f mem a event emitted
    obtain ⟨tree?, -, rfl⟩ := Option.map_eq_some_iff.1 mem
    -- The effects of a rule are known before it runs.
    cases tree? <;> cases emitted

/-! ## Reports -/

namespace EvaluationReport

/-- What the trace of a report tells: these decisions, the diagnostics of the report, and no
    writes. -/
structure Told (decisions : List (String × Bool)) (report : EvaluationReport) : Prop where
  decisions : report.trace.filterMap decision? = decisions
  diagnostics : report.trace.filterMap diagnostic? = report.diagnostics
  unwritten : ∀ event ∈ report.trace, event.isOfWrite = false

namespace Told

variable {decisions : List (String × Bool)} {report : EvaluationReport} {p : RuleProgram}

/-- Whatever else happens to a report, this is about its trace and its diagnostics. -/
theorem congr {after : EvaluationReport} (h : report.Told decisions)
    (trace : after.trace = report.trace) (diagnostics : after.diagnostics = report.diagnostics) :
    after.Told decisions where
  decisions := by rw [trace, h.decisions]
  diagnostics := by rw [trace, diagnostics, h.diagnostics]
  unwritten := by rw [trace]; exact h.unwritten

theorem reads (h : report.Told decisions) {events : List TraceEvent}
    (source : ∀ event ∈ events, event.isOfSource = true) :
    Told decisions { report with trace := report.trace ++ events } := by
  obtain ⟨undecided, unfailed, unwritten⟩ := filterMap_of_isOfSource source
  exact {
    decisions := by rw [List.filterMap_append, undecided, List.append_nil, h.decisions]
    diagnostics := by rw [List.filterMap_append, unfailed, List.append_nil, h.diagnostics]
    unwritten := List.forall_mem_append.2 ⟨h.unwritten, unwritten⟩ }

/-- A diagnostic comes with its event. -/
theorem diagnose (h : report.Told decisions) (d : Diagnostic) :
    Told decisions { report.emit d.event with diagnostics := report.diagnostics ++ [d] } where
  decisions := by
    rw [emit, List.filterMap_append, h.decisions]
    exact List.append_nil _
  diagnostics := by
    rw [emit, List.filterMap_append, h.diagnostics]
    rfl
  unwritten := List.forall_mem_append.2 ⟨h.unwritten, by simp [Diagnostic.event, isOfWrite]⟩

theorem stage {α : Type} (h : report.Told decisions) (s : RuleStage) {x : Traced α}
    (source : ∀ event ∈ x.events, event.isOfSource = true) :
    (report.stage p s x).1.Told decisions := by
  unfold EvaluationReport.stage
  cases x.result with
  | ok a => exact h.reads source
  | error e => exact (h.reads source).diagnose _

theorem decide (h : report.Told decisions) (reads : p.ReadsOnly) (a : Access) :
    (report.decide a p).1.Told (decisions ++ [(p.id, (report.decide a p).2.ok)]) := by
  have staged := h.stage (p := p) .when (reads.condition a)
  exact {
    decisions := by
      simp only [EvaluationReport.decide, emit, List.filterMap_append, staged.decisions]
      rfl
    diagnostics := by
      simp only [EvaluationReport.decide, emit, List.filterMap_append, staged.diagnostics]
      exact List.append_nil _
    unwritten := List.forall_mem_append.2 ⟨staged.unwritten, by simp [isOfWrite]⟩ }

theorem commit (h : report.Told decisions) (reads : p.ReadsOnly) (a : Access) :
    (report.commit a p).Told decisions := by
  unfold EvaluationReport.commit
  split
  · exact h
  · rename_i given
    exact h.stage .commit (reads.commit _ given a)

theorem produce (h : report.Told decisions) (reads : p.ReadsOnly) (a : Access) :
    (report.produce a p).Told decisions := by
  unfold EvaluationReport.produce
  split
  · exact h
  · rename_i effects given
    have staged := h.stage (p := p) .effects (reads.effects _ given a)
    split
    · rename_i came
      rw [came] at staged
      exact staged.congr rfl rfl
    · rename_i came
      rwa [came] at staged

/-- What a rule adds to a report, it adds to the trace. -/
theorem step (h : report.Told (report.results.map fun r => (r.id, r.ok))) (reads : p.ReadsOnly)
    (a : Access) :
    (report.step a p).Told ((report.step a p).results.map fun r => (r.id, r.ok)) := by
  have results : (report.step a p).results = report.results ++ [p.result a] :=
    (sameOutcome_step a report p).results
  have decided := h.decide reads (p.accessFor a)
  rw [decide_reason] at decided
  have told : (report.step a p).Told
      ((report.results.map fun r => (r.id, r.ok)) ++ [(p.id, (p.reason a).ok)]) := by
    unfold EvaluationReport.step
    dsimp only
    split
    · exact ((decided.commit reads _).produce reads _).congr rfl rfl
    · exact decided.congr rfl rfl
  rw [results, List.map_append]
  exact told

theorem foldl (h : report.Told (report.results.map fun r => (r.id, r.ok))) (a : Access)
    {rules : List RuleProgram} (reads : ∀ p ∈ rules, p.ReadsOnly) :
    (rules.foldl (EvaluationReport.step a) report).Told
      ((rules.foldl (EvaluationReport.step a) report).results.map fun r => (r.id, r.ok)) := by
  induction rules generalizing report with
  | nil => exact h
  | cons p rest ih =>
    obtain ⟨first, others⟩ := List.forall_mem_cons.1 reads
    exact ih (h.step first a) others

end Told

end EvaluationReport

open EvaluationReport

/-- The trace of an evaluation tells its results and its diagnostics. -/
theorem told_evaluate {rules : List RuleProgram} (reads : ∀ p ∈ rules, p.ReadsOnly)
    (a : Access) :
    (evaluate rules a).Told ((evaluate rules a).results.map fun r => (r.id, r.ok)) := by
  have inOrder : ∀ p ∈ RuleProgram.byPriority rules, p.ReadsOnly :=
    fun p mem => reads p ((RuleProgram.byPriority_perm rules).mem_iff.1 mem)
  let nothing : EvaluationReport := {}
  have begun : nothing.Told (nothing.results.map fun r => (r.id, r.ok)) :=
    ⟨rfl, rfl, by simp [nothing]⟩
  exact (begun.foldl a inOrder).congr rfl rfl

/-- The rules that fire are those that held when they were decided. -/
theorem heldIds_evaluate {rules : List RuleProgram} (reads : ∀ p ∈ rules, p.ReadsOnly)
    (a : Access) : heldIds (evaluate rules a).trace = (evaluate rules a).firedIds := by
  rw [heldIds, (told_evaluate reads a).decisions, firedIds, fired_evaluate, ← results_evaluate,
    List.filter_map, List.map_map]
  rfl

end ChatRules
