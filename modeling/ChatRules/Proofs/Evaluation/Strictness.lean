import ChatRules.Proofs.Condition.Related
import ChatRules.Proofs.Evaluation.Isolation
import ChatRules.Source.Builtin
import Mathlib.Data.List.Forall2

/-!
# Strict reads

A read that fails leaves an event, and the condition goes on without a value. If reads are
strict, the condition fails instead, at the first read that does. So a rule none of whose
reads fails is not affected, and any other rule does not fire: strict reads only take rules
from those that fire.

Results:

* `tightened_evaluate`: a condition with strict reads comes to the same, or stops right
  after the first event that it has without them.
* `sourceEvents_step`: a rule leaves the events of its condition, and no other ones of
  sources.
* `tightened_alone`: the report of a rule on its own with strict reads.
* `evaluate_strict`: the reports of rules without strict reads and with them.
-/

namespace ChatRules

/-- Whether an event is about a read that failed. -/
def TraceEvent.isOfSource : TraceEvent → Bool
  | .sourceMissing _ _ => true
  | .sourceNotAllowed _ _ => true
  | .sourceError _ _ _ => true
  | _ => false

/-! ## Conditions -/

/-- What becomes of a computation if failed reads are errors: without events it stays, and
    else it stops right after its first one. -/
inductive Traced.Tightened {α : Type} (x : Traced α) : Traced α → Prop where
  | same (quiet : x.events = []) : Tightened x x
  | stopped {event : TraceEvent} {later : List TraceEvent} (e : Error)
    (first : x.events = event :: later) : Tightened x ⟨[event], .error e⟩

theorem Traced.compatible_tightened :
    Traced.Compatible fun {α} (x y : Traced α) => x.Tightened y where
  value _ := .same rfl
  sequence := by
    intro α β x y f g tightened next
    cases tightened with
    | same quiet =>
      obtain ⟨events, result⟩ := x
      obtain rfl : events = [] := quiet
      cases result with
      | error e => exact .same rfl
      | ok a => exact next a
    | @stopped event later e first =>
      -- The second computation does not get to its next step, so it is as before.
      have events : (x >>= f).events = event :: later ∨
          ∃ more, (x >>= f).events = event :: (later ++ more) := by
        cases came : x.result with
        | ok a => exact .inr ⟨_, by rw [events_bind_ok came, first, List.cons_append]⟩
        | error e => exact .inl (by rw [events_bind_error came, first])
      rcases events with eq | ⟨more, eq⟩ <;> exact .stopped e eq

theorem Registry.tightened_read (r : Registry) (moduleId : String) (view : View)
    (sourceId : String) :
    (r.read moduleId view false sourceId).Tightened (r.read moduleId view true sourceId) := by
  unfold Registry.read
  cases r.resolve moduleId sourceId view with
  | ok value => exact .same rfl
  | error failure => exact .stopped _ rfl

theorem Registry.isOfSource_read (r : Registry) (moduleId : String) (view : View)
    (strict : Bool) (sourceId : String) :
    ∀ event ∈ (r.read moduleId view strict sourceId).events, event.isOfSource = true := by
  unfold Registry.read
  intro event mem
  cases resolved : r.resolve moduleId sourceId view with
  | ok value =>
    rw [resolved] at mem
    cases mem
  | error failure =>
    rw [resolved] at mem
    rw [List.mem_singleton.1 mem]
    cases failure <;> rfl

/-- What a rule may use, with reads that are strict or are not. -/
def Access.withStrict (strict : Bool) (a : Access) : Access := { a with strict }

/-- A condition with strict reads comes to the same, or stops right after its first event. -/
theorem tightened_evaluate (c : Condition) (a : Access) :
    (c.evaluate (a.withStrict false).read).Tightened (c.evaluate (a.withStrict true).read) := by
  apply c.evaluate_related Traced.compatible_tightened
  intro s _
  exact a.registry.tightened_read a.moduleId a.view s

namespace RuleProgram

variable (r : Rule) (a : Access)

theorem tightened_condition :
    ((ofRule r).condition (a.withStrict false)).Tightened
      ((ofRule r).condition (a.withStrict true)) := by
  show (conditionOf r _).Tightened (conditionOf r _)
  unfold conditionOf
  cases r.condition with
  | none => exact .same rfl
  | some c => exact tightened_evaluate c a

theorem isOfSource_condition :
    ∀ event ∈ ((ofRule r).condition a).events, event.isOfSource = true := by
  show ∀ event ∈ (conditionOf r a).events, _
  unfold conditionOf
  cases r.condition with
  | none => exact fun _ mem => nomatch mem
  | some c =>
    refine c.forall_mem_events_evaluate fun s => ?_
    exact a.registry.isOfSource_read a.moduleId a.view a.strict s

end RuleProgram

/-! ## Reports of one rule -/

namespace EvaluationReport

/-- The events about reads that failed. -/
def sourceEvents (report : EvaluationReport) : List TraceEvent :=
  report.trace.filter (·.isOfSource)

variable (a : Access) (report : EvaluationReport)

theorem sourceEvents_stage {α : Type} (p : RuleProgram) (s : RuleStage) (x : Traced α) :
    (report.stage p s x).1.sourceEvents =
      report.sourceEvents ++ x.events.filter (·.isOfSource) := by
  unfold stage
  cases x.result with
  | ok a => simp [sourceEvents]
  | error e => simp [sourceEvents, emit, Diagnostic.event, TraceEvent.isOfSource]

theorem sourceEvents_decide (p : RuleProgram) :
    (report.decide a p).1.sourceEvents =
      report.sourceEvents ++ (p.condition a).events.filter (·.isOfSource) := by
  have decided : (report.decide a p).1.sourceEvents =
      (report.stage p .when (p.condition a)).1.sourceEvents := by
    simp [EvaluationReport.decide, sourceEvents, emit, TraceEvent.isOfSource]
  rw [decided, sourceEvents_stage]

/-- The effects of a rule are known before it runs, so they read nothing. -/
theorem sourceEvents_produce (r : Rule) :
    (report.produce a (.ofRule r)).sourceEvents = report.sourceEvents := by
  unfold produce RuleProgram.ofRule
  cases r.effectTree? with
  | none => rfl
  | some tree? =>
    cases tree? with
    | ok tree => simp [stage, sourceEvents]
    | error e =>
      simp [stage, sourceEvents, Traced.fail, emit, Diagnostic.event, TraceEvent.isOfSource]

/-- A rule leaves the events of its condition, and no other ones of sources. -/
theorem sourceEvents_step (r : Rule) :
    (report.step a (.ofRule r)).sourceEvents =
      report.sourceEvents ++
        ((RuleProgram.ofRule r).condition ((RuleProgram.ofRule r).accessFor a)).events := by
  have decided (access : Access) : (report.decide access (.ofRule r)).1.sourceEvents =
      report.sourceEvents ++ ((RuleProgram.ofRule r).condition access).events := by
    rw [sourceEvents_decide, List.filter_eq_self.2 (RuleProgram.isOfSource_condition r access)]
  unfold step
  dsimp only
  split
  · exact (sourceEvents_produce _ _ r).trans (decided _)
  · exact decided _

/-- The report of a rule whose condition fails. -/
theorem step_of_condition_error {p : RuleProgram} {events : List TraceEvent} {e : Error}
    (fails : p.condition (p.accessFor a) = ⟨events, .error e⟩) :
    step a {} p =
      { results := [p.resultOf (RuleProgram.failedCondition e.message)]
        trace := events ++ [.ruleError p.id .when e.message, .ruleEvaluated p.id false]
        diagnostics := [⟨p.id, .when, e.message⟩] } := by
  have notOk : (RuleProgram.failedCondition e.message).ok = false := rfl
  simp [step, EvaluationReport.decide, stage, fails, emit, Diagnostic.event, RuleResult.ok,
    RuleProgram.resultOf, notOk]

/-- The report of a rule on its own that says that its condition failed. -/
structure IsRefusal (p : RuleProgram) (report : EvaluationReport) : Prop where
  fired : report.fired = []
  message : ∃ message, report.results = [p.resultOf (RuleProgram.failedCondition message)] ∧
    report.diagnostics = [⟨p.id, .when, message⟩]
  failed : ∀ result ∈ report.results, result.reason.kind = .error ∧ result.ok = false

/-- What becomes of the report of a rule on its own if failed reads are errors. -/
structure Tightened (p : RuleProgram) (lenient strict : EvaluationReport) : Prop where
  /-- If no read failed, the report stays. -/
  same : lenient.sourceEvents = [] → strict = lenient
  /-- If a read failed, the condition does. -/
  refusal : lenient.sourceEvents ≠ [] → strict.IsRefusal p
  /-- Of the reads that failed only the first one is made. -/
  sourceEvents : strict.sourceEvents = lenient.sourceEvents.take 1

end EvaluationReport

open EvaluationReport

theorem sourceEvents_alone (r : Rule) (a : Access) :
    (evaluate [.ofRule r] a).sourceEvents =
      ((RuleProgram.ofRule r).condition ((RuleProgram.ofRule r).accessFor a)).events := by
  rw [evaluate_singleton]
  exact sourceEvents_step a {} r

/-- The report of a rule on its own with strict reads. -/
theorem tightened_alone (r : Rule) (a : Access) :
    Tightened (.ofRule r) (evaluate [.ofRule r] (a.withStrict false))
      (evaluate [.ofRule r] (a.withStrict true)) := by
  let p := RuleProgram.ofRule r
  have tightened : (p.condition (p.accessFor (a.withStrict false))).Tightened
      (p.condition (p.accessFor (a.withStrict true))) :=
    RuleProgram.tightened_condition r (p.accessFor a)
  have lenientEvents := sourceEvents_alone r (a.withStrict false)
  have strictEvents := sourceEvents_alone r (a.withStrict true)
  generalize came : p.condition (p.accessFor (a.withStrict true)) = x at tightened strictEvents
  cases tightened with
  | same quiet =>
    have eq : evaluate [p] (a.withStrict true) = evaluate [p] (a.withStrict false) := by
      rw [evaluate_singleton, evaluate_singleton, step_ofRule_congr {} came]
    exact {
      same := fun _ => eq
      refusal := fun failed => absurd (lenientEvents.trans quiet) failed
      sourceEvents := by rw [strictEvents, lenientEvents, quiet]; rfl }
  | @stopped event later e first =>
    have report := step_of_condition_error (a.withStrict true) came
    exact {
      same := fun none => by
        rw [lenientEvents, first] at none
        cases none
      refusal := fun _ => by
        rw [evaluate_singleton, report]
        exact {
          fired := rfl
          message := ⟨e.message, rfl, rfl⟩
          failed := fun result mem => by
            rw [List.mem_singleton.1 mem]
            exact ⟨rfl, rfl⟩ }
      sourceEvents := by rw [strictEvents, lenientEvents, first]; rfl }

/-! ## Results of many rules -/

/-- What becomes of the result of a rule if failed reads are errors: if it is still ok, it
    stays. -/
structure RuleResult.Tightened (lenient strict : RuleResult) : Prop where
  sameRule : { lenient with reason := strict.reason } = strict
  same : strict.ok = true → strict = lenient

/-- A rule that fires with strict reads has the same result without them. -/
theorem RuleResult.tightened_result (r : Rule) (a : Access) :
    RuleResult.Tightened ((RuleProgram.ofRule r).result (a.withStrict false))
      ((RuleProgram.ofRule r).result (a.withStrict true)) where
  sameRule := rfl
  same ok := by
    have alone := tightened_alone r a
    obtain ⟨strictResults, -⟩ := evaluate_alone (.ofRule r) (a.withStrict true)
    obtain ⟨lenientResults, -⟩ := evaluate_alone (.ofRule r) (a.withStrict false)
    by_cases quiet : (evaluate [.ofRule r] (a.withStrict false)).sourceEvents = []
    · have results := congrArg EvaluationReport.results (alone.same quiet)
      rw [strictResults, lenientResults] at results
      exact List.singleton_inj.1 results
    · have mem : (RuleProgram.ofRule r).result (a.withStrict true) ∈
          (evaluate [.ofRule r] (a.withStrict true)).results := by
        rw [strictResults]
        exact List.mem_singleton_self _
      obtain ⟨-, notOk⟩ := (alone.refusal quiet).failed _ mem
      rw [notOk] at ok
      cases ok

theorem RuleResult.sublist_filter_ok {lenient strict : List RuleResult}
    (tightened : List.Forall₂ RuleResult.Tightened lenient strict) :
    (strict.filter (·.ok)).Sublist (lenient.filter (·.ok)) := by
  induction tightened with
  | nil => exact .slnil
  | @cons l s lenient strict first rest ih =>
    by_cases ok : s.ok
    · obtain rfl := first.same ok
      rw [List.filter_cons_of_pos ok, List.filter_cons_of_pos ok]
      exact ih.cons_cons s
    · rw [List.filter_cons_of_neg ok]
      exact ih.trans (List.Sublist.filter _ (List.sublist_cons_self l lenient))

/-- **Strict reads only take rules from those that fire.** With them and without them the
    report is put together from those of the same rules in the same order. The report of
    a rule none of whose reads fails stays; any other rule has a condition that fails, at
    the first of these reads. So the rules that fire with strict reads are some of those
    that fire without them, with the same reasons. -/
theorem evaluate_strict (rules : List Rule) (a : Access) :
    let programs := rules.map RuleProgram.ofRule
    let inOrder := RuleProgram.byPriority programs
    let lenient := evaluate programs (a.withStrict false)
    let strict := evaluate programs (a.withStrict true)
    lenient.IsJoin (inOrder.map fun p => evaluate [p] (a.withStrict false)) ∧
      strict.IsJoin (inOrder.map fun p => evaluate [p] (a.withStrict true)) ∧
      (∀ r, Tightened (.ofRule r) (evaluate [.ofRule r] (a.withStrict false))
        (evaluate [.ofRule r] (a.withStrict true))) ∧
      List.Forall₂ RuleResult.Tightened lenient.results strict.results ∧
      strict.fired.Sublist lenient.fired := by
  intro programs inOrder lenient strict
  have results : List.Forall₂ RuleResult.Tightened lenient.results strict.results := by
    rw [results_evaluate, results_evaluate, RuleProgram.byPriority_map_ofRule,
      List.forall₂_map_left_iff, List.forall₂_map_right_iff, List.forall₂_same]
    intro p mem
    obtain ⟨r, -, rfl⟩ := List.mem_map.1 mem
    exact RuleResult.tightened_result r a
  refine ⟨isJoin_evaluate programs _, isJoin_evaluate programs _,
    fun r => tightened_alone r a, results, ?_⟩
  rw [fired_evaluate, fired_evaluate, ← results_evaluate, ← results_evaluate]
  exact RuleResult.sublist_filter_ok results

/-- A rule that fires because two sources are missing, before one that reads what there is:
    with strict reads the second one is left. -/
theorem evaluate_strict_of_missing_sources :
    let absent : Rule :=
      { id := "absent"
        condition := some (.not (some (.or
          [.check "chat.messageCount" (.numberCompare .greater 9),
            .check "mood" (.termHit "grim" .word), .check "weather" (.phraseHit "rain")]))) }
    let short : Rule :=
      { id := "short", condition := some (.check "chat.messageCount" (.numberCompare .less 3)) }
    let a : Access := { registry := .standard, view := {}, moduleId := defaultModule }
    let lenient := evaluate [.ofRule absent, .ofRule short] (a.withStrict false)
    let strict := evaluate [.ofRule absent, .ofRule short] (a.withStrict true)
    (evaluate [.ofRule absent] (a.withStrict false)).sourceEvents =
        [.sourceMissing "core" "mood", .sourceMissing "core" "weather"] ∧
      (evaluate [.ofRule absent] (a.withStrict true)).sourceEvents =
        [.sourceMissing "core" "mood"] ∧
      (evaluate [.ofRule absent] (a.withStrict true)).IsRefusal (.ofRule absent) ∧
      lenient.firedIds = ["absent", "short"] ∧ strict.firedIds = ["short"] ∧
      strict.fired.Sublist lenient.fired := by
  intro absent short a lenient strict
  obtain ⟨-, -, alone, -, fired⟩ := evaluate_strict [absent, short] a
  have events : (evaluate [.ofRule absent] (a.withStrict false)).sourceEvents =
      [.sourceMissing "core" "mood", .sourceMissing "core" "weather"] := by
    rw [evaluate_singleton]
    decide +kernel
  have order : RuleProgram.byPriority [.ofRule absent, .ofRule short] =
      [.ofRule absent, .ofRule short] :=
    List.mergeSort_of_pairwise (by decide +kernel)
  refine ⟨events, ?_, (alone absent).refusal (by rw [events]; exact List.cons_ne_nil _ _),
    ?_, ?_, fired⟩
  · rw [(alone absent).sourceEvents, events]
    rfl
  · simp only [lenient, evaluate, order]
    decide +kernel
  · simp only [strict, evaluate, order]
    decide +kernel

end ChatRules
