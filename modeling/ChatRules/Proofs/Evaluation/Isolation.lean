import ChatRules.Proofs.Evaluation.Append

/-!
# Rules on their own

Evaluating rules together comes to the same as evaluating them one by one, in the
same order, and putting the reports together. So whatever a rule does or fails to
do, the other rules have the results that they have on their own.

Results:

* `sameOutcome_step`: what a rule adds to a report, but for events and diagnostics.
* `evaluate_eq`: the report of rules, field by field.
* `map_evaluationOrder`: the places in the order of evaluation are those of the rules
  by priority.
* `isJoin_evaluate`: the report of rules is put together from those of the rules on
  their own.
* `results_evaluate`, `fired_evaluate`: the results of rules, and those that fire.
* `evaluate_isolated`: together with what a rule on its own comes to, failed effects
  included.
-/

namespace ChatRules

namespace RuleProgram

/-- What the condition of a rule comes to; a condition that fails does not hold. -/
def reason (a : Access) (p : RuleProgram) : Reason :=
  match (p.condition (p.accessFor a)).result with
  | .ok reason => reason
  | .error e => failedCondition e.message

/-- The result of a rule. -/
def result (a : Access) (p : RuleProgram) : RuleResult := p.resultOf (p.reason a)

/-- The effects that a rule has if it fires; effects that fail are none. -/
def produced (a : Access) (p : RuleProgram) : EffectTree :=
  match p.effects with
  | none => .empty
  | some effects =>
    match (effects (p.accessFor a)).result with
    | .ok tree => tree
    | .error _ => .empty

theorem produced_of_error {a : Access} {p : RuleProgram} {effects : Access → Traced EffectTree}
    {e : Error} (given : p.effects = some effects)
    (fails : (effects (p.accessFor a)).result = .error e) : p.produced a = .empty := by
  simp [produced, given, fails]

end RuleProgram

namespace EvaluationReport

/-- Reports that differ in nothing but their traces and their diagnostics. -/
structure SameOutcome (before after : EvaluationReport) : Prop where
  results : after.results = before.results
  fired : after.fired = before.fired
  conflicts : after.conflicts = before.conflicts
  effects : after.effects = before.effects

variable (a : Access) (report : EvaluationReport) (p : RuleProgram)

theorem SameOutcome.refl : SameOutcome report report := ⟨rfl, rfl, rfl, rfl⟩

/-! ## Stages -/

theorem stage_result {α : Type} (s : RuleStage) (x : Traced α) :
    (report.stage p s x).2 = x.result := by
  unfold stage
  cases x.result <;> rfl

theorem sameOutcome_stage {α : Type} (s : RuleStage) (x : Traced α) :
    SameOutcome report (report.stage p s x).1 := by
  unfold stage
  cases x.result <;> exact ⟨rfl, rfl, rfl, rfl⟩

theorem decide_reason : (report.decide (p.accessFor a) p).2 = p.reason a := by
  simp only [EvaluationReport.decide, stage_result]
  rfl

theorem sameOutcome_decide : SameOutcome report (report.decide a p).1 :=
  have staged := report.sameOutcome_stage p .when (p.condition a)
  ⟨staged.results, staged.fired, staged.conflicts, staged.effects⟩

theorem sameOutcome_commit : SameOutcome report (report.commit a p) := by
  unfold commit
  split
  · exact .refl report
  · exact report.sameOutcome_stage p .commit _

/-- A rule that fires adds what it produces to the effects. -/
theorem sameOutcome_produce :
    SameOutcome { report with effects := report.effects.merge (p.produced a) }
      (report.produce (p.accessFor a) p) := by
  unfold produce RuleProgram.produced
  cases p.effects with
  | none => exact ⟨rfl, rfl, rfl, report.effects.merge_empty.symm⟩
  | some effects =>
    have same := report.sameOutcome_stage p .effects (effects (p.accessFor a))
    dsimp only
    rw [← report.stage_result p .effects (effects (p.accessFor a))]
    generalize report.stage p .effects (effects (p.accessFor a)) = staged at same ⊢
    obtain ⟨after, e | tree⟩ := staged
    · exact ⟨same.results, same.fired, same.conflicts,
        same.effects.trans report.effects.merge_empty.symm⟩
    · exact ⟨same.results, same.fired, same.conflicts,
        congrArg (·.merge tree) same.effects⟩

theorem sameOutcome_fire (result : RuleResult) :
    SameOutcome
      { report with
        fired := report.fired ++ [result]
        effects := report.effects.merge (p.produced a) }
      (report.fire (p.accessFor a) p result) := by
  have committed := report.sameOutcome_commit (p.accessFor a) p
  have produced := sameOutcome_produce a (report.commit (p.accessFor a) p) p
  exact {
    results := produced.results.trans committed.results
    fired := by simp only [fire, produced.fired, committed.fired]
    conflicts := produced.conflicts.trans committed.conflicts
    effects := by simp only [fire, produced.effects, committed.effects] }

/-- What a rule adds to a report: its result, and if it fires, also its effects. -/
theorem sameOutcome_step :
    SameOutcome
      { report with
        results := report.results ++ [p.result a]
        fired := report.fired ++ if (p.result a).ok then [p.result a] else []
        effects := report.effects.merge (if (p.result a).ok then p.produced a else .empty) }
      (report.step a p) := by
  have decided := report.sameOutcome_decide (p.accessFor a) p
  have result : p.resultOf (report.decide (p.accessFor a) p).2 = p.result a := by
    rw [decide_reason]
    rfl
  simp only [step, result]
  split
  · have fired := sameOutcome_fire a (report.decide (p.accessFor a) p).1 p (p.result a)
    exact {
      results := by simp only [fired.results, decided.results]
      fired := by simp only [fired.fired, decided.fired]
      conflicts := fired.conflicts.trans decided.conflicts
      effects := by simp only [fired.effects, decided.effects] }
  · exact {
      results := by simp only [decided.results]
      fired := by simp only [decided.fired, List.append_nil]
      conflicts := decided.conflicts
      effects := by simp only [decided.effects, EffectTree.merge_empty] }

/-- A rule fires exactly if its result is ok. -/
theorem fired_step (eq : report.fired = report.results.filter (·.ok)) :
    (report.step a p).fired = (report.step a p).results.filter (·.ok) := by
  have outcome := sameOutcome_step a report p
  rw [outcome.fired, outcome.results, List.filter_append, ← eq, List.filter_cons, List.filter_nil]

theorem fired_foldl_step (rules : List RuleProgram)
    (eq : report.fired = report.results.filter (·.ok)) :
    (rules.foldl (step a) report).fired =
      (rules.foldl (step a) report).results.filter (·.ok) := by
  induction rules generalizing report with
  | nil => exact eq
  | cons p rest ih => exact ih (report.step a p) (fired_step a report p eq)

/-- How a report is put together from other ones: everything stands in order, the effects
    are merged from left to right, and the conflicts are those of the rules that fired. -/
structure IsJoin (report : EvaluationReport) (parts : List EvaluationReport) : Prop where
  results : report.results = parts.flatMap (·.results)
  fired : report.fired = parts.flatMap (·.fired)
  trace : report.trace = parts.flatMap (·.trace)
  diagnostics : report.diagnostics = parts.flatMap (·.diagnostics)
  effects : report.effects = (parts.map (·.effects)).foldl EffectTree.merge .empty
  fired_eq_filter : report.fired = report.results.filter (·.ok)
  conflicts : report.conflicts = ConflictGroup.groups report.fired

end EvaluationReport

open EvaluationReport

/-! ## Evaluations -/

/-- The places in the order of evaluation are those of the rules by priority. -/
theorem RuleProgram.map_evaluationOrder (rules : List RuleProgram) :
    (evaluationOrder rules).map (rules[·]?) = (byPriority rules).map some := by
  have atPlace : ∀ e ∈ rules.zipIdx, rules[e.2]? = some e.1 := fun e mem =>
    List.mem_zipIdx_iff_getElem?.1 mem
  -- Places do not count in the order, so they can be dropped before sorting or after it.
  have byPlace : (rules.zipIdx.mergeSort fun a b => mayPrecede a.1 b.1).map (·.1) =
      byPriority rules := by
    rw [List.map_mergeSort (s := mayPrecede) fun _ _ _ _ => rfl, List.zipIdx_map_fst]
    rfl
  rw [evaluationOrder, ← byPlace, List.map_map, List.map_map]
  exact List.map_congr_left fun e mem => atPlace e (List.mem_mergeSort.1 mem)

theorem evaluate_singleton (p : RuleProgram) (a : Access) :
    evaluate [p] a = (step a {} p).finish := by
  simp [evaluate, RuleProgram.byPriority]

/-- The report of rules, field by field. -/
theorem evaluate_eq (rules : List RuleProgram) (a : Access) :
    let parts := (RuleProgram.byPriority rules).map (step a {})
    evaluate rules a = finish
      { results := parts.flatMap (·.results)
        fired := parts.flatMap (·.fired)
        conflicts := parts.flatMap (·.conflicts)
        effects := (parts.map (·.effects)).foldl EffectTree.merge .empty
        trace := parts.flatMap (·.trace)
        diagnostics := parts.flatMap (·.diagnostics) } := by
  rw [evaluate, foldl_step_eq, foldl_append_eq]
  rfl

/-- Evaluating rules together is putting together the reports of the rules on their own. -/
theorem isJoin_evaluate (rules : List RuleProgram) (a : Access) :
    (evaluate rules a).IsJoin ((RuleProgram.byPriority rules).map fun p => evaluate [p] a) := by
  have fired : (evaluate rules a).fired = (evaluate rules a).results.filter (·.ok) :=
    fired_foldl_step a {} _ rfl
  have eq := evaluate_eq rules a
  simp only [evaluate_singleton]
  exact {
    results := by simp [eq, finish, List.flatMap_map]
    fired := by simp [eq, finish, List.flatMap_map]
    trace := by simp [eq, finish, List.flatMap_map]
    diagnostics := by simp [eq, finish, List.flatMap_map]
    effects := by simp [eq, finish, List.map_map, Function.comp_def]
    fired_eq_filter := fired
    conflicts := rfl }

/-- What a rule on its own comes to: one result, whatever its commit and its effects do,
    and what it produces if it fires. -/
theorem evaluate_alone (p : RuleProgram) (a : Access) :
    (evaluate [p] a).results = [p.result a] ∧
      (evaluate [p] a).fired = (if (p.result a).ok then [p.result a] else []) ∧
      (evaluate [p] a).effects = (if (p.result a).ok then p.produced a else .empty) := by
  have outcome := sameOutcome_step a {} p
  rw [evaluate_singleton]
  exact ⟨outcome.results, outcome.fired, outcome.effects.trans (EffectTree.empty_merge _)⟩

/-- The results are those of the rules, in the order of evaluation. -/
theorem results_evaluate (rules : List RuleProgram) (a : Access) :
    (evaluate rules a).results = (RuleProgram.byPriority rules).map (·.result a) := by
  have alone (p : RuleProgram) : (evaluate [p] a).results = [p.result a] :=
    (evaluate_alone p a).1
  rw [(isJoin_evaluate rules a).results, List.flatMap_map, List.map_eq_flatMap]
  simp only [alone]

/-- The rules that fire are those with a result that is ok. -/
theorem fired_evaluate (rules : List RuleProgram) (a : Access) :
    (evaluate rules a).fired =
      ((RuleProgram.byPriority rules).map (·.result a)).filter (·.ok) := by
  rw [(isJoin_evaluate rules a).fired_eq_filter, results_evaluate]

/-- **Rules are evaluated as if each of them was alone.** The report is put together from
    those of the rules on their own, in the order of evaluation. On its own a rule has one
    result, that of its condition; it fires if the result is ok, and if its effects fail it
    still fires, but has none. -/
theorem evaluate_isolated (rules : List RuleProgram) (a : Access) :
    let inOrder := RuleProgram.byPriority rules
    (RuleProgram.evaluationOrder rules).map (rules[·]?) = inOrder.map some ∧
      (evaluate rules a).IsJoin (inOrder.map fun p => evaluate [p] a) ∧
      ∀ p, (evaluate [p] a).results = [p.result a] ∧
        (evaluate [p] a).fired = (if (p.result a).ok then [p.result a] else []) ∧
        ∀ effects e, p.effects = some effects → (effects (p.accessFor a)).result = .error e →
          (evaluate [p] a).effects = .empty := by
  refine ⟨RuleProgram.map_evaluationOrder rules, isJoin_evaluate rules a, fun p => ?_⟩
  obtain ⟨results, fired, produced⟩ := evaluate_alone p a
  refine ⟨results, fired, fun effects e given fails => ?_⟩
  rw [produced, RuleProgram.produced_of_error given fails, ite_self]

/-- A rule with effects that fail before a rule with effects: both fire, and the effects
    are those of the second one. -/
theorem evaluate_isolated_of_failed_effects :
    let fails : Access → Traced EffectTree := fun _ => .fail (.write (.malformedPath "a..b"))
    let failing : RuleProgram :=
      { id := "a", label := "a", condition := fun _ => return .conjunction []
        effects := some fails }
    let sound : RuleProgram := .ofRule
      { id := "b", condition := some (.and []), effects := some [("inject.pre", .one "x")] }
    let a : Access := { registry := {}, view := {}, moduleId := defaultModule }
    failing.effects = some fails ∧
      (fails (failing.accessFor a)).result = .error (.write (.malformedPath "a..b")) ∧
      (evaluate [failing] a).effects = .empty ∧
      (evaluate [failing, sound] a).fired = [failing.result a, sound.result a] ∧
      (evaluate [failing, sound] a).effects.get? "inject.pre" = some ["x"] := by
  intro fails failing sound a
  obtain ⟨-, join, alone⟩ := evaluate_isolated [failing, sound] a
  have order : RuleProgram.byPriority [failing, sound] = [failing, sound] :=
    List.mergeSort_of_pairwise
      (by simp [RuleProgram.mayPrecede, failing, sound, RuleProgram.ofRule, Priority.value])
  obtain ⟨-, firstFired, failed⟩ := alone failing
  obtain ⟨-, secondFired, -⟩ := alone sound
  have nothing : (evaluate [failing] a).effects = .empty := failed fails _ rfl rfl
  -- Priorities are equal, so the rules stay as they are listed.
  rw [order] at join
  refine ⟨rfl, rfl, nothing, ?_, ?_⟩
  · rw [join.fired]
    simp only [List.map_cons, List.map_nil, List.flatMap_cons, List.flatMap_nil, firstFired,
      secondFired]
    rfl
  · rw [join.effects]
    simp only [List.map_cons, List.map_nil, List.foldl_cons, List.foldl_nil, nothing,
      EffectTree.empty_merge]
    decide +kernel

end ChatRules
