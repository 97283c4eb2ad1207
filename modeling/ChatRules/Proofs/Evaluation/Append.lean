import ChatRules.Evaluation.Report

/-!
# What rules add to a report

A rule reads the context and the sources, but not the report. So it adds the same to
every report: what it leaves in an empty one.

Results:

* `step_append`: a rule runs after what stands in a report, and does not look at it.
* `step_congr`: it adds the same wherever its computations come to the same.
* `foldl_step_eq`: the report of many rules is put together from those of the rules.
-/

namespace ChatRules

namespace EvaluationReport

/-- The report with another one after it. -/
def append (before after : EvaluationReport) : EvaluationReport where
  results := before.results ++ after.results
  fired := before.fired ++ after.fired
  conflicts := before.conflicts ++ after.conflicts
  effects := before.effects.merge after.effects
  trace := before.trace ++ after.trace
  diagnostics := before.diagnostics ++ after.diagnostics

variable (a : Access) (before report : EvaluationReport) (p : RuleProgram)

theorem append_empty : before.append {} = before := by
  simp [append, EffectTree.merge_empty]

theorem emit_append (event : TraceEvent) :
    (before.append report).emit event = before.append (report.emit event) := by
  simp [emit, append, List.append_assoc]

theorem stage_append {α : Type} (s : RuleStage) (x : Traced α) :
    (before.append report).stage p s x =
      (before.append (report.stage p s x).1, (report.stage p s x).2) := by
  unfold stage
  cases x.result <;> simp [append, emit, List.append_assoc]

theorem decide_append :
    (before.append report).decide a p =
      (before.append (report.decide a p).1, (report.decide a p).2) := by
  simp only [EvaluationReport.decide, stage_append, emit_append]

theorem commit_append : (before.append report).commit a p = before.append (report.commit a p) := by
  unfold commit
  split
  · rfl
  · rw [stage_append]

theorem produce_append :
    (before.append report).produce a p = before.append (report.produce a p) := by
  unfold produce
  cases p.effects with
  | none => rfl
  | some effects =>
    dsimp only
    rw [stage_append]
    obtain ⟨staged, e | tree⟩ := report.stage p .effects (effects a)
    · rfl
    · simp only [append, EffectTree.merge_assoc]

theorem fire_append (result : RuleResult) :
    (before.append report).fire a p result = before.append (report.fire a p result) := by
  simp only [fire, commit_append, produce_append]
  simp [append, List.append_assoc]

/-- A rule does not look at what stands in the report. -/
theorem step_append : (before.append report).step a p = before.append (report.step a p) := by
  simp only [step, decide_append]
  split
  · rw [fire_append]
    simp [append, List.append_assoc]
  · simp [append, List.append_assoc]

/-- A rule whose computations come to the same adds the same to a report. -/
theorem step_congr {a a' : Access} {p : RuleProgram}
    (condition : p.condition (p.accessFor a) = p.condition (p.accessFor a'))
    (effects : p.effects.map (· (p.accessFor a)) = p.effects.map (· (p.accessFor a')))
    (commit : p.commit = none) : report.step a p = report.step a' p := by
  have produced (report : EvaluationReport) :
      report.produce (p.accessFor a) p = report.produce (p.accessFor a') p := by
    unfold produce
    cases given : p.effects with
    | none => rfl
    | some f =>
      have same : f (p.accessFor a) = f (p.accessFor a') := by simpa [given] using effects
      simp only [same]
  simp only [step, EvaluationReport.decide, fire, EvaluationReport.commit, commit, condition,
    produced]

/-- A rule that was authored adds the same to a report if its condition comes to the same. -/
theorem step_ofRule_congr {a a' : Access} {r : Rule}
    (condition : (RuleProgram.ofRule r).condition ((RuleProgram.ofRule r).accessFor a) =
      (RuleProgram.ofRule r).condition ((RuleProgram.ofRule r).accessFor a')) :
    report.step a (.ofRule r) = report.step a' (.ofRule r) := by
  refine step_congr report condition ?_ rfl
  -- The effects of a rule are the same whatever it may use.
  simp only [RuleProgram.ofRule, Option.map_map]
  rfl

/-- What a rule adds to a report is what it leaves in an empty one. -/
theorem step_eq_append : before.step a p = before.append (step a {} p) := by
  rw [← step_append, append_empty]

/-- The report of rules is put together from the reports of the rules on their own. -/
theorem foldl_step_eq (rules : List RuleProgram) :
    rules.foldl (step a) before = (rules.map (step a {})).foldl append before := by
  induction rules generalizing before with
  | nil => rfl
  | cons p rest ih =>
    rw [List.foldl_cons, ih, step_eq_append]
    rfl

/-- Reports that are put together, field by field. -/
theorem foldl_append_eq (parts : List EvaluationReport) :
    parts.foldl append before =
      { results := before.results ++ parts.flatMap (·.results)
        fired := before.fired ++ parts.flatMap (·.fired)
        conflicts := before.conflicts ++ parts.flatMap (·.conflicts)
        effects := (parts.map (·.effects)).foldl EffectTree.merge before.effects
        trace := before.trace ++ parts.flatMap (·.trace)
        diagnostics := before.diagnostics ++ parts.flatMap (·.diagnostics) } := by
  induction parts generalizing before with
  | nil => simp
  | cons part rest ih =>
    rw [List.foldl_cons, ih]
    simp [append, List.append_assoc]

end EvaluationReport

end ChatRules
