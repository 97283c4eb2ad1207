import ChatRules.Proofs.Progressive.Replay

/-!
# Runs one after the other

What a rule does in a progressive run depends on the context, not on what has been
reported before. So a list of rules can be cut anywhere: the rules after the cut run on
the context that those before it have left, and their report goes after the other one. A
blocked write before the cut ends the run there.

Results:

* `step_append`, `steps_append`: rules add to a run what they leave in one that has
  reported nothing.
* `steps_concat`: rules run after other ones, unless a write of those was blocked.
* `runProgressive_concat`: the run of rules, cut in two.
-/

namespace ChatRules

namespace ProgressiveRun

/-- A run with one that went on from its context after it. -/
def append (before after : ProgressiveRun) : ProgressiveRun where
  context := after.context
  fired := before.fired ++ after.fired
  effects := before.effects.merge after.effects
  applied := before.applied ++ after.applied
  trace := before.trace ++ after.trace
  diagnostics := before.diagnostics ++ after.diagnostics
  blocked := after.blocked

/-! ## What stands before a run -/

section

variable (o : ProgressiveOptions) (registry : Registry) (before run : ProgressiveRun)

theorem append_assoc (after : ProgressiveRun) :
    (before.append run).append after = before.append (run.append after) := by
  simp [append, List.append_assoc, EffectTree.merge_assoc]

theorem addWriteError_append (ruleId message : String) :
    (before.append run).addWriteError ruleId message =
      before.append (run.addWriteError ruleId message) := by
  simp [addWriteError, append, List.append_assoc]

/-- A patch does not look at what was reported before it. -/
theorem apply_append (p : Patch) :
    (before.append run).apply o p = before.append (run.apply o p) := by
  rw [apply_eq, apply_eq]
  split
  · have context : (before.append run).context = run.context := rfl
    rw [context]
    split
    · simp [append, List.append_assoc]
    · exact addWriteError_append before run _ _
  · simp [append, List.append_assoc]

theorem applyAll_append (patches : List Patch) :
    (before.append run).applyAll o patches = before.append (run.applyAll o patches) := by
  induction patches generalizing run with
  | nil => rfl
  | cons p rest ih =>
    have blocked : (before.append (run.apply o p)).blocked = (run.apply o p).blocked := rfl
    unfold applyAll
    dsimp only
    rw [apply_append, blocked]
    split
    · rfl
    · exact ih (run.apply o p)

/-- What a rule does to a run: the report of its evaluation goes after the run, and if the
    rule fires, its patches are applied. -/
theorem step_eq (p : RuleProgram) :
    run.step o registry p =
      let batch := evaluate [p] (o.access registry run.context)
      let patches := Patch.ofEffects p.id batch.effects
      if batch.fired.isEmpty then
        run.append
          { context := run.context, trace := batch.trace, diagnostics := batch.diagnostics
            blocked := run.blocked }
      else
        let reported := run.append
          { context := run.context, fired := batch.fired, effects := batch.effects
            trace := batch.trace, diagnostics := batch.diagnostics, blocked := run.blocked }
        match writePatches o p with
        | .ok own => reported.applyAll o (patches ++ own)
        | .error message => (reported.addWriteError p.id message).applyAll o patches := by
  unfold step
  dsimp only
  split
  · simp [append, EffectTree.merge_empty]
  · cases writePatches o p <;> simp [append]

/-- A rule does not look at what was reported before it. -/
theorem step_append (p : RuleProgram) :
    (before.append run).step o registry p = before.append (run.step o registry p) := by
  have context : (before.append run).context = run.context := rfl
  have blocked : (before.append run).blocked = run.blocked := rfl
  rw [step_eq, step_eq, context, blocked]
  dsimp only
  split
  · rw [append_assoc]
  · rw [append_assoc]
    split
    · rw [applyAll_append]
    · rw [addWriteError_append, applyAll_append]

theorem steps_append (rules : List RuleProgram) :
    (before.append run).steps o registry rules = before.append (run.steps o registry rules) := by
  induction rules generalizing run with
  | nil => rfl
  | cons p rest ih =>
    have blocked : (before.append (run.step o registry p)).blocked =
        (run.step o registry p).blocked := rfl
    unfold steps
    dsimp only
    rw [step_append, blocked]
    split
    · rfl
    · exact ih (run.step o registry p)

end

variable {o : ProgressiveOptions} {registry : Registry} {run : ProgressiveRun}

/-- A run that was not blocked has its report before that of a run that begins with its
    context. -/
theorem append_start (notBlocked : run.blocked = none) :
    run.append { context := run.context } = run := by
  simp [append, EffectTree.merge_empty, ← notBlocked]

/-- Rules run after other ones, unless a write of those was blocked. -/
theorem steps_concat {first : List RuleProgram}
    (notBlocked : (run.steps o registry first).blocked = none) (second : List RuleProgram) :
    run.steps o registry (first ++ second) =
      (run.steps o registry first).steps o registry second := by
  induction first generalizing run with
  | nil => rfl
  | cons p rest ih =>
    simp only [List.cons_append, steps] at notBlocked ⊢
    split at notBlocked
    · -- If this rule had been blocked, the run would be too.
      rename_i blocked
      simp [notBlocked] at blocked
    · rename_i free
      rw [if_neg free, if_neg free]
      exact ih notBlocked

/-- How a run is put together from one and the one that went on from its context. -/
structure IsSequence (whole first second : ProgressiveRun) : Prop where
  context : whole.context = second.context
  fired : whole.fired = first.fired ++ second.fired
  applied : whole.applied = first.applied ++ second.applied
  trace : whole.trace = first.trace ++ second.trace
  diagnostics : whole.diagnostics = first.diagnostics ++ second.diagnostics
  effects : whole.effects = first.effects.merge second.effects
  conflicts : whole.conflicts = ConflictGroup.groups (first.fired ++ second.fired)
  ok : whole.ok = second.ok
  blocked : whole.blocked = second.blocked

theorem isSequence_append (first second : ProgressiveRun) :
    (first.append second).IsSequence first second :=
  ⟨rfl, rfl, rfl, rfl, rfl, rfl, rfl, rfl, rfl⟩

end ProgressiveRun

open ProgressiveRun

/-- **Progressive runs compose.** If a write of the first rules is blocked, later rules make
    no difference to the run. Else the later ones run on the context that the first ones
    left, and what both report is put together. -/
theorem runProgressive_concat (o : ProgressiveOptions) (registry : Registry)
    (first second : List RuleProgram) (ctx : Context) :
    let begun := runProgressive o registry first ctx
    let whole := runProgressive o registry (first ++ second) ctx
    (begun.blocked.isSome → whole = begun) ∧
      (begun.blocked = none →
        whole.IsSequence begun (runProgressive o registry second begun.context)) := by
  intro begun whole
  refine ⟨fun blocked => steps_append_of_blocked blocked second rfl, fun notBlocked => ?_⟩
  have eq : whole = begun.append (runProgressive o registry second begun.context) := by
    calc whole
      _ = begun.steps o registry second := steps_concat notBlocked second
      _ = (begun.append { context := begun.context }).steps o registry second := by
        rw [append_start notBlocked]
      _ = begun.append (runProgressive o registry second begun.context) :=
        steps_append o registry begun _ second
  rw [eq]
  exact isSequence_append begun _

/-- A rule before one that may not write where it does and one that is not run: cut after
    the first rule, and cut after the second. -/
theorem runProgressive_concat_of_second_blocked :
    let o : ProgressiveOptions := { allowedTargets := ["inject.pre"] }
    let a : RuleProgram := .firing "a" [("inject.pre", .one "x")]
    let b : RuleProgram := .firing "b" [("inject.pre", .one "y"), ("inject.zone", .one "z")]
    let c : RuleProgram := .firing "c" [("inject.pre", .one "z")]
    let begun := runProgressive o {} [a] {}
    let whole := runProgressive o {} [a, b, c] {}
    begun.blocked = none ∧ (runProgressive o {} [a, b] {}).blocked = some ⟨"b", "inject.zone"⟩ ∧
      whole.IsSequence begun (runProgressive o {} [b, c] begun.context) ∧
      whole = runProgressive o {} [a, b] {} ∧
      whole.applied = [⟨"a", "inject.pre", .append, "x"⟩, ⟨"b", "inject.pre", .append, "y"⟩] := by
  intro o a b c begun whole
  have notBlocked : begun.blocked = none := by decide +kernel
  have blocked : (runProgressive o {} [a, b] {}).blocked = some ⟨"b", "inject.zone"⟩ := by
    decide +kernel
  obtain ⟨-, goesOn⟩ := runProgressive_concat o {} [a] [b, c] {}
  obtain ⟨stops, -⟩ := runProgressive_concat o {} [a, b] [c] {}
  exact ⟨notBlocked, blocked, goesOn notBlocked, stops (by rw [blocked]; rfl), by decide +kernel⟩

end ChatRules
