import ChatRules.Progressive.Run
import ChatRules.Proofs.Context.Write

/-!
# Replaying a progressive run

The patches that a progressive run lists as applied are all that it did to the
context: to write them again, one after the other, on the context that the run
began with leads to the context that it ended with.

Results:

* `Faithful.apply`, `Faithful.step`: the law holds after every patch and after
  every rule.
* `replay_applied`: it holds of every run, whether a write was blocked or not.
-/

namespace ChatRules

/-- The context after patches are written one after the other, each with success. -/
def Context.replay : List Patch → Context → Except WriteError Context
  | [], ctx => .ok ctx
  | p :: rest, ctx =>
    match ctx.write p.path p.op p.value with
    | .ok ctx => replay rest ctx
    | .error e => .error e

theorem Context.replay_concat {patches : List Patch} {start ctx : Context} {p : Patch}
    (h : start.replay patches = .ok ctx) :
    start.replay (patches ++ [p]) = ctx.write p.path p.op p.value := by
  induction patches generalizing start with
  | nil =>
    cases h
    simp only [List.nil_append, replay]
    split <;> simp_all
  | cons q rest ih =>
    simp only [List.cons_append, replay] at h ⊢
    split at h
    · exact ih h
    · cases h

namespace ProgressiveRun

/-- The context of a run that began with `begin` is what its patches have made of it, and
    all of them led to allowed targets. -/
structure Faithful (o : ProgressiveOptions) (begin : Context) (run : ProgressiveRun) : Prop where
  replay : begin.replay run.applied = .ok run.context
  allowed : ∀ p ∈ run.applied, p.path ∈ o.allowedTargets

variable {o : ProgressiveOptions} {registry : Registry} {begin : Context} {run : ProgressiveRun}

/-- What a patch does: it is applied as a whole, or fails, or is blocked; in the last two
    cases the context stays. -/
theorem apply_eq (o : ProgressiveOptions) (run : ProgressiveRun) (p : Patch) :
    run.apply o p =
      if o.isAllowed p.path then
        match run.context.write p.path p.op p.value with
        | .ok context =>
          { run with
            context
            trace := run.trace ++ [.patchApplied p.ruleId p.path p.op]
            applied := run.applied ++ [p] }
        | .error e => run.addWriteError p.ruleId (Error.write e).message
      else
        { run with
          trace := run.trace ++ [.writeBlocked p.ruleId p.path]
          blocked := some ⟨p.ruleId, p.path⟩ } := by
  unfold ProgressiveRun.apply
  rw [Context.writeInPlace_eq]
  cases run.context.write p.path p.op p.value <;> rfl

/-- A patch changes the context of a run as its write does, if it is let through. -/
theorem context_apply (o : ProgressiveOptions) (run : ProgressiveRun) (p : Patch) :
    (run.apply o p).context =
      if p.path ∈ o.allowedTargets then
        (run.context.writeInPlace p.path p.op p.value).left
      else run.context := by
  have isAllowed : o.isAllowed p.path = true ↔ p.path ∈ o.allowedTargets := List.contains_iff_mem
  unfold ProgressiveRun.apply
  by_cases allowed : p.path ∈ o.allowedTargets
  · rw [if_pos (isAllowed.2 allowed), if_pos allowed]
    cases run.context.writeInPlace p.path p.op p.value <;> rfl
  · rw [if_neg (mt isAllowed.1 allowed), if_neg allowed]

/-- Whatever else happens in a run, the law is about its context and its patches. -/
theorem Faithful.congr {after : ProgressiveRun} (h : Faithful o begin run)
    (context : after.context = run.context) (applied : after.applied = run.applied) :
    Faithful o begin after where
  replay := by rw [applied, context, h.replay]
  allowed := by rw [applied]; exact h.allowed

theorem Faithful.addWriteError (h : Faithful o begin run) (ruleId message : String) :
    Faithful o begin (run.addWriteError ruleId message) :=
  h.congr rfl rfl

theorem Faithful.apply (h : Faithful o begin run) (p : Patch) :
    Faithful o begin (run.apply o p) := by
  rw [apply_eq]
  split
  · rename_i isAllowed
    split
    · rename_i context written
      refine ⟨(Context.replay_concat h.replay).trans written, fun q mem => ?_⟩
      rcases List.mem_append.1 mem with old | new
      · exact h.allowed q old
      · rw [List.mem_singleton.1 new]
        exact List.contains_iff_mem.1 isAllowed
    · exact h.addWriteError _ _
  · exact h.congr rfl rfl

theorem applied_or_unchanged (o : ProgressiveOptions) (run : ProgressiveRun) (p : Patch) :
    (run.apply o p).applied = run.applied ++ [p] ∨ (run.apply o p).context = run.context := by
  rw [apply_eq]
  split
  · split
    · exact .inl rfl
    · exact .inr rfl
  · exact .inr rfl

theorem Faithful.applyAll (h : Faithful o begin run) (patches : List Patch) :
    Faithful o begin (run.applyAll o patches) := by
  induction patches generalizing run with
  | nil => exact h
  | cons p rest ih =>
    unfold ProgressiveRun.applyAll
    have applied := h.apply p
    dsimp only
    split
    · exact applied
    · exact ih applied

theorem Faithful.step (h : Faithful o begin run) (p : RuleProgram) :
    Faithful o begin (run.step o registry p) := by
  unfold ProgressiveRun.step
  dsimp only
  split
  · exact h.congr rfl rfl
  · split
    · refine Faithful.applyAll ?_ _
      exact h.congr rfl rfl
    · refine Faithful.applyAll (Faithful.addWriteError ?_ _ _) _
      exact h.congr rfl rfl

theorem Faithful.steps (h : Faithful o begin run) (rules : List RuleProgram) :
    Faithful o begin (run.steps o registry rules) := by
  induction rules generalizing run with
  | nil => exact h
  | cons p rest ih =>
    unfold ProgressiveRun.steps
    have stepped : Faithful o begin (run.step o registry p) := h.step p
    dsimp only
    split
    · exact stepped
    · exact ih stepped

theorem Faithful.initial (o : ProgressiveOptions) (ctx : Context) :
    Faithful o ctx { context := ctx } :=
  ⟨rfl, by simp⟩

/-- Rules after a blocked write are not run. -/
theorem steps_append_of_blocked {rules : List RuleProgram}
    (blocked : (run.steps o registry rules).blocked.isSome) (later : List RuleProgram)
    (notYet : run.blocked = none) :
    run.steps o registry (rules ++ later) = run.steps o registry rules := by
  induction rules generalizing run with
  | nil => simp [ProgressiveRun.steps, notYet] at blocked
  | cons p rest ih =>
    simp only [List.cons_append, ProgressiveRun.steps] at blocked ⊢
    split
    · rfl
    · -- This rule was not the one, so the block came with those after it.
      rename_i notBlocked
      rw [if_neg notBlocked] at blocked
      exact ih blocked (by simpa using notBlocked)

end ProgressiveRun

theorem faithful_runProgressive (o : ProgressiveOptions) (registry : Registry)
    (rules : List RuleProgram) (ctx : Context) :
    ProgressiveRun.Faithful o ctx (runProgressive o registry rules ctx) :=
  (ProgressiveRun.Faithful.initial o ctx).steps rules

/-- **The patches that are applied are all that a run does to its context.** They can be
    written again with success, they lead to allowed targets, every other patch leaves the
    context alone, and after a blocked one no further rule is run. -/
theorem replay_applied (o : ProgressiveOptions) (registry : Registry) (rules : List RuleProgram)
    (ctx : Context) :
    let run := runProgressive o registry rules ctx
    ctx.replay run.applied = .ok run.context ∧
      (∀ p ∈ run.applied, p.path ∈ o.allowedTargets) ∧
      (∀ (before : ProgressiveRun) (p : Patch),
        (before.apply o p).applied = before.applied ++ [p] ∨
          (before.apply o p).context = before.context) ∧
      (run.blocked.isSome → ∀ later, runProgressive o registry (rules ++ later) ctx = run) := by
  have faithful := faithful_runProgressive o registry rules ctx
  exact ⟨faithful.replay, faithful.allowed, ProgressiveRun.applied_or_unchanged o,
    fun blocked later => ProgressiveRun.steps_append_of_blocked blocked later rfl⟩

/-- A rule that always fires, by its effects. -/
def RuleProgram.firing (id : String) (effects : List (String × Fragments)) : RuleProgram :=
  .ofRule { id, condition := some (.and []), effects := some effects }

/-- Two rules of which the second one leads elsewhere: the patch of the first one can be
    written again, and the third rule is not run. -/
theorem replay_applied_of_second_blocked :
    let o : ProgressiveOptions := { allowedTargets := ["inject.pre"] }
    let rules : List RuleProgram :=
      [.firing "a" [("inject.pre", .one "x")], .firing "b" [("inject.post", .one "y")]]
    let run := runProgressive o {} rules {}
    let patch : Patch := ⟨"a", "inject.pre", .append, "x"⟩
    run.blocked.isSome ∧ patch ∈ run.applied ∧
      Context.replay run.applied {} = .ok run.context ∧ patch.path ∈ o.allowedTargets ∧
      runProgressive o {} (rules ++ [.firing "c" [("inject.pre", .one "z")]]) {} = run := by
  intro o rules run patch
  have blocked : run.blocked.isSome = true := by decide +kernel
  have applied : patch ∈ run.applied := by decide +kernel
  obtain ⟨replay, allowed, -, rest⟩ := replay_applied o {} rules {}
  exact ⟨blocked, applied, replay, allowed patch applied, rest blocked _⟩

end ChatRules
