import ChatRules.Proofs.Evaluation.Trace
import ChatRules.Proofs.Progressive.Replay

/-!
# What the trace of a progressive run tells

A progressive run takes over the traces of its rules, and adds an event for every write that
is made, fails or is blocked. So all that the run reports in sum can be read off the trace: the
rules that fired, the patches that were applied, the diagnostics, and the blocked write, which
is the last event.

Results:

* `ProgressiveRun.Told.apply`, `ProgressiveRun.Told.step`: what a patch and a rule add to a
  run, they add to the trace.
* `told_runProgressive`: the trace of a run tells all that the run reports.
* `traces_told`: the traces of evaluations and of progressive runs.
-/

namespace ChatRules

open TraceEvent

namespace TraceEvent

/-- The write that was made: on behalf of which rule, where, and how. -/
def writing? : TraceEvent → Option (String × String × WriteOp)
  | .patchApplied ruleId path op => some (ruleId, path, op)
  | _ => none

/-- The write that was blocked. -/
def blocked? : TraceEvent → Option BlockedWrite
  | .writeBlocked ruleId path => some ⟨ruleId, path⟩
  | _ => none

theorem filterMap_of_not_isOfWrite {events : List TraceEvent}
    (unwritten : ∀ event ∈ events, event.isOfWrite = false) :
    events.filterMap writing? = [] ∧ events.filterMap blocked? = [] := by
  refine ⟨List.filterMap_eq_nil_iff.2 ?_, List.filterMap_eq_nil_iff.2 ?_⟩ <;>
  · intro event mem
    have other := unwritten event mem
    cases event <;> first | rfl | cases other

end TraceEvent

namespace ProgressiveRun

/-- What the trace of a run tells: the rules that fired, the diagnostics, the patches that
    were applied, and the write that was blocked, if any. -/
structure Told (o : ProgressiveOptions) (run : ProgressiveRun) : Prop where
  fired : heldIds run.trace = run.firedIds
  diagnostics : run.trace.filterMap diagnostic? = run.diagnostics
  applied : run.trace.filterMap writing? = run.applied.map fun p => (p.ruleId, p.path, p.op)
  blocked : run.trace.filterMap blocked? = run.blocked.toList
  last : ∀ b, run.blocked = some b →
    run.trace.getLast? = some (.writeBlocked b.ruleId b.path) ∧ b.path ∉ o.allowedTargets

namespace Told

variable {o : ProgressiveOptions} {registry : Registry} {run : ProgressiveRun}

/-- What is reported together with its events, after a run that is not blocked. -/
theorem add (h : run.Told o) (free : run.blocked = none) {after : ProgressiveRun}
    {events : List TraceEvent} (trace : after.trace = run.trace ++ events)
    (fired : after.firedIds = run.firedIds ++ heldIds events)
    (diagnostics : after.diagnostics = run.diagnostics ++ events.filterMap diagnostic?)
    (applied : after.applied.map (fun p => (p.ruleId, p.path, p.op)) =
      run.applied.map (fun p => (p.ruleId, p.path, p.op)) ++ events.filterMap writing?)
    (blocked : after.blocked.toList = events.filterMap blocked?)
    (last : ∀ b, after.blocked = some b →
      events.getLast? = some (.writeBlocked b.ruleId b.path) ∧ b.path ∉ o.allowedTargets) :
    after.Told o where
  fired := by
    rw [trace, fired, ← h.fired, heldIds, List.filterMap_append, List.filter_append,
      List.map_append, heldIds, heldIds]
  diagnostics := by rw [trace, diagnostics, List.filterMap_append, h.diagnostics]
  applied := by rw [trace, applied, List.filterMap_append, h.applied]
  blocked := by rw [trace, blocked, List.filterMap_append, h.blocked, free]; rfl
  last b is := by
    obtain ⟨ends, outside⟩ := last b is
    exact ⟨by rw [trace, List.getLast?_append, ends]; rfl, outside⟩

theorem addWriteError (h : run.Told o) (free : run.blocked = none) (ruleId message : String) :
    (run.addWriteError ruleId message).Told o := by
  refine h.add free rfl ?_ rfl ?_ ?_ ?_
  · exact (List.append_nil _).symm
  · exact (List.append_nil _).symm
  · exact congrArg Option.toList free
  · exact fun b is => nomatch free.symm.trans is

theorem apply (h : run.Told o) (free : run.blocked = none) (p : Patch) :
    (run.apply o p).Told o := by
  rw [apply_eq]
  split
  · split
    · refine h.add free rfl ?_ ?_ ?_ ?_ ?_
      · exact (List.append_nil _).symm
      · exact (List.append_nil _).symm
      · exact List.map_append
      · exact congrArg Option.toList free
      · exact fun b is => nomatch free.symm.trans is
    · exact h.addWriteError free _ _
  · rename_i outside
    refine h.add free rfl ?_ ?_ ?_ rfl ?_
    · exact (List.append_nil _).symm
    · exact (List.append_nil _).symm
    · exact (List.append_nil _).symm
    · rintro b ⟨⟩
      exact ⟨rfl, fun mem => outside (List.contains_iff_mem.2 mem)⟩

theorem applyAll (h : run.Told o) (free : run.blocked = none) (patches : List Patch) :
    (run.applyAll o patches).Told o := by
  induction patches generalizing run with
  | nil => exact h
  | cons p rest ih =>
    unfold ProgressiveRun.applyAll
    dsimp only
    split
    · exact h.apply free p
    · rename_i goesOn
      exact ih (h.apply free p) (Option.not_isSome_iff_eq_none.1 goesOn)

theorem step (h : run.Told o) (free : run.blocked = none) {p : RuleProgram} (reads : p.ReadsOnly) :
    (run.step o registry p).Told o := by
  let batch := evaluate [p] (o.access registry run.context)
  have told := told_evaluate (List.forall_mem_singleton.2 reads) (o.access registry run.context)
  have held : heldIds batch.trace = batch.firedIds :=
    heldIds_evaluate (List.forall_mem_singleton.2 reads) _
  obtain ⟨unwritten, unblocked⟩ := filterMap_of_not_isOfWrite told.unwritten
  -- The report of the rule goes after the run, whatever becomes of the effects.
  have reported {after : ProgressiveRun} (trace : after.trace = run.trace ++ batch.trace)
      (fired : after.firedIds = run.firedIds ++ batch.firedIds)
      (diagnostics : after.diagnostics = run.diagnostics ++ batch.diagnostics)
      (applied : after.applied = run.applied) (blocked : after.blocked = none) :
      after.Told o := by
    refine h.add free trace ?_ ?_ ?_ ?_ ?_
    · rw [fired, held]
    · rw [diagnostics, told.diagnostics]
    · rw [applied, unwritten, List.append_nil]
    · rw [blocked, unblocked]
      rfl
    · exact fun b is => nomatch blocked.symm.trans is
  unfold ProgressiveRun.step
  dsimp only
  split
  · rename_i none
    have firedIds : batch.firedIds = [] := congrArg (List.map _) (List.isEmpty_iff.1 none)
    exact reported rfl (by rw [firedIds, List.append_nil]; rfl) rfl rfl free
  · split
    · refine applyAll ?_ ?_ _
      · exact reported rfl List.map_append rfl rfl free
      · exact free
    · refine applyAll (addWriteError ?_ ?_ _ _) ?_ _
      · exact reported rfl List.map_append rfl rfl free
      · exact free
      · exact free

theorem steps (h : run.Told o) (free : run.blocked = none) {rules : List RuleProgram}
    (reads : ∀ p ∈ rules, p.ReadsOnly) : (run.steps o registry rules).Told o := by
  induction rules generalizing run with
  | nil => exact h
  | cons p rest ih =>
    obtain ⟨first, others⟩ := List.forall_mem_cons.1 reads
    have stepped : (run.step o registry p).Told o := h.step free first
    unfold ProgressiveRun.steps
    dsimp only
    split
    · exact stepped
    · rename_i goesOn
      exact ih stepped (Option.not_isSome_iff_eq_none.1 goesOn) others

end Told

end ProgressiveRun

/-- The trace of a progressive run tells all that the run reports. -/
theorem told_runProgressive (o : ProgressiveOptions) (registry : Registry)
    {rules : List RuleProgram} (reads : ∀ p ∈ rules, p.ReadsOnly) (ctx : Context) :
    (runProgressive o registry rules ctx).Told o := by
  have begun : ProgressiveRun.Told o { context := ctx } :=
    ⟨rfl, rfl, rfl, rfl, fun _ blocked => nomatch blocked⟩
  exact begun.steps rfl reads

/-- **Traces are faithful.** The decisions in the trace of an evaluation are its results, in
    order, and the failed stages its diagnostics. In the trace of a progressive run the failed
    stages are the diagnostics, failed writes included, the writes are the patches that were
    applied, and the rules that held are those that fired. A write is blocked in the trace if
    the run names one, and only then the run is not ok; then it is the one that the run names,
    it is the last event, and its path is not one that is allowed. -/
theorem traces_told (rules : List Rule) (a : Access) (o : ProgressiveOptions)
    (registry : Registry) (ctx : Context) :
    let programs := rules.map RuleProgram.ofRule
    let report := evaluate programs a
    let run := runProgressive o registry programs ctx
    (report.trace.filterMap decision? = report.results.map (fun r => (r.id, r.ok)) ∧
        report.trace.filterMap diagnostic? = report.diagnostics) ∧
      run.trace.filterMap diagnostic? = run.diagnostics ∧
      run.trace.filterMap writing? = run.applied.map (fun p => (p.ruleId, p.path, p.op)) ∧
      ((run.trace.filterMap decision?).filter (·.2)).map (·.1) = run.firedIds ∧
      run.trace.filterMap blocked? = run.blocked.toList ∧
      ((∃ ruleId path, .writeBlocked ruleId path ∈ run.trace) ↔ run.blocked.isSome) ∧
      (run.blocked.isSome ↔ run.ok = false) ∧
      ∀ b ∈ run.blocked, run.trace.getLast? = some (.writeBlocked b.ruleId b.path) ∧
        b.path ∉ o.allowedTargets := by
  intro programs report run
  have reads : ∀ p ∈ programs, p.ReadsOnly :=
    List.forall_mem_map.2 fun r _ => RuleProgram.readsOnly_ofRule r
  have told := told_evaluate reads a
  have runTold := told_runProgressive o registry reads ctx
  refine ⟨⟨told.decisions, told.diagnostics⟩, runTold.diagnostics, runTold.applied, runTold.fired,
    runTold.blocked, ?_, ?_, runTold.last⟩
  · constructor
    · rintro ⟨ruleId, path, mem⟩
      have told : ⟨ruleId, path⟩ ∈ run.trace.filterMap blocked? :=
        List.mem_filterMap.2 ⟨_, mem, rfl⟩
      rw [runTold.blocked] at told
      exact Option.isSome_of_mem (Option.mem_toList.1 told)
    · intro isBlocked
      obtain ⟨b, is⟩ := Option.isSome_iff_exists.1 isBlocked
      exact ⟨b.ruleId, b.path, List.mem_of_getLast? (runTold.last b is).1⟩
  · rw [ProgressiveRun.ok, Option.isNone_eq_false_iff]

/-- A write to a target that is not known, a text that is appended, and a text for a path that
    is not allowed, before a rule that is not run. -/
example :
    let o : ProgressiveOptions := { allowedTargets := ["inject.pre"] }
    let a : RuleProgram :=
      { RuleProgram.firing "a" [("inject.pre", .one "x")] with
        write := some { targetId := some "mood" } }
    let b : RuleProgram := .firing "b" [("inject.post", .one "y")]
    let run := runProgressive o {} [a, b, .firing "c" [("inject.pre", .one "z")]] {}
    run.trace =
      [.ruleEvaluated "a" true, .ruleError "a" .write "unknown write target \"mood\"",
        .patchApplied "a" "inject.pre" .append, .ruleEvaluated "b" true,
        .writeBlocked "b" "inject.post"] := by
  decide +kernel

end ChatRules
