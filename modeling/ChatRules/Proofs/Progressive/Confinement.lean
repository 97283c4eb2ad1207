import ChatRules.Proofs.Progressive.Replay

/-!
# Where a progressive run writes

A run compares the paths of its patches with the allowed targets as texts, and a
write takes a path apart: into a field, a key of the memory, or segments. Paths
that differ as texts lead to different places, so the texts decide.

Results:

* `Context.replay_read?`, `Context.replay_chat`: patches change the texts at their
  paths and on the way to them, and nothing else.
* `run_confined`: a run changes only what its allowed targets name.
-/

namespace ChatRules

namespace Context

theorem change_of_write_ok {ctx after : Context} {path value : String} {op : WriteOp}
    (h : ctx.write path op value = .ok after) : Change ctx path op value after :=
  change_of_writeInPlace_done (Written.toExcept_eq_ok_iff.1 h)

/-- What each write of patches keeps, all of them keep. -/
theorem replay_induction {P : Context → Prop} {patches : List Patch} {start ctx : Context}
    (h : start.replay patches = .ok ctx) (initial : P start)
    (change : ∀ p ∈ patches, ∀ before after,
      Change before p.path p.op p.value after → P before → P after) : P ctx := by
  induction patches generalizing start with
  | nil =>
    cases h
    exact initial
  | cons p rest ih =>
    obtain ⟨changeThis, changeRest⟩ := List.forall_mem_cons.1 change
    simp only [replay] at h
    split at h
    · rename_i next written
      exact ih h (changeThis start next (change_of_write_ok written) initial) changeRest
    · cases h

theorem replay_chat {patches : List Patch} {start ctx : Context}
    (h : start.replay patches = .ok ctx) : ctx.chat = start.chat :=
  replay_induction (P := fun c => c.chat = start.chat) h rfl fun _ _ _ _ change same =>
    change.chat.trans same

theorem replay_read? {patches : List Patch} {start ctx : Context}
    (h : start.replay patches = .ok ctx) {path : String}
    (off : ∀ p ∈ patches, path ≠ p.path ∧ ¬ Path.IsAbove path p.path) :
    ctx.read? path = start.read? path :=
  replay_induction (P := fun c => c.read? path = start.read? path) h rfl
    fun p mem _ _ change same => (change.read?_eq (off p mem).1 (off p mem).2).trans same

end Context

/-- **A run writes only to its allowed targets.** The chat stays, and so does the text at
    every path that is no allowed target and not on the way to one; without allowed targets
    the whole context stays. -/
theorem run_confined (o : ProgressiveOptions) (registry : Registry) (rules : List RuleProgram)
    (ctx : Context) :
    let after := (runProgressive o registry rules ctx).context
    after.chat = ctx.chat ∧
      (∀ path, path ∉ o.allowedTargets →
        (∀ target ∈ o.allowedTargets, ¬ Path.IsAbove path target) →
        after.read? path = ctx.read? path) ∧
      (o.allowedTargets = [] → after = ctx) := by
  intro after
  have faithful := faithful_runProgressive o registry rules ctx
  refine ⟨Context.replay_chat faithful.replay, fun path notTarget notAbove => ?_, fun none => ?_⟩
  · refine Context.replay_read? faithful.replay fun p mem => ?_
    have target := faithful.allowed p mem
    exact ⟨fun eq => notTarget (eq ▸ target), notAbove p.path target⟩
  · have noPatch : (runProgressive o registry rules ctx).applied = [] :=
      List.eq_nil_iff_forall_not_mem.2 fun p mem => by
        simpa [none] using faithful.allowed p mem
    have replay := faithful.replay
    rw [noPatch] at replay
    exact (Except.ok.inj replay).symm

/-- A write beside a text of the same object, and a run that may not write at all. -/
theorem run_confined_beside :
    let o : ProgressiveOptions := { allowedTargets := ["inject.pre"] }
    let none : ProgressiveOptions := { allowedTargets := [] }
    let rules : List RuleProgram := [.firing "a" [("inject.pre", .one "x")]]
    let ctx : Context := { extra := [("inject", .object [("post", .string "kept")])] }
    let after := (runProgressive o {} rules ctx).context
    "inject.post" ∉ o.allowedTargets ∧
      (∀ target ∈ o.allowedTargets, ¬ Path.IsAbove "inject.post" target) ∧
      after.read? "inject.pre" = some "x" ∧
      after.read? "inject.post" = ctx.read? "inject.post" ∧ none.allowedTargets = [] ∧
      (runProgressive none {} rules ctx).context = ctx := by
  intro o none rules ctx after
  have notTarget : "inject.post" ∉ o.allowedTargets := by decide
  have notAbove : ∀ target ∈ o.allowedTargets, ¬ Path.IsAbove "inject.post" target := by
    decide +kernel
  obtain ⟨-, stays, -⟩ := run_confined o {} rules ctx
  obtain ⟨-, -, unchanged⟩ := run_confined none {} rules ctx
  exact ⟨notTarget, notAbove, by decide +kernel, stays _ notTarget notAbove, rfl, unchanged rfl⟩

end ChatRules
