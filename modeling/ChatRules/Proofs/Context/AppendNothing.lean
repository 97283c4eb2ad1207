import ChatRules.Proofs.Context.Store
import ChatRules.Proofs.Json.FreeForm
import ChatRules.Proofs.Progressive.Replay

/-!
# Writes that append nothing

To append no text to a text changes nothing. A write knows only texts, though: where nothing
stands it puts an empty text, with the objects on the way to it, and another value than a text
becomes the text that it reads as. So a write that appends nothing leaves the context as it was
exactly where a text stands already. The fields of the character are such places; keys of the
memory and free-form slots are not.

Results:

* `Context.eq_iff_of_append_nothing`: which writes that append nothing change nothing.
* `Context.replay_filter_appendsNothing`: in a run that writes to fields only, the patches that
  append nothing can be left out.
* `append_nothing`: what writes and patches that append nothing do.
* `append_nothing_changes`: a key, an object and a value of another type that they leave.
-/

namespace ChatRules

namespace Context

variable {path : String} {ctx after : Context}

/-! ## Where a text stands -/

/-- Whether a text stands at a path. -/
def StoresText (ctx : Context) (path : String) : Prop :=
  ∃ text, ctx.value? path = some (.string text)

/-- To append nothing to the text at the end of a list of segments puts the same text there,
    and back into their places the objects on the way. -/
theorem writeFields_append_nothing {segments : List String} {fields : List (String × Json)}
    {text : String} (free : (Json.object fields).IsFreeForm)
    (stands : descend segments (.object fields) = some (.string text)) :
    writeFields .append "" path segments fields = .done fields := by
  induction segments generalizing fields with
  | nil => cases stands
  | cons segment rest ih =>
    obtain ⟨j, held, below⟩ := Option.bind_eq_some_iff.1 stands
    have held : Dict.find? segment fields = some j := held
    cases rest with
    | nil =>
      obtain rfl : j = .string text := Option.some.inj below
      simp only [writeFields, held, Json.plainText, WriteOp.combine, appendText_nil]
      rw [free.sorted.insert_eq_self held]
    | cons next rest =>
      cases j with
      | object inner =>
        simp only [writeFields, held, ih (free.of_find? held) below, Written.map]
        rw [Dict.replace_eq_self held]
      | _ => cases below

/-- **A write that appends nothing changes nothing exactly where a text stands.** -/
theorem eq_iff_of_append_nothing (memory : (Json.object ctx.character.memory).IsFreeForm)
    (extra : (Json.object ctx.extra).IsFreeForm) (h : Change ctx path .append "" after) :
    after = ctx ↔ ctx.StoresText path := by
  constructor
  · rintro rfl
    exact ⟨_, h.value?_self⟩
  · rintro ⟨text, stands⟩
    cases h with
    | field field _ => simp [writeField, WriteOp.combine, appendText_nil]
    | memory key leads _ =>
      rw [leads, value?_memory] at stands
      simp only [writeMemory, WriteOp.combine, appendText_nil, stands, Option.map_some,
        Option.getD_some, Json.plainText, memory.sorted.insert_eq_self stands]
    | extra left noField noKey _ _ done =>
      simp only [value?, noField, noKey] at stands
      rw [writeFields_append_nothing extra stands] at done
      cases done
      rfl

/-- A write that appends nothing leaves the context as it was if it is refused, or if a text
    stands at its path. -/
theorem left_append_nothing_iff (memory : (Json.object ctx.character.memory).IsFreeForm)
    (extra : (Json.object ctx.extra).IsFreeForm) (path : String) :
    (ctx.writeInPlace path .append "").left = ctx ↔
      (∃ e, ctx.Refuses path e) ∨ ctx.StoresText path := by
  cases written : ctx.writeInPlace path .append "" with
  | done after =>
    have accepted : ¬ ∃ e, ctx.Refuses path e := fun ⟨_, refused⟩ =>
      not_refuses_of_done written refused
    rw [or_iff_right accepted]
    exact eq_iff_of_append_nothing memory extra (change_of_writeInPlace_done written)
  | failed e left =>
    obtain ⟨rfl, refused⟩ := (writeInPlace_failed_iff ctx path .append "" e left).1 written
    exact iff_of_true rfl (.inl ⟨e, refused⟩)

end Context

/-! ## Patches -/

/-- Whether a patch appends no text. -/
def Patch.AppendsNothing (p : Patch) : Prop := p.op = .append ∧ p.value = ""

instance (p : Patch) : Decidable p.AppendsNothing := inferInstanceAs (Decidable (_ ∧ _))

namespace Context

/-- To append nothing to a field is to write nothing. -/
theorem write_path_append_nothing (ctx : Context) (field : TextField) :
    ctx.write field.path .append "" = .ok ctx := by
  simp [write, writeInPlace_path, writeField, WriteOp.combine, appendText_nil,
    Written.toExcept]

/-- Patches that append nothing to fields can be left out of a replay. -/
theorem replay_filter_appendsNothing {patches : List Patch}
    (fields : ∀ p ∈ patches, ∃ field, p.path = TextField.path field) (ctx : Context) :
    ctx.replay (patches.filter (¬ ·.AppendsNothing)) = ctx.replay patches := by
  induction patches generalizing ctx with
  | nil => rfl
  | cons p rest ih =>
    obtain ⟨⟨field, leads⟩, others⟩ := List.forall_mem_cons.1 fields
    by_cases nothing : p.AppendsNothing
    · rw [List.filter_cons_of_neg (by simpa using nothing), ih others, replay, nothing.1,
        nothing.2, leads, write_path_append_nothing]
    · rw [List.filter_cons_of_pos (by simpa using nothing), replay, replay]
      cases ctx.write p.path p.op p.value with
      | ok next => exact ih others next
      | error e => rfl

end Context

/-- **What appending nothing does.** A write that appends no text and succeeds leaves the whole
    context as it was exactly if a text stands at its path; otherwise what was read there, be it
    nothing, stands there as a text afterwards. Values off the way stay, and the conversation.
    In the same way a patch that appends no text changes the context of a progressive run
    exactly if its target is allowed, the write is not refused, and no text stands there. In a
    run that may write to fields of the character only, as by default, such patches are nothing:
    the others alone make the context that the run ends with. -/
theorem append_nothing {ctx : Context} (memory : (Json.object ctx.character.memory).IsFreeForm)
    (extra : (Json.object ctx.extra).IsFreeForm) (path : String) :
    (∀ after, ctx.writeInPlace path .append "" = .done after →
      (after = ctx ↔ ctx.StoresText path) ∧
      after.value? path = some (.string ((ctx.read? path).getD "")) ∧
      (∀ other, other ≠ path → ¬ Path.IsAbove other path →
        after.value? other = ctx.value? other) ∧
      after.chat = ctx.chat) ∧
    (∀ (o : ProgressiveOptions) (run : ProgressiveRun) (ruleId : String), run.context = ctx →
      ((run.apply o ⟨ruleId, path, .append, ""⟩).context = ctx ↔
        path ∉ o.allowedTargets ∨ (∃ e, ctx.Refuses path e) ∨ ctx.StoresText path)) ∧
    ∀ (o : ProgressiveOptions) (registry : Registry) (rules : List RuleProgram),
      (∀ target ∈ o.allowedTargets, ∃ field, target = TextField.path field) →
        let run := runProgressive o registry rules ctx
        ctx.replay (run.applied.filter (¬ ·.AppendsNothing)) = .ok run.context := by
  refine ⟨fun after done => ?_, ?_, fun o registry rules fields => ?_⟩
  · have change := Context.change_of_writeInPlace_done done
    refine ⟨Context.eq_iff_of_append_nothing memory extra change, ?_,
      fun other ne off => change.value?_eq_of_free ne fun _ _ => off, change.chat⟩
    rw [change.value?_self, WriteOp.combine, appendText_nil]
  · rintro o run ruleId rfl
    rw [ProgressiveRun.context_apply]
    by_cases allowed : path ∈ o.allowedTargets
    · rw [if_pos allowed, Context.left_append_nothing_iff memory extra]
      simp only [allowed, not_true_eq_false, false_or]
    · rw [if_neg allowed]
      exact iff_of_true rfl (.inl allowed)
  · have faithful := faithful_runProgressive o registry rules ctx
    intro run
    rw [Context.replay_filter_appendsNothing fun p mem => fields _ (faithful.allowed p mem)]
    exact faithful.replay

/-- Nothing after a text that stands in a slot, and after a number beside it; and a run in which
    one of two rules appends nothing to a field. -/
theorem append_nothing_after_number :
    let ctx : Context :=
      { extra := [("inject", .object [("pre", .string "x")]), ("n", .number (.int 5))] }
    let o : ProgressiveOptions := { allowedTargets := ["n", "inject.pre"] }
    let run := runProgressive {} {} [.firing "a" [("character.scenario", .one "")],
      .firing "b" [("character.scenario", .one "x")]] ctx
    (Json.object ctx.character.memory).IsFreeForm ∧ (Json.object ctx.extra).IsFreeForm ∧
      ctx.StoresText "inject.pre" ∧
      (∀ after, ctx.writeInPlace "inject.pre" .append "" = .done after → after = ctx) ∧
      ¬ ctx.StoresText "n" ∧
      (ProgressiveRun.apply o { context := ctx } ⟨"a", "n", .append, ""⟩).context ≠ ctx ∧
      run.applied.length = 2 ∧
      ctx.replay [⟨"b", "character.scenario", .append, "x"⟩] = .ok run.context := by
  intro ctx o run
  have memory : (Json.object ctx.character.memory).IsFreeForm := .object List.Pairwise.nil nofun
  have slot : (Json.object [("pre", .string "x")]).IsFreeForm :=
    .object (List.pairwise_singleton _ _) (by simpa using .string "x")
  have extra : (Json.object ctx.extra).IsFreeForm := by
    refine .object (List.pairwise_pair.2 (by decide)) ?_
    simpa [ctx] using ⟨slot, .int 5⟩
  have text : ctx.StoresText "inject.pre" := ⟨"x", by decide +kernel⟩
  have number : ctx.value? "n" = some (.number (.int 5)) := by decide +kernel
  have noText : ¬ ctx.StoresText "n" := by
    rintro ⟨text, stands⟩
    cases number.symm.trans stands
  have done : ctx.writeInPlace "n" .append "" =
      .done { ctx with extra := Dict.insert "n" (.string "5") ctx.extra } := by
    decide +kernel
  obtain ⟨atText, -, -⟩ := append_nothing memory extra "inject.pre"
  obtain ⟨-, atNumber, inRuns⟩ := append_nothing memory extra "n"
  have changed :
      (ProgressiveRun.apply o { context := ctx } ⟨"a", "n", .append, ""⟩).context ≠ ctx := by
    intro same
    rcases (atNumber o _ "a" rfl).1 same with notAllowed | ⟨_, refused⟩ | text
    · exact notAllowed (by decide)
    · exact Context.not_refuses_of_done done refused
    · exact noText text
  have fields : ∀ target ∈ defaultTargets, ∃ field, target = TextField.path field := by
    intro target mem
    have leads : (TextField.ofPath? target).isSome := by decide +revert +kernel
    obtain ⟨field, found⟩ := Option.isSome_iff_exists.1 leads
    exact ⟨field, TextField.ofPath?_eq_some_iff.1 found⟩
  have others : run.applied.filter (¬ ·.AppendsNothing) =
      [⟨"b", "character.scenario", .append, "x"⟩] := by
    decide +kernel
  refine ⟨memory, extra, text, fun after done => (atText after done).1.2 text, noText, changed,
    by decide +kernel, ?_⟩
  rw [← others]
  exact inRuns {} {} _ fields

/-- No text stands at any of three paths, and to append nothing leaves one there: a key of the
    memory, a slot in a new object, and a text in the place of a number. An effect without any
    text does the same in a run. -/
theorem append_nothing_changes :
    let n : Json := .number (.int 5)
    let ctx : Context := { extra := [("n", n)] }
    let run := runProgressive { allowedTargets := ["inject.pre"] } {}
      [.firing "a" [("inject.pre", .one "")]] ctx
    let created : Context := { extra := [("inject", .object [("pre", .string "")]), ("n", n)] }
    ctx.writeInPlace "character.memory.mood" .append "" =
        .done { ctx with character := { memory := [("mood", .string "")] } } ∧
      ctx.writeInPlace "inject.pre" .append "" = .done created ∧
      ctx.writeInPlace "n" .append "" = .done { extra := [("n", .string "5")] } ∧
      run.applied = [⟨"a", "inject.pre", .append, ""⟩] ∧ run.context = created ∧
      created ≠ ctx := by
  decide +kernel

end ChatRules
