import ChatRules.Proofs.Context.Store
import ChatRules.Proofs.Progressive.Confinement
import ChatRules.Proofs.Rule.Effects

/-!
# Malformed paths

A path is malformed if it is empty or has an empty segment. Validation reports such a path of
a write, an effect tree does not take it, and no write gets to one, with one exception: all
that follows the memory in a path is a key, dots and all, so a write gets to a key that has an
empty segment. Where the path names no key, a write that is reported is never applied, be the
path an allowed target or not.

Results:

* `Context.failed_iff_of_malformed`: which writes to malformed paths are refused.
* `isWellFormed_or_namesKey_of_applied`: the paths of the patches that a run applies.
* `Rule.reports_malformed_write_iff`: which writes validation reports.
* `malformed_never_written`: what is reported is not applied, but for keys.
* `malformed_key_written`: a key that is.
-/

namespace ChatRules

namespace Context

variable {op : WriteOp} {value path : String} {ctx after : Context}

/-- Whether a path names a key of the memory: what follows the memory, whatever it is. -/
def NamesKey (path : String) : Prop := ∃ key, key ≠ "" ∧ path = "character.memory." ++ key

theorem isWellFormed_path (field : TextField) : Path.isWellFormed field.path = true := by
  cases field <;> decide +kernel

/-- A write that succeeds leads to a well-formed path, or to a key of the memory. -/
theorem Change.isWellFormed_or_namesKey (h : Change ctx path op value after) :
    Path.isWellFormed path = true ∨ NamesKey path := by
  cases h with
  | field field leads => exact .inl (leads ▸ isWellFormed_path field)
  | memory key leads ne => exact .inr ⟨key, ne, leads⟩
  | extra _ _ _ _ wellFormed _ => exact .inl wellFormed

/-- The memory takes every text under every key. -/
theorem NamesKey.not_refuses (h : NamesKey path) {e : WriteError} : ¬ ctx.Refuses path e := by
  obtain ⟨key, ne, rfl⟩ := h
  rw [refuses_iff_of_memoryKey (memoryKey?_append key)]
  exact fun ⟨empty, _⟩ => ne empty

/-- A write to a malformed path is refused, unless the path names a key, and then the context
    is left as it was. -/
theorem failed_iff_of_malformed (malformed : Path.isWellFormed path = false) (ctx : Context)
    (op : WriteOp) (value : String) :
    (∃ e, ctx.writeInPlace path op value = .failed e ctx) ↔ ¬ NamesKey path := by
  constructor
  · rintro ⟨e, failed⟩ key
    exact key.not_refuses ((exists_writeInPlace_failed_iff op value).1 ⟨ctx, failed⟩)
  · intro noKey
    cases written : ctx.writeInPlace path op value with
    | done after =>
      rcases (change_of_writeInPlace_done written).isWellFormed_or_namesKey with wellFormed | key
      · exact absurd (malformed.symm.trans wellFormed) Bool.false_ne_true
      · exact absurd key noKey
    | failed e left => exact ⟨e, by rw [left_of_writeInPlace_failed written]⟩

/-- Every patch that was written again changed a context. -/
theorem exists_change_of_mem_replay {patches : List Patch}
    (done : ctx.replay patches = .ok after) {p : Patch} (mem : p ∈ patches) :
    ∃ before next, Change before p.path p.op p.value next := by
  induction patches generalizing ctx with
  | nil => cases mem
  | cons first rest ih =>
    rw [replay] at done
    split at done
    · rename_i next written
      rcases List.mem_cons.1 mem with rfl | later
      · exact ⟨ctx, next, change_of_write_ok written⟩
      · exact ih done later
    · cases done

end Context

/-- The paths of the patches that are applied are well formed, or name keys of the memory. -/
theorem isWellFormed_or_namesKey_of_applied {o : ProgressiveOptions} {registry : Registry}
    {rules : List RuleProgram} {ctx : Context} {p : Patch}
    (mem : p ∈ (runProgressive o registry rules ctx).applied) :
    Path.isWellFormed p.path = true ∨ Context.NamesKey p.path := by
  obtain ⟨before, next, change⟩ :=
    Context.exists_change_of_mem_replay (faithful_runProgressive o registry rules ctx).replay mem
  exact change.isWellFormed_or_namesKey

/-- Validation reports a malformed path at the place of the write exactly if the write of the
    rule has one. -/
theorem Rule.reports_malformed_write_iff {r : Rule} :
    (∃ i ∈ r.validate.all, i.code = "E009" ∧ i.path = "write.path") ↔
      ∃ w path, r.write = some w ∧ w.path = some path ∧ Path.isWellFormed path = false := by
  constructor
  · rintro ⟨i, mem, code, place⟩
    obtain ⟨f, found, rfl⟩ := mem_validate_all_iff.1 mem
    have inWrite : f.path = "write.path" := place
    have elsewhere {start rest : String} (apart : Path.startsWith "write.path" start = false)
        (eq : f.path = start ++ rest) : False := by
      rw [Path.startsWith_iff.2 ⟨rest, inWrite.symm.trans eq⟩] at apart
      cases apart
    rcases mem_of_malformedPath found code with target | effect | write
    · obtain ⟨rest, eq⟩ := exists_place_of_mem_targetFindings target
      exact (elsewhere (by decide +kernel) eq).elim
    · obtain ⟨_, -, e, -, -, eq⟩ := exists_of_mem_effectFindings effect code
      exact (elsewhere (by decide +kernel) eq).elim
    · obtain ⟨w, path, given, named, malformed, -⟩ := exists_of_mem_writeFindings write code
      exact ⟨w, path, given, named, malformed⟩
  · rintro ⟨w, path, given, named, malformed⟩
    let f : Finding := .error "E009" "write.path" ("malformed write path " ++ Text.quoted path)
    have found : f ∈ r.findings := by
      simp [findings, writeFindings, pathFindings, given, named, malformed, f]
    exact ⟨f.toIssue r.id, mem_validate_all_iff.2 ⟨f, found, rfl⟩, rfl, rfl⟩

/-- **What is reported as malformed is not written**, but for keys of the memory. A write to a
    malformed path is refused and leaves the whole context as it was exactly if the path names
    no key. If validation reports the path of the write of a rule, the path is malformed, and
    in every run the write comes to one patch with this path. Unless the path names a key, no
    patch with this path changes the context of a run, whatever targets are allowed, and none
    is applied in any run. -/
theorem malformed_never_written (path : String) :
    (Path.isWellFormed path = false → ∀ (ctx : Context) (op : WriteOp) (value : String),
      (∃ e, ctx.writeInPlace path op value = .failed e ctx) ↔ ¬ Context.NamesKey path) ∧
    ∀ (r : Rule) (w : Write), r.write = some w → w.path = some path →
      (∃ i ∈ r.validate.all, i.code = "E009" ∧ i.path = "write.path") →
        Path.isWellFormed path = false ∧
        ∀ o : ProgressiveOptions,
          ProgressiveRun.writePatches o (.ofRule r) = .ok [⟨r.id, path, w.op, w.content⟩] ∧
          (¬ Context.NamesKey path →
            (∀ (run : ProgressiveRun) (p : Patch), p.path = path →
              (run.apply o p).context = run.context) ∧
            ∀ (registry : Registry) (rules : List RuleProgram) (ctx : Context),
              ∀ p ∈ (runProgressive o registry rules ctx).applied, p.path ≠ path) := by
  refine ⟨Context.failed_iff_of_malformed, fun r w given named reported => ?_⟩
  have malformed : Path.isWellFormed path = false := by
    obtain ⟨_, _, given', named', malformed⟩ := Rule.reports_malformed_write_iff.1 reported
    obtain rfl := Option.some.inj (given.symm.trans given')
    obtain rfl := Option.some.inj (named.symm.trans named')
    exact malformed
  refine ⟨malformed, fun o => ⟨?_, fun noKey => ⟨?_, ?_⟩⟩⟩
  · have leads : w.destination? o.aliases = some path := by simp [Write.destination?, named]
    have write : (RuleProgram.ofRule r).write = some w := given
    simp only [ProgressiveRun.writePatches, write, leads]
    rfl
  · rintro run p rfl
    obtain ⟨e, failed⟩ :=
      (Context.failed_iff_of_malformed malformed run.context p.op p.value).2 noKey
    rw [ProgressiveRun.context_apply, failed, Written.left, ite_self]
  · rintro registry rules ctx p mem rfl
    rcases isWellFormed_or_namesKey_of_applied mem with wellFormed | key
    · exact absurd (malformed.symm.trans wellFormed) Bool.false_ne_true
    · exact noKey key

/-- A rule that may write where its path says, but the path has an empty segment. -/
theorem malformed_never_written_of_empty_segment :
    let r : Rule :=
      { id := "a", condition := some (.and [])
        write := some { path := some "inject..pre", text := some "x" } }
    let o : ProgressiveOptions := { allowedTargets := ["inject..pre"] }
    let run := runProgressive o {} [.ofRule r] {}
    Path.isWellFormed "inject..pre" = false ∧ ¬ Context.NamesKey "inject..pre" ∧
      (∃ i ∈ r.validate.all, i.code = "E009" ∧ i.path = "write.path") ∧
      run.firedIds = ["a"] ∧ (∀ p ∈ run.applied, p.path ≠ "inject..pre") ∧
      ∃ e, Context.writeInPlace {} "inject..pre" .append "x" = .failed e {} := by
  intro r o run
  have malformed : Path.isWellFormed "inject..pre" = false := by decide +kernel
  have noKey : ¬ Context.NamesKey "inject..pre" := by
    rintro ⟨key, -, leads⟩
    have none : Context.memoryKey? "inject..pre" = none := by decide +kernel
    rw [leads, Context.memoryKey?_append] at none
    cases none
  have reported : ∃ i ∈ r.validate.all, i.code = "E009" ∧ i.path = "write.path" := by
    decide +kernel
  obtain ⟨refused, ofRule⟩ := malformed_never_written "inject..pre"
  obtain ⟨-, inRuns⟩ := ofRule r _ rfl rfl reported
  exact ⟨malformed, noKey, reported, by decide +kernel, ((inRuns o).2 noKey).2 {} _ {},
    (refused malformed {} .append "x").2 noKey⟩

/-- A key of the memory that has an empty segment. Validation reports the path, and still the
    write is applied. -/
theorem malformed_key_written :
    let path := "character.memory.a..b"
    let r : Rule :=
      { id := "a", condition := some (.and [])
        write := some { path := some path, text := some "x" } }
    let after : Context := { character := { memory := [("a..b", .string "x")] } }
    let run := runProgressive { allowedTargets := [path] } {} [.ofRule r] {}
    Path.isWellFormed path = false ∧
      (∃ i ∈ r.validate.all, i.code = "E009" ∧ i.path = "write.path") ∧
      Context.writeInPlace {} path .set "x" = .done after ∧
      run.applied = [⟨"a", path, .append, "x"⟩] ∧ run.context = after := by
  decide +kernel

end ChatRules
