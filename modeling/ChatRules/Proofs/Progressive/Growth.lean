import ChatRules.Proofs.Condition.Positive
import ChatRules.Proofs.Evaluation.Effects
import ChatRules.Proofs.Progressive.Turns

/-!
# Runs that only append

Every patch of a progressive run finds the texts that the patches before it left. If all that
are applied append, the text fields can only become longer in a run, from the turn of each rule
to the end. So a rule that fires because of terms and phrases in these fields would still fire
on the context that the run ends with.

Results:

* `Condition.IsPositive.passes_of_replay`: patches that append keep a positive condition.
* `Turn.fires_iff_passes`: a rule fires in its turn exactly if its condition passes.
* `fired_eq_map_turns`: the rules that fire in a run, by the turns.
* `positive_survives_appends`: positive conditions survive appends, one by one and in runs.
-/

namespace ChatRules

theorem Registry.hasTextFields_restricted (allowlists : List (String × List String)) :
    (restricted allowlists).HasTextFields := by
  intro field
  cases field <;> rfl

/-- Patches that append keep a positive condition. -/
theorem Condition.IsPositive.passes_of_replay {c : Condition} (positive : c.IsPositive)
    {a : Access} (standard : a.registry.HasTextFields) {patches : List Patch}
    (append : ∀ p ∈ patches, p.op = .append) {ctx after : Context}
    (done : ctx.replay patches = .ok after) (passes : c.Passes (a.on ctx)) :
    c.Passes (a.on after) := by
  refine Context.replay_induction (P := fun ctx => c.Passes (a.on ctx)) done passes ?_
  intro p mem before next change here
  rw [append p mem] at change
  exact positive.passes_of_growsTo standard here change.growsTo

/-- The condition of a rule that can run. -/
def RuleProgram.HasCondition (p : RuleProgram) (c : Condition) : Prop :=
  ∀ a : Access, p.condition a = c.evaluate a.read

theorem RuleProgram.hasCondition_ofRule {r : Rule} {c : Condition} (given : r.condition = some c) :
    (ofRule r).HasCondition c := by
  intro a
  simp only [ofRule, conditionOf, given]

section

variable {o : ProgressiveOptions} {registry : Registry}

/-- A rule fires in its turn exactly if its condition passes on the context that it finds. -/
theorem Turn.fires_iff_passes {t : Turn} {c : Condition} (has : t.rule.HasCondition c) :
    t.fires o registry = true ↔ c.Passes (t.rule.accessFor (o.access registry t.before)) := by
  have reason : t.fires o registry = (t.rule.reason (o.access registry t.before)).ok := rfl
  rw [reason, RuleProgram.reason, has, Condition.Passes]
  cases (c.evaluate (t.rule.accessFor (o.access registry t.before)).read).result with
  | ok reason => simp
  | error e => exact iff_of_false Bool.false_ne_true fun ⟨_, came, _⟩ => nomatch came

/-- The rules that fire in a run are those that fire in their turns. -/
theorem fired_eq_map_turns (rules : List RuleProgram) (ctx : Context) :
    (runProgressive o registry rules ctx).fired =
      ((Turn.ofRules o registry rules ctx).filter (·.fires o registry)).map
        fun t => t.rule.result (t.access o registry) := by
  rw [fired_runProgressive, List.map_eq_flatMap, ← flatMap_ite_eq_filter]
  exact List.flatMap_congr fun t _ => t.fired_run o registry

/-- A positive condition that passes in the turn of its rule passes at the end of the run, if all
    patches append. -/
theorem Turn.passes_of_passes (standard : registry.HasTextFields) {rules : List RuleProgram}
    {ctx : Context} (append : ∀ p ∈ (runProgressive o registry rules ctx).applied, p.op = .append)
    {t : Turn} (mem : t ∈ Turn.ofRules o registry rules ctx) {c : Condition}
    (positive : c.IsPositive)
    (passes : c.Passes (t.rule.accessFor (o.access registry t.before))) :
    c.Passes (t.rule.accessFor
      (o.access registry (runProgressive o registry rules ctx).context)) := by
  induction rules generalizing ctx with
  | nil => cases mem
  | cons p rest ih =>
    have cons := runProgressive_cons o registry p rest ctx
    rcases List.mem_cons.1 mem with rfl | later
    · -- The run of all rules begins with this turn.
      have replay := (faithful_runProgressive o registry (p :: rest) ctx).replay
      exact positive.passes_of_replay (a := p.accessFor (o.access registry ctx)) standard append
        replay passes
    · -- What comes after the first turn is a run of its own.
      dsimp only at later cons
      split at later
      · cases later
      · rename_i free
        rw [if_neg free] at cons
        rw [cons] at append ⊢
        exact ih (fun q inRest => append q (List.mem_append_right _ inRest)) later

end

/-- **Positive conditions survive appends.** A positive condition that passes on a context passes
    after an append to any text field. So in a run whose applied patches all append, the
    condition of a rule that fires, if it is positive, passes on the context that the run ends
    with. -/
theorem positive_survives_appends (registry : Registry) (standard : registry.HasTextFields) :
    (∀ c : Condition, c.IsPositive → ∀ a : Access, a.registry = registry → c.Passes a →
      ∀ (field : TextField) (value : String), ∃ after,
        a.view.context.write field.path .append value = .ok after ∧ c.Passes (a.on after)) ∧
    ∀ (o : ProgressiveOptions) (rules : List RuleProgram) (ctx : Context),
      let run := runProgressive o registry rules ctx
      let turns := (Turn.ofRules o registry rules ctx).filter (·.fires o registry)
      run.fired = turns.map (fun t => t.rule.result (t.access o registry)) ∧
      ((∀ p ∈ run.applied, p.op = .append) → ∀ t ∈ turns, ∀ c : Condition,
        t.rule.HasCondition c → c.IsPositive →
        c.Passes (t.rule.accessFor (o.access registry run.context))) := by
  refine ⟨fun c positive a same passes field value => ?_, fun o rules ctx => ?_⟩
  · subst same
    have written : a.view.context.write field.path .append value =
        .ok (a.view.context.writeField field .append value) := by
      rw [Context.write, Context.writeInPlace_path]
      rfl
    have grows := (Context.change_of_write_ok written).growsTo
    exact ⟨_, written, positive.passes_of_growsTo standard passes grows⟩
  · intro run turns
    refine ⟨fired_eq_map_turns rules ctx, fun append t mem c has positive => ?_⟩
    obtain ⟨inTurns, fires⟩ := List.mem_filter.1 mem
    exact Turn.passes_of_passes standard append inTurns positive
      ((Turn.fires_iff_passes has).1 fires)

/-- A sigma ends a word before an append and after it, and the two rules of a run that append
    keep what they look for. -/
theorem positive_survives_appends_of_sigma :
    let registry := Registry.restricted []
    let c : Condition :=
      .and [.check "character.personality" (.termHit "ΟΔΟΣ" .contains),
        .or [.check "character.scenario" (.countInWindow ["hall"] 1 1 .word)]]
    let o : ProgressiveOptions := {}
    let character : Character := { personality := "ΟΔΟΣ", scenario := "A hall." }
    let ctx : Context := { character }
    let rule (id path : String) : RuleProgram :=
      .ofRule { id, condition := some c, effects := some [(path, .one "Σ")] }
    let first := rule "a" "character.personality"
    let rules := [first, rule "b" "character.scenario"]
    let run := runProgressive o registry rules ctx
    registry.HasTextFields ∧ c.IsPositive ∧
      (∃ after, ctx.write "character.personality" .append "Σ" = .ok after ∧
        c.Passes ((o.access registry ctx).on after)) ∧
      run.fired.map (·.id) = ["a", "b"] ∧ (∀ p ∈ run.applied, p.op = .append) ∧
      c.Passes (first.accessFor (o.access registry run.context)) := by
  intro registry c o character ctx rule first rules run
  have standard : registry.HasTextFields := Registry.hasTextFields_restricted []
  have positive : c.IsPositive := by
    refine .and fun d mem => ?_
    rcases List.mem_cons.1 mem with rfl | mem
    · exact .check .personality rfl
    · obtain rfl := List.mem_singleton.1 mem
      refine .or fun d mem => ?_
      obtain rfl := List.mem_singleton.1 mem
      exact .check .scenario rfl
  have has : first.HasCondition c := RuleProgram.hasCondition_ofRule rfl
  have fires : (⟨first, ctx⟩ : Turn).fires o registry = true := by decide +kernel
  have append : ∀ p ∈ run.applied, p.op = .append := by decide +kernel
  obtain ⟨step, runs⟩ := positive_survives_appends registry standard
  have passes : c.Passes (o.access registry ctx) := (Turn.fires_iff_passes has).1 fires
  obtain ⟨-, survives⟩ := runs o rules ctx
  exact ⟨standard, positive, step c positive (o.access registry ctx) rfl passes .personality "Σ",
    by decide +kernel, append,
    survives append ⟨first, ctx⟩ (List.mem_filter.2 ⟨List.mem_cons_self, fires⟩) c has positive⟩

end ChatRules
