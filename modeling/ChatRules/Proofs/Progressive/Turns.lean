import ChatRules.Proofs.Progressive.Agreement
import ChatRules.Proofs.Progressive.Composition

/-!
# Turns

In a progressive run each rule has its turn: it finds the context that the rules before it
left, and runs on it as if it was alone. A blocked write ends the run with the turn of its
rule. What a run reports is what is reported of its turns, one after the other.

Results:

* `Turn.map_rule_ofRules`: the turns are those of the first rules, each once.
* `fired_runProgressive`, `applied_runProgressive`: the rules that fire in a run, and the
  patches that are applied, by turns.
* `Turn.blocked_run`: which write of a turn is blocked.
* `Turn.fired_and_mem_of_applied`: a turn with an applied patch is one of a rule that fires,
  and the patch is one of the rule.
-/

namespace ChatRules

namespace ProgressiveRun

variable {o : ProgressiveOptions}

theorem exists_applied_apply (run : ProgressiveRun) (p : Patch) :
    ∃ kept, kept.Sublist [p] ∧ (run.apply o p).applied = run.applied ++ kept := by
  rw [apply_eq]
  split
  · split
    · exact ⟨[p], .refl _, rfl⟩
    · exact ⟨[], List.nil_sublist _, (List.append_nil _).symm⟩
  · exact ⟨[], List.nil_sublist _, (List.append_nil _).symm⟩

/-- Of the patches that are tried, some are applied, in their order. -/
theorem exists_applied_applyAll (run : ProgressiveRun) (patches : List Patch) :
    ∃ kept, kept.Sublist patches ∧ (run.applyAll o patches).applied = run.applied ++ kept := by
  induction patches generalizing run with
  | nil => exact ⟨[], .refl _, (List.append_nil _).symm⟩
  | cons p rest ih =>
    obtain ⟨first, ofFirst, eq⟩ := exists_applied_apply (o := o) run p
    unfold applyAll
    dsimp only
    split
    · exact ⟨first, ofFirst.trans (List.singleton_sublist.2 List.mem_cons_self), eq⟩
    · obtain ⟨others, ofRest, after⟩ := ih (run.apply o p)
      exact ⟨first ++ others, ofFirst.append ofRest, by rw [after, eq, List.append_assoc]⟩

/-- What blocks patches: the first one to a path that is not allowed. -/
def blocking? (o : ProgressiveOptions) (patches : List Patch) : Option BlockedWrite :=
  (patches.find? fun p => !o.isAllowed p.path).map fun p => ⟨p.ruleId, p.path⟩

theorem blocked_apply {run : ProgressiveRun} (free : run.blocked = none) (p : Patch) :
    (run.apply o p).blocked = if o.isAllowed p.path then none else some ⟨p.ruleId, p.path⟩ := by
  rw [apply_eq]
  split
  · split <;> exact free
  · rfl

theorem blocked_applyAll {run : ProgressiveRun} (free : run.blocked = none)
    (patches : List Patch) : (run.applyAll o patches).blocked = blocking? o patches := by
  induction patches generalizing run with
  | nil => exact free
  | cons p rest ih =>
    have first := blocked_apply (o := o) free p
    unfold applyAll blocking?
    dsimp only
    cases isAllowed : o.isAllowed p.path with
    | true =>
      have free : (run.apply o p).blocked = none := by rw [first, if_pos isAllowed]
      rw [free, List.find?_cons_of_neg (by simp [isAllowed])]
      exact ih free
    | false =>
      have blocked : (run.apply o p).blocked = some ⟨p.ruleId, p.path⟩ := by
        rw [first, isAllowed]
        rfl
      rw [List.find?_cons_of_pos (by simp [isAllowed]), blocked]
      exact blocked

end ProgressiveRun

open ProgressiveRun

/-! ## Turns -/

/-- A turn of a run: a rule and the context that it found. -/
structure Turn where
  rule : RuleProgram
  before : Context

section

variable (o : ProgressiveOptions) (registry : Registry)

namespace Turn

/-- The run of the rule alone. -/
def run (t : Turn) : ProgressiveRun := runProgressive o registry [t.rule] t.before

/-- What the rule may use. -/
def access (t : Turn) : Access := o.access registry t.before

/-- The patches of the rule: those of its effects, and that of its write. -/
def patches (t : Turn) : List Patch :=
  Patch.ofEffects t.rule.id (evaluate [t.rule] (t.access o registry)).effects ++
    (writePatches o t.rule).toOption.getD []

/-- The turns of rules, up to a blocked write. -/
def ofRules : List RuleProgram → Context → List Turn
  | [], _ => []
  | p :: rest, ctx =>
    let turn : Turn := ⟨p, ctx⟩
    let own := turn.run o registry
    turn :: if own.blocked.isSome then [] else ofRules rest own.context

theorem map_rule_ofRules (rules : List RuleProgram) (ctx : Context) :
    (ofRules o registry rules ctx).map (·.rule) <+: rules := by
  induction rules generalizing ctx with
  | nil => exact List.prefix_rfl
  | cons p rest ih =>
    unfold ofRules
    dsimp only
    rw [List.map_cons, List.cons_prefix_cons]
    refine ⟨rfl, ?_⟩
    split
    · exact List.nil_prefix
    · exact ih _

end Turn

/-! ## Runs -/

theorem runProgressive_singleton (p : RuleProgram) (ctx : Context) :
    runProgressive o registry [p] ctx = ProgressiveRun.step o registry { context := ctx } p := by
  unfold runProgressive steps
  dsimp only
  split <;> rfl

/-- The first rule has its turn, and unless it is blocked, the others run on what it left. -/
theorem runProgressive_cons (p : RuleProgram) (rest : List RuleProgram) (ctx : Context) :
    let own := (⟨p, ctx⟩ : Turn).run o registry
    runProgressive o registry (p :: rest) ctx =
      if own.blocked.isSome then own
      else own.append (runProgressive o registry rest own.context) := by
  have own : (⟨p, ctx⟩ : Turn).run o registry =
      ProgressiveRun.step o registry { context := ctx } p :=
    runProgressive_singleton o registry p ctx
  rw [own]
  unfold runProgressive
  rw [steps]
  dsimp only
  split
  · rfl
  · rename_i free
    rw [← steps_append, append_start (Option.not_isSome_iff_eq_none.1 free)]

/-- What is reported as a list is reported turn by turn. -/
theorem flatMap_turns {α : Type} (list : ProgressiveRun → List α)
    (empty : ∀ ctx, list { context := ctx } = [])
    (append : ∀ before after : ProgressiveRun,
      list (before.append after) = list before ++ list after)
    (rules : List RuleProgram) (ctx : Context) :
    list (runProgressive o registry rules ctx) =
      (Turn.ofRules o registry rules ctx).flatMap fun t => list (t.run o registry) := by
  induction rules generalizing ctx with
  | nil => exact empty ctx
  | cons p rest ih =>
    rw [runProgressive_cons, Turn.ofRules, List.flatMap_cons]
    split
    · exact (List.append_nil _).symm
    · rw [append, ih]

theorem fired_runProgressive (rules : List RuleProgram) (ctx : Context) :
    (runProgressive o registry rules ctx).fired =
      (Turn.ofRules o registry rules ctx).flatMap fun t => (t.run o registry).fired :=
  flatMap_turns o registry (·.fired) (fun _ => rfl) (fun _ _ => rfl) rules ctx

theorem applied_runProgressive (rules : List RuleProgram) (ctx : Context) :
    (runProgressive o registry rules ctx).applied =
      (Turn.ofRules o registry rules ctx).flatMap fun t => (t.run o registry).applied :=
  flatMap_turns o registry (·.applied) (fun _ => rfl) (fun _ _ => rfl) rules ctx

/-! ## Patches -/

/-- Whether the rule of a turn fires. -/
def Turn.fires (t : Turn) : Bool := (t.rule.result (t.access o registry)).ok

/-- What the rule of a turn produces if it fires. -/
def Turn.effects (t : Turn) : EffectTree := (evaluate [t.rule] (t.access o registry)).effects

/-- A rule that does not fire changes nothing; one that fires tries its patches. -/
theorem Turn.run_cases (t : Turn) :
    (t.fires o registry = false ∧ (t.run o registry).fired = [] ∧
        (t.run o registry).effects = .empty ∧ (t.run o registry).applied = [] ∧
        (t.run o registry).blocked = none) ∨
      ∃ reported : ProgressiveRun, t.fires o registry = true ∧
        reported.fired = [t.rule.result (t.access o registry)] ∧
        reported.effects = t.effects o registry ∧ reported.applied = [] ∧
        reported.blocked = none ∧
        t.run o registry = reported.applyAll o (t.patches o registry) := by
  have run : t.run o registry = ProgressiveRun.step o registry { context := t.before } t.rule :=
    runProgressive_singleton o registry t.rule t.before
  have fired : (evaluate [t.rule] (o.access registry t.before)).fired =
      if (t.rule.result (t.access o registry)).ok then [t.rule.result (t.access o registry)]
      else [] := (evaluate_alone t.rule (t.access o registry)).2.1
  rw [run]
  unfold ProgressiveRun.step Turn.patches Turn.access Turn.fires
  dsimp only
  rw [fired]
  cases (t.rule.result (t.access o registry)).ok with
  | false => exact .inl ⟨rfl, rfl, rfl, rfl, rfl⟩
  | true =>
    have merged : EffectTree.empty.merge (evaluate [t.rule] (o.access registry t.before)).effects =
        t.effects o registry := EffectTree.empty_merge _
    right
    cases writePatches o t.rule with
    | ok own => exact ⟨_, rfl, rfl, merged, rfl, rfl, rfl⟩
    | error message =>
      rw [Except.toOption, Option.getD_none, List.append_nil]
      exact ⟨_, rfl, rfl, merged, rfl, rfl, rfl⟩

/-- A turn reports its rule if the rule fires. -/
theorem Turn.fired_run (t : Turn) :
    (t.run o registry).fired =
      if t.fires o registry then [t.rule.result (t.access o registry)] else [] := by
  rcases t.run_cases o registry with
    ⟨silent, nothing, -⟩ | ⟨reported, fires, fired, -, -, -, eq⟩
  · rw [silent, nothing]
    rfl
  · rw [fires, eq, (sameRules_applyAll o reported _).fired, fired]
    rfl

/-- A turn is blocked where its rule fires and one of its patches is not allowed. -/
theorem Turn.blocked_run (t : Turn) :
    (t.run o registry).blocked =
      if t.fires o registry then blocking? o (t.patches o registry) else none := by
  rcases t.run_cases o registry with ⟨silent, -, -, -, free⟩ | ⟨reported, fires, -, -, -, free, eq⟩
  · rw [silent, free]
    rfl
  · rw [fires, eq, blocked_applyAll free]
    rfl

/-- Where a patch is applied, the rule fires, and the patch is one of its patches. -/
theorem Turn.fired_and_mem_of_applied {t : Turn} {p : Patch}
    (mem : p ∈ (t.run o registry).applied) :
    (t.run o registry).fired = [t.rule.result (t.access o registry)] ∧
      p ∈ t.patches o registry := by
  rcases t.run_cases o registry with
    ⟨-, -, -, nothing, -⟩ | ⟨reported, -, fired, -, applied, -, eq⟩
  · rw [nothing] at mem
    cases mem
  · obtain ⟨kept, ofPatches, after⟩ := exists_applied_applyAll (o := o) reported
      (t.patches o registry)
    rw [eq] at mem ⊢
    rw [after, applied, List.nil_append] at mem
    exact ⟨(sameRules_applyAll o reported _).fired.trans fired, ofPatches.subset mem⟩

end

end ChatRules
