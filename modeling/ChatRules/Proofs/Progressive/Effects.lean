import ChatRules.Proofs.Context.Texts
import ChatRules.Proofs.Progressive.Overlap

/-!
# Effects and what becomes of the context

What the rules of a progressive run produce goes two ways: the trees are merged into the
effects of the run, and the fragments of each tree are written into the context one by one.
If the rules have no writes of their own, and no write fails or is blocked, both tell the same:
the text at a path is the one that was there, with the fragments of the path appended.

Results:

* `Context.read?_replay`: the text at a path after patches none of which failed.
* `Patch.valuesAt_ofEffects`: the patches of a tree are its fragments, path by path.
* `Turn.isReported`: a turn without failures writes all that it produces.
* `reports_of_isReported`: what a run of such turns reports in sum.
* `runProgressive_effects`: the effects of a run, its patches and its context.
-/

namespace ChatRules

/-! ## Patches at a path -/

namespace Patch

/-- The values of the patches at a path. -/
def valuesAt (path : String) (patches : List Patch) : List String :=
  (patches.filter (·.path == path)).map (·.value)

theorem valuesAt_cons (path : String) (p : Patch) (rest : List Patch) :
    valuesAt path (p :: rest) =
      if p.path = path then p.value :: valuesAt path rest else valuesAt path rest := by
  rw [valuesAt, List.filter_cons]
  by_cases here : p.path = path <;> simp [here, valuesAt]

theorem valuesAt_flatMap {α : Type} (path : String) (f : α → List Patch) (xs : List α) :
    valuesAt path (xs.flatMap f) = xs.flatMap fun x => valuesAt path (f x) := by
  rw [valuesAt, List.filter_flatMap, List.map_flatMap]
  rfl

/-- The patches of a spelled tree are its fragments, path by path. -/
theorem valuesAt_ofEffects {t : EffectTree} (spelled : t.IsSpelled) (id path : String) :
    valuesAt path (ofEffects id t) = t.fragments path := by
  have leaf (e : String × List String) :
      valuesAt path (e.2.map fun v => (⟨id, e.1, .append, v⟩ : Patch)) =
        if path = e.1 then e.2 else [] := by
    by_cases here : path = e.1
    · simp [valuesAt, here, List.filter_map, Function.comp_def]
    · simp [valuesAt, here, Ne.symm here, List.filter_map, Function.comp_def]
  rw [← spelled.fragmentsFor_leaves, EffectTree.fragmentsFor, ofEffects, valuesAt_flatMap]
  exact List.flatMap_congr fun e _ => leaf e

theorem op_of_mem_ofEffects {id : String} {t : EffectTree} {p : Patch}
    (mem : p ∈ ofEffects id t) : p.op = .append := by
  obtain ⟨leaf, -, made⟩ := List.mem_flatMap.1 mem
  obtain ⟨value, -, rfl⟩ := List.mem_map.1 made
  rfl

end Patch

/-! ## Replaying -/

theorem foldl_appendText_some (values : List String) (text : String) :
    values.foldl (fun text? v => some (appendText (text?.getD "") v)) (some text) =
      some (values.foldl appendText text) := by
  induction values generalizing text with
  | nil => rfl
  | cons v rest ih => exact ih (appendText text v)

namespace Context

variable {patches : List Patch} {start after : Context}

/-- After patches none of which failed, a text stands at each of their free-form paths. -/
theorem holdsText_of_replay (done : start.replay patches = .ok after) :
    ∀ p ∈ patches, IsFree p.path → after.HoldsText p.path := by
  induction patches generalizing start with
  | nil => simp
  | cons p rest ih =>
    rw [replay] at done
    split at done
    · rename_i next written
      refine List.forall_mem_cons.2 ⟨fun free => ?_, ih done⟩
      exact replay_induction done ((change_of_write_ok written).holdsText_self free)
        fun _ _ _ _ change holds => change.holdsText holds
    · cases done

/-- Of patches none of which failed, none wrote on the way of another one. -/
theorem not_isAbove_of_replay (done : start.replay patches = .ok after) {p q : Patch}
    (mem : p ∈ patches) (mem' : q ∈ patches) (free : IsFree p.path) (free' : IsFree q.path) :
    ¬ Path.IsAbove p.path q.path :=
  (holdsText_of_replay done p mem free).not_isAbove (holdsText_of_replay done q mem' free')

/-- The text at a path after patches that append. -/
theorem read?_replay_append (done : start.replay patches = .ok after)
    (appends : ∀ p ∈ patches, p.op = .append) {path : String}
    (off : ∀ p ∈ patches, IsFree path → IsFree p.path → ¬ Path.IsAbove path p.path) :
    after.read? path =
      (Patch.valuesAt path patches).foldl (fun text? v => some (appendText (text?.getD "") v))
        (start.read? path) := by
  induction patches generalizing start with
  | nil =>
    cases done
    rfl
  | cons p rest ih =>
    obtain ⟨append, appends⟩ := List.forall_mem_cons.1 appends
    obtain ⟨offFirst, off⟩ := List.forall_mem_cons.1 off
    rw [replay] at done
    split at done
    · rename_i next written
      have change := change_of_write_ok written
      rw [ih done appends off, Patch.valuesAt_cons]
      split
      · rename_i here
        subst here
        rw [List.foldl_cons, change.read?_self, append]
        rfl
      · rename_i elsewhere
        rw [change.read?_eq_of_free (Ne.symm elsewhere) offFirst]
    · cases done

/-- The text at a path at which patches append. -/
theorem read?_replay (done : start.replay patches = .ok after)
    (appends : ∀ p ∈ patches, p.op = .append) {path : String}
    (filled : Patch.valuesAt path patches ≠ []) :
    after.read? path =
      some ((Patch.valuesAt path patches).foldl appendText ((start.read? path).getD "")) := by
  obtain ⟨p, mem, rfl⟩ : ∃ p ∈ patches, p.path = path := by
    obtain ⟨p, mem⟩ := List.exists_mem_of_ne_nil _ (List.map_eq_nil_iff.not.1 filled)
    exact ⟨p, (List.mem_filter.1 mem).1, beq_iff_eq.1 (List.mem_filter.1 mem).2⟩
  rw [read?_replay_append done appends fun q mem' => not_isAbove_of_replay done mem mem']
  obtain ⟨first, others, eq⟩ := List.exists_cons_of_ne_nil filled
  rw [eq, List.foldl_cons, List.foldl_cons, foldl_appendText_some]

end Context

/-! ## Merging -/

namespace EffectTree

theorem foldl_merge_eq (trees : List EffectTree) (start : EffectTree) :
    trees.foldl merge start = start.merge (trees.foldl merge .empty) := by
  induction trees generalizing start with
  | nil => exact (merge_empty start).symm
  | cons t rest ih => rw [List.foldl_cons, List.foldl_cons, ih, ih (empty.merge t), empty_merge,
      merge_assoc]

/-- Trees that are left out do not count. -/
theorem foldl_merge_filter {α : Type} (p : α → Bool) (f : α → EffectTree) (xs : List α) :
    (xs.map fun x => if p x then f x else .empty).foldl merge .empty =
      ((xs.filter p).map f).foldl merge .empty := by
  induction xs with
  | nil => rfl
  | cons x rest ih =>
    rw [List.map_cons, List.foldl_cons, foldl_merge_eq, ih, List.filter_cons]
    split
    · rw [List.map_cons, List.foldl_cons, ← foldl_merge_eq]
    · rw [empty_merge, empty_merge]

end EffectTree

/-! ## Turns -/

namespace ProgressiveRun

variable {o : ProgressiveOptions} {registry : Registry} {run : ProgressiveRun}

/-- No write was blocked, and none failed. -/
structure IsClean (run : ProgressiveRun) : Prop where
  free : run.blocked = none
  ofRules : ∀ d ∈ run.diagnostics, d.isOfRule = true

theorem applied_apply {p : Patch} (clean : (run.apply o p).IsClean) :
    (run.apply o p).applied = run.applied ++ [p] := by
  obtain ⟨free, ofRules⟩ := clean
  rw [apply_eq] at free ofRules ⊢
  split
  · rename_i allowed
    rw [if_pos allowed] at ofRules
    split
    · rfl
    · rename_i failed
      simp only [failed] at ofRules
      have ofRule := ofRules _ (List.mem_append_right _ (List.mem_singleton_self _))
      exact absurd ofRule Bool.false_ne_true
  · rename_i outside
    rw [if_neg outside] at free
    cases free

/-- If no patch fails and none is blocked, all of them are applied. -/
theorem applied_applyAll {patches : List Patch} (clean : (run.applyAll o patches).IsClean) :
    (run.applyAll o patches).applied = run.applied ++ patches := by
  induction patches generalizing run with
  | nil => exact (List.append_nil _).symm
  | cons p rest ih =>
    unfold applyAll at clean ⊢
    dsimp only at clean ⊢
    split
    · rename_i blocked
      rw [if_pos blocked] at clean
      rw [clean.free] at blocked
      cases blocked
    · rename_i goesOn
      rw [if_neg goesOn] at clean
      have unblocked : (run.apply o p).blocked = none := Option.not_isSome_iff_eq_none.1 goesOn
      -- What was reported before the other patches is still reported after them.
      have later := applyAll_append o (run.apply o p) { context := (run.apply o p).context } rest
      rw [append_start unblocked] at later
      have first : (run.apply o p).IsClean := by
        refine ⟨unblocked, fun d mem => clean.ofRules d ?_⟩
        rw [later]
        exact List.mem_append_left _ mem
      rw [ih clean, applied_apply first, List.append_assoc, List.singleton_append]

end ProgressiveRun

open ProgressiveRun

section

variable (o : ProgressiveOptions) (registry : Registry)

namespace Turn

variable {rules : List RuleProgram} {ctx : Context}

/-- Unless a write is blocked, every rule has its turn. -/
theorem map_rule_of_not_blocked (free : (runProgressive o registry rules ctx).blocked = none) :
    (ofRules o registry rules ctx).map (·.rule) = rules ∧
      ∀ t ∈ ofRules o registry rules ctx, (t.run o registry).blocked = none := by
  induction rules generalizing ctx with
  | nil => exact ⟨rfl, by simp [ofRules]⟩
  | cons p rest ih =>
    rw [runProgressive_cons] at free
    unfold ofRules
    dsimp only
    split at free
    · rename_i blocked
      rw [free] at blocked
      cases blocked
    · rename_i goesOn
      rw [if_neg goesOn]
      obtain ⟨rules, unblocked⟩ := ih free
      exact ⟨congrArg (p :: ·) rules,
        List.forall_mem_cons.2 ⟨Option.not_isSome_iff_eq_none.1 goesOn, unblocked⟩⟩

theorem isClean_of_mem (clean : (runProgressive o registry rules ctx).IsClean) {t : Turn}
    (mem : t ∈ ofRules o registry rules ctx) : (t.run o registry).IsClean := by
  have reported : (runProgressive o registry rules ctx).diagnostics =
      (ofRules o registry rules ctx).flatMap fun t => (t.run o registry).diagnostics :=
    flatMap_turns o registry (·.diagnostics) (fun _ => rfl) (fun _ _ => rfl) rules ctx
  refine ⟨(map_rule_of_not_blocked o registry clean.free).2 t mem, fun d inTurn => ?_⟩
  refine clean.ofRules d ?_
  rw [reported]
  exact List.mem_flatMap.2 ⟨t, mem, inTurn⟩

/-- What a turn reports: if its rule fires, it writes all that it produces. -/
structure IsReported (t : Turn) : Prop where
  fired : (t.run o registry).fired =
    if t.fires o registry then [t.rule.result (t.access o registry)] else []
  effects : (t.run o registry).effects =
    if t.fires o registry then t.effects o registry else .empty
  applied : (t.run o registry).applied =
    if t.fires o registry then Patch.ofEffects t.rule.id (t.effects o registry) else []

theorem isReported {t : Turn} (unwritten : t.rule.write = none)
    (clean : (t.run o registry).IsClean) : t.IsReported o registry := by
  have patches : t.patches o registry = Patch.ofEffects t.rule.id (t.effects o registry) := by
    simp [Turn.patches, Turn.effects, writePatches, unwritten, Except.toOption]
  have fired := t.fired_run o registry
  rcases t.run_cases o registry with
    ⟨silent, -, effects, applied, -⟩ | ⟨reported, fires, -, effects, applied, -, eq⟩
  · exact ⟨fired, by rw [silent, effects]; rfl, by rw [silent, applied]; rfl⟩
  · rw [eq] at clean
    have same := sameRules_applyAll o reported (t.patches o registry)
    exact {
      fired := fired
      effects := by rw [fires, eq, same.effects, effects]; rfl
      applied := by rw [fires, eq, applied_applyAll clean, applied, patches]; rfl }

end Turn

/-- The effects of a run are those of its turns, merged from left to right. -/
theorem effects_runProgressive (rules : List RuleProgram) (ctx : Context) :
    (runProgressive o registry rules ctx).effects =
      ((Turn.ofRules o registry rules ctx).map fun t => (t.run o registry).effects).foldl
        EffectTree.merge .empty := by
  induction rules generalizing ctx with
  | nil => rfl
  | cons p rest ih =>
    rw [runProgressive_cons, Turn.ofRules, List.map_cons, List.foldl_cons,
      EffectTree.empty_merge]
    split
    · rfl
    · rw [EffectTree.foldl_merge_eq, ← ih]
      rfl

/-- If every turn writes all that it produces, a run reports the turns that fire, in order. -/
theorem reports_of_isReported {rules : List RuleProgram} {ctx : Context}
    (reported : ∀ t ∈ Turn.ofRules o registry rules ctx, t.IsReported o registry) :
    let run := runProgressive o registry rules ctx
    let firing := (Turn.ofRules o registry rules ctx).filter (·.fires o registry)
    run.fired = firing.map (fun t => t.rule.result (t.access o registry)) ∧
      run.effects = (firing.map (·.effects o registry)).foldl EffectTree.merge .empty ∧
      run.applied =
        firing.flatMap (fun t => Patch.ofEffects t.rule.id (t.effects o registry)) := by
  intro run firing
  refine ⟨?_, ?_, ?_⟩
  · rw [List.map_eq_flatMap, ← flatMap_ite_eq_filter, ← List.flatMap_congr fun t mem =>
      (reported t mem).fired]
    exact fired_runProgressive o registry rules ctx
  · rw [← EffectTree.foldl_merge_filter, ← List.map_congr_left fun t mem =>
      (reported t mem).effects]
    exact effects_runProgressive o registry rules ctx
  · rw [← flatMap_ite_eq_filter, ← List.flatMap_congr fun t mem => (reported t mem).applied]
    exact applied_runProgressive o registry rules ctx

end

/-- **Effects and context tell the same.** Let rules without writes of their own run, and let
    no write fail or be blocked. Then every rule has its turn, and the run reports of those
    that fire, in order: the effects are their trees, merged, and the patches that are applied
    are the fragments of their trees, appended one by one. So at every path the values of the
    patches are the fragments of the effects, in order, and the text at the end is the one at
    the beginning with these fragments appended. -/
theorem runProgressive_effects (o : ProgressiveOptions) (registry : Registry)
    (rules : List Rule) (unwritten : ∀ r ∈ rules, r.write = none) (ctx : Context) :
    let programs := rules.map RuleProgram.ofRule
    let run := runProgressive o registry programs ctx
    let turns := Turn.ofRules o registry programs ctx
    let firing := turns.filter (·.fires o registry)
    run.ok = true → (∀ d ∈ run.diagnostics, d.stage ≠ .write) →
      (∀ path, run.effects.fragments path ≠ [] →
        run.context.read? path = some
          ((run.effects.fragments path).foldl appendText ((ctx.read? path).getD ""))) ∧
      (∀ path, (run.applied.filter (·.path == path)).map (·.value) =
        run.effects.fragments path) ∧
      turns.map (·.rule) = programs ∧
      run.fired = firing.map (fun t => t.rule.result (t.access o registry)) ∧
      run.effects = (firing.map (·.effects o registry)).foldl EffectTree.merge .empty ∧
      run.applied =
        firing.flatMap (fun t => Patch.ofEffects t.rule.id (t.effects o registry)) ∧
      ∀ p ∈ run.applied, p.op = .append := by
  intro programs run turns firing ok noFailure
  have clean : run.IsClean :=
    ⟨Option.isNone_iff_eq_none.1 ok, fun d mem => by
      simpa [Diagnostic.isOfRule] using noFailure d mem⟩
  have rulesOfTurns : turns.map (·.rule) = programs :=
    (Turn.map_rule_of_not_blocked o registry clean.free).1
  have ofRule : ∀ t ∈ turns, ∃ r ∈ rules, t.rule = .ofRule r := by
    intro t mem
    have inPrograms : t.rule ∈ programs := rulesOfTurns ▸ List.mem_map_of_mem mem
    obtain ⟨r, inRules, eq⟩ := List.mem_map.1 inPrograms
    exact ⟨r, inRules, eq.symm⟩
  have reported : ∀ t ∈ turns, t.IsReported o registry := by
    intro t mem
    obtain ⟨r, inRules, eq⟩ := ofRule t mem
    refine Turn.isReported o registry ?_ (Turn.isClean_of_mem o registry clean mem)
    rw [eq]
    exact unwritten r inRules
  obtain ⟨fired, effects, applied⟩ := reports_of_isReported o registry reported
  have appends : ∀ p ∈ run.applied, p.op = .append := by
    intro p mem
    rw [applied] at mem
    obtain ⟨t, -, ofEffects⟩ := List.mem_flatMap.1 mem
    exact Patch.op_of_mem_ofEffects ofEffects
  have values : ∀ path, Patch.valuesAt path run.applied = run.effects.fragments path := by
    intro path
    rw [applied, effects, EffectTree.fragments_foldl_merge, EffectTree.fragments_empty,
      List.nil_append, List.flatMap_map, Patch.valuesAt_flatMap]
    refine List.flatMap_congr fun t mem => ?_
    obtain ⟨r, -, eq⟩ := ofRule t (List.mem_filter.1 mem).1
    refine Patch.valuesAt_ofEffects ?_ _ _
    rw [Turn.effects, eq]
    exact isSpelled_alone r _
  have replay := (faithful_runProgressive o registry programs ctx).replay
  refine ⟨fun path filled => ?_, values, rulesOfTurns, fired, effects, applied, appends⟩
  rw [← values] at filled ⊢
  exact Context.read?_replay replay appends filled

/-- Two rules that append to one slot and to a field, with one between them that does not
    fire. -/
theorem runProgressive_effects_of_shared_slot :
    let rule (id : String) (condition : Condition) (es : List (String × Fragments)) : Rule :=
      { id, condition := some condition, effects := some es }
    let rules : List Rule :=
      [rule "a" (.and []) [("inject.pre", .many ["y", "z"]), ("character.scenario", .one "Day.")],
       rule "b" (.or []) [("inject.pre", .one "lost")],
       rule "c" (.and []) [("inject.pre", .one "w"), ("inject.post", .one "v")]]
    let o : ProgressiveOptions :=
      { allowedTargets := ["inject.pre", "inject.post", "character.scenario"] }
    let ctx : Context := { extra := [("inject", .object [("pre", .string "x")])] }
    let run := runProgressive o {} (rules.map .ofRule) ctx
    (∀ r ∈ rules, r.write = none) ∧ run.ok = true ∧
      (∀ d ∈ run.diagnostics, d.stage ≠ .write) ∧
      run.effects.fragments "inject.pre" = ["y", "z", "w"] ∧
      run.context.read? "inject.pre" = some "x\n\ny\n\nz\n\nw" ∧
      run.applied.map (·.value) = ["Day.", "y", "z", "v", "w"] ∧ run.firedIds = ["a", "c"] := by
  intro rule rules o ctx run
  have unwritten : ∀ r ∈ rules, r.write = none := by decide
  have ok : run.ok = true := by decide +kernel
  have noFailure : ∀ d ∈ run.diagnostics, d.stage ≠ .write := by decide +kernel
  have fragments : run.effects.fragments "inject.pre" = ["y", "z", "w"] := by decide +kernel
  obtain ⟨texts, -⟩ := runProgressive_effects o {} rules unwritten ctx ok noFailure
  refine ⟨unwritten, ok, noFailure, fragments, ?_, by decide +kernel, by decide +kernel⟩
  rw [texts "inject.pre" (by rw [fragments]; exact List.cons_ne_nil _ _), fragments]
  decide +kernel

end ChatRules
