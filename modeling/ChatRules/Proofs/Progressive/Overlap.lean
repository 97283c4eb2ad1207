import ChatRules.Proofs.EffectTree.Leaves
import ChatRules.Proofs.Evaluation.Overlap
import ChatRules.Proofs.Progressive.Turns
import Mathlib.Data.List.Flatten

/-!
# Overlapping writes

A rule writes to the paths of its effects, and to the path of its write, which is given as
such or by the name of a target. Validation sees the paths, and warns of those that are no
targets of the rule. It does not see the names, since it is the options of a run that say
where they lead. So two rules that write to one path stand together in the conflicts, unless
one of them gets there by a name and does not declare the path.

Results:

* `isSpelled_alone`: the effects of a rule are spelled by the paths of the rule.
* `Turn.mem_targets_of_applied`: the paths to which a rule writes are targets.
* `runProgressive_conflicts`: rules that write to one path are in conflict.
* `runProgressive_silent_of_named_target`: rules that name the same target need not be.
-/

namespace ChatRules

/-! ## Effects -/

theorem RuleProgram.isSpelled_produced (r : Rule) (a : Access) :
    ((ofRule r).produced a).IsSpelled := by
  unfold produced ofRule
  cases made : r.effectTree? with
  | none => exact EffectTree.isSpelled_empty
  | some tree? =>
    cases tree? with
    | error e => exact EffectTree.isSpelled_empty
    | ok tree =>
      obtain ⟨es, -, inserted⟩ := Option.map_eq_some_iff.1 made
      exact EffectTree.isSpelled_empty.insertAll inserted

/-- The effects that a rule has on its own are spelled. -/
theorem isSpelled_alone (r : Rule) (a : Access) :
    (evaluate [.ofRule r] a).effects.IsSpelled := by
  rw [(evaluate_alone (.ofRule r) a).2.2]
  split
  · exact RuleProgram.isSpelled_produced r a
  · exact EffectTree.isSpelled_empty

/-- A patch of effects leads to a path that has fragments. -/
theorem Patch.fragments_of_mem_ofEffects {id : String} {t : EffectTree} (spelled : t.IsSpelled)
    {p : Patch} (mem : p ∈ ofEffects id t) : t.fragments p.path ≠ [] := by
  obtain ⟨⟨path, values⟩, leaf, made⟩ := List.mem_flatMap.1 mem
  obtain ⟨value, -, rfl⟩ := List.mem_map.1 made
  obtain ⟨ne, found⟩ := spelled.mem_leaves_iff.1 leaf
  exact found ▸ ne

/-! ## Turns -/

/-- Whether a rule writes to a path by the name of a target. -/
def RuleProgram.NamesTarget (o : ProgressiveOptions) (path : String) (p : RuleProgram) : Prop :=
  ∃ w, p.write = some w ∧ w.path = none ∧ w.destination? o.aliases = some path

theorem write_of_mem_writePatches {o : ProgressiveOptions} {rule : RuleProgram} {p : Patch}
    (mem : p ∈ (ProgressiveRun.writePatches o rule).toOption.getD []) :
    ∃ w, rule.write = some w ∧ w.destination? o.aliases = some p.path := by
  unfold ProgressiveRun.writePatches at mem
  split at mem
  · cases mem
  · rename_i w given
    split at mem
    · rename_i path leads
      obtain rfl := List.mem_singleton.1 mem
      exact ⟨w, given, leads⟩
    · cases mem

/-- Where a rule writes, it has a target, unless it writes there by a name. -/
theorem Turn.mem_targets_of_applied {o : ProgressiveOptions} {registry : Registry} {t : Turn}
    {r : Rule} (ofRule : t.rule = .ofRule r)
    (clean : ∀ f ∈ r.findings, f.code ≠ "W001" ∧ f.code ≠ "E009") {p : Patch}
    (mem : p ∈ (t.run o registry).applied)
    (declares : t.rule.NamesTarget o p.path → p.path ∈ t.rule.targets) :
    p.path ∈ t.rule.targets := by
  obtain ⟨-, tried⟩ := t.fired_and_mem_of_applied o registry mem
  rcases List.mem_append.1 tried with ofEffects | ofWrite
  · rw [ofRule] at ofEffects ⊢
    have adds := Patch.fragments_of_mem_ofEffects (isSpelled_alone r _) ofEffects
    refine mem_targets_of_fragments_alone (fun f found code => ?_) adds
    obtain ⟨notW001, notE009⟩ := clean f found
    exact absurd code (not_or.2 ⟨notW001, notE009⟩)
  · obtain ⟨w, given, leads⟩ := write_of_mem_writePatches ofWrite
    cases named : w.path with
    | none => exact declares ⟨w, given, named, leads⟩
    | some path =>
      have here : path = p.path := by simpa [Write.destination?, named] using leads
      rw [ofRule] at given ⊢
      rw [← here]
      exact Rule.mem_targets_of_write clean given named

theorem Rule.forall_findings_of_hasCode {rules : List Rule} {code : String}
    (silent : (SetIssues.ofRules rules).all.hasCode code = false) {r : Rule} (mem : r ∈ rules) :
    ∀ f ∈ r.findings, f.code ≠ code := by
  intro f found eq
  have reported := SetIssues.mem_ofRules mem found
  have has : (SetIssues.ofRules rules).all.hasCode code = true :=
    List.any_eq_true.2 ⟨_, reported, beq_iff_eq.2 eq⟩
  exact Bool.noConfusion (has.symm.trans silent)

/-- **No two rules write to one path in silence**, but for names of targets. A run is made of
    the turns of its first rules. Let validation report no undeclared and no malformed path.
    If a patch is applied at the same path in two turns, and each of the two rules declares
    the path if its write gets there by the name of a target, then exactly one group of
    conflicts is named by the path. It lists both rules, and lists rules in the order in
    which they fired. -/
theorem runProgressive_conflicts (o : ProgressiveOptions) (registry : Registry)
    (rules : List Rule) (ctx : Context)
    (declared : (SetIssues.ofRules rules).all.hasCode "W001" = false)
    (wellFormed : (SetIssues.ofRules rules).all.hasCode "E009" = false) :
    let run := runProgressive o registry (rules.map .ofRule) ctx
    let turns := Turn.ofRules o registry (rules.map .ofRule) ctx
    turns.map (·.rule) <+: rules.map .ofRule ∧
      run.fired = turns.flatMap (fun t => (t.run o registry).fired) ∧
      run.applied = turns.flatMap (fun t => (t.run o registry).applied) ∧
      ∀ t u : Turn, [t, u].Sublist turns →
        ∀ p ∈ (t.run o registry).applied, ∀ q ∈ (u.run o registry).applied, p.path = q.path →
        (t.rule.NamesTarget o p.path → p.path ∈ t.rule.targets) →
        (u.rule.NamesTarget o p.path → p.path ∈ u.rule.targets) →
        ∃ x y g, (t.run o registry).fired = [x] ∧ (u.run o registry).fired = [y] ∧
          run.conflicts.filter (·.key == p.path) = [g] ∧
          [x, y].Sublist g.rules ∧ g.rules.Sublist run.fired := by
  intro run turns
  have rulesOfTurns := Turn.map_rule_ofRules o registry (rules.map .ofRule) ctx
  have fired : run.fired = turns.flatMap (fun t => (t.run o registry).fired) :=
    fired_runProgressive o registry _ ctx
  have applied : run.applied = turns.flatMap (fun t => (t.run o registry).applied) :=
    applied_runProgressive o registry _ ctx
  refine ⟨rulesOfTurns, fired, applied, ?_⟩
  intro t u both p inFirst q inSecond same declares declaresToo
  have target (v : Turn) (mem : v ∈ [t, u]) {p : Patch} (inTurn : p ∈ (v.run o registry).applied)
      (declares : v.rule.NamesTarget o p.path → p.path ∈ v.rule.targets) :
      p.path ∈ (v.rule.result (v.access o registry)).targets := by
    have ofRules : v.rule ∈ rules.map RuleProgram.ofRule :=
      rulesOfTurns.subset (List.mem_map_of_mem (both.subset mem))
    obtain ⟨r, inRules, eq⟩ := List.mem_map.1 ofRules
    exact v.mem_targets_of_applied eq.symm
      (fun f found => ⟨Rule.forall_findings_of_hasCode declared inRules f found,
        Rule.forall_findings_of_hasCode wellFormed inRules f found⟩) inTurn declares
  obtain ⟨firesFirst, -⟩ := t.fired_and_mem_of_applied o registry inFirst
  obtain ⟨firesSecond, -⟩ := u.fired_and_mem_of_applied o registry inSecond
  have bothFired : [t.rule.result (t.access o registry),
      u.rule.result (u.access o registry)].Sublist run.fired := by
    have inTurns := both.flatMap fun t => (t.run o registry).fired
    rw [← fired] at inTurns
    simpa [firesFirst, firesSecond] using inTurns
  obtain ⟨g, group, listed, inOrder⟩ := ConflictGroup.exists_group_of_declared bothFired
    (target t (by simp) inFirst declares)
    (same ▸ target u (by simp) inSecond (same ▸ declaresToo))
  exact ⟨_, _, g, firesFirst, firesSecond, group, listed, inOrder⟩

/-- A rule with effects before one with a write that names their path, and declares it. The
    next rule is blocked, so that the last one has no turn. -/
theorem runProgressive_conflicts_before_blocked :
    let always : Option Condition := some (.and [])
    let path := "character.personality"
    let first : Rule :=
      { id := "a", condition := always, targets := [path], effects := some [(path, .one "Kind.")] }
    let second : Rule :=
      { id := "b", condition := always, targets := ["tone", path]
        write := some { targetId := some "personality", text := some "Shy." } }
    let third : Rule :=
      { id := "c", condition := always, targets := ["tone"]
        effects := some [("tone", .one "calm")] }
    let rules := [first, second, third, first]
    let run := runProgressive {} {} (rules.map .ofRule) {}
    (SetIssues.ofRules rules).all.hasCode "W001" = false ∧
      (SetIssues.ofRules rules).all.hasCode "E009" = false ∧
      run.blocked = some ⟨"c", "tone"⟩ ∧
      run.applied = [⟨"a", path, .append, "Kind."⟩, ⟨"b", path, .append, "Shy."⟩] ∧
      ∃ g, run.conflicts.filter (·.key == path) = [g] ∧
        ["a", "b"].Sublist (g.rules.map (·.id)) := by
  intro always path first second third rules run
  have declared : (SetIssues.ofRules rules).all.hasCode "W001" = false := by decide +kernel
  have wellFormed : (SetIssues.ofRules rules).all.hasCode "E009" = false := by decide +kernel
  let t : Turn := ⟨.ofRule first, {}⟩
  let u : Turn := ⟨.ofRule second, (t.run {} {}).context⟩
  have goesOn : (t.run {} {}).blocked = none := by decide +kernel
  have both : [t, u].Sublist (Turn.ofRules {} {} (rules.map .ofRule) {}) := by
    change [t, u].Sublist (t :: if (t.run {} {}).blocked.isSome then [] else u :: _)
    rw [goesOn]
    exact .cons_cons t (.cons_cons u (List.nil_sublist _))
  let p : Patch := ⟨"a", path, .append, "Kind."⟩
  let q : Patch := ⟨"b", path, .append, "Shy."⟩
  have inFirst : p ∈ (t.run {} {}).applied := by decide +kernel
  have inSecond : q ∈ (u.run {} {}).applied := by decide +kernel
  obtain ⟨-, -, -, overlap⟩ := runProgressive_conflicts {} {} rules {} declared wellFormed
  obtain ⟨x, y, g, firesFirst, firesSecond, group, listed, -⟩ :=
    overlap t u both p inFirst q inSecond rfl
      (fun _ => List.mem_cons_self) (fun _ => List.mem_cons_of_mem _ List.mem_cons_self)
  have names : (t.run {} {}).fired.map (·.id) ++ (u.run {} {}).fired.map (·.id) = ["a", "b"] := by
    decide +kernel
  rw [firesFirst, firesSecond] at names
  refine ⟨declared, wellFormed, by decide +kernel, by decide +kernel, g, group, ?_⟩
  rw [← names]
  exact listed.map RuleResult.id

/-- Two rules with a write that names the same target. Nothing is reported of them, and both
    writes are applied at one path, without a conflict. -/
theorem runProgressive_silent_of_named_target :
    let rule (id text : String) : Rule :=
      { id, condition := some (.and [])
        write := some { targetId := some "personality", text := some text } }
    let rules := [rule "a" "Kind.", rule "b" "Shy."]
    let path := "character.personality"
    let run := runProgressive {} {} (rules.map .ofRule) {}
    (SetIssues.ofRules rules).all.all = [] ∧
      run.firedIds = ["a", "b"] ∧
      run.applied = [⟨"a", path, .append, "Kind."⟩, ⟨"b", path, .append, "Shy."⟩] ∧
      ∀ g ∈ run.conflicts, g.key ≠ path := by
  decide +kernel

end ChatRules
