import ChatRules.Proofs.Evaluation.Effects
import ChatRules.Proofs.Evaluation.Grouping
import ChatRules.Proofs.Rule.Clean

/-!
# Overlapping effects

Conflicts go by the targets that rules declare, not by the paths of their effects. Rules
against whose effects validation says nothing declare these paths. So two of them that add
to one path stand together in the conflicts.

Results:

* `mem_targets_of_fragments_alone`: the paths to which a rule adds are targets.
* `evaluate_conflicts`: rules that add to one path are in conflict.
-/

namespace ChatRules

/-- Where a rule on its own adds something, it has a target. -/
theorem mem_targets_of_fragments_alone {r : Rule}
    (clean : ∀ f ∈ r.findings, f.code = "W001" ∨ f.code = "E009" →
      Path.startsWith f.path "effects." = false)
    {a : Access} {path : String} (adds : (evaluate [.ofRule r] a).effects.fragments path ≠ []) :
    path ∈ r.targets := by
  refine Rule.mem_targets_of_declared clean fun nothing => adds ?_
  simp [fragments_alone, Rule.contribution, nothing]

theorem Rule.mem_of_mem_firing {r : Rule} {a : Access} {rules : List Rule}
    (mem : r ∈ firing a rules) : r ∈ rules :=
  List.mem_mergeSort.1 (List.mem_filter.1 mem).1

/-- Rules that stand in the order of evaluation and all fire are the rules that fire. -/
theorem Rule.firing_eq_self {a : Access} {rules : List Rule}
    (sorted : rules.Pairwise fun r s => RuleProgram.mayPrecede (.ofRule r) (.ofRule s))
    (all : ∀ r ∈ rules, r.fires a = true) : firing a rules = rules := by
  have order : byPriority rules = rules := List.mergeSort_of_pairwise sorted
  rw [firing, order]
  exact List.filter_eq_self.2 all

/-- **No two rules add to one path in silence.** Let validation report no undeclared and no
    malformed path at a place in the effects of a rule. If two of the rules that fire add
    something at the same path, each of them as it does on its own, then exactly one group
    of conflicts is named by the path. It lists both rules, and lists rules in the order in
    which they were evaluated. -/
theorem evaluate_conflicts (rules : List Rule) (a : Access)
    (clean : ∀ i ∈ (SetIssues.ofRules rules).all.all, i.code = "W001" ∨ i.code = "E009" →
      Path.startsWith i.path "effects." = false) :
    let report := evaluate (rules.map .ofRule) a
    let result (r : Rule) : RuleResult := (RuleProgram.ofRule r).result a
    report.fired = (Rule.firing a rules).map result ∧
      ∀ r s, [r, s].Sublist (Rule.firing a rules) → ∀ path,
        (evaluate [.ofRule r] a).effects.fragments path ≠ [] →
        (evaluate [.ofRule s] a).effects.fragments path ≠ [] →
        ∃ g, report.conflicts.filter (·.key == path) = [g] ∧
          [result r, result s].Sublist g.rules ∧ g.rules.Sublist report.fired := by
  intro report result
  have fired : report.fired = (Rule.firing a rules).map result := Rule.fired_evaluate rules a
  refine ⟨fired, fun r s both path adds addsToo => ?_⟩
  have declares (t : Rule) (mem : t ∈ [r, s])
      (adds : (evaluate [.ofRule t] a).effects.fragments path ≠ []) : path ∈ t.targets := by
    have inRules : t ∈ rules := Rule.mem_of_mem_firing (both.subset mem)
    exact mem_targets_of_fragments_alone
      (fun f found => clean _ (SetIssues.mem_ofRules inRules found)) adds
  have bothFired : [result r, result s].Sublist report.fired := by
    rw [fired]
    exact both.map result
  exact ConflictGroup.exists_group_of_declared bothFired (declares r (by simp) adds)
    (declares s (by simp) addsToo)

/-- Two of three rules add to one path, through trees that branch. A malformed target of the
    last one is no matter of its effects. -/
theorem evaluate_conflicts_of_two :
    let always : Option Condition := some (.and [])
    let first : Rule :=
      { id := "a", condition := always, targets := ["inject.pre", "inject"]
        effects := some [("inject", .one "x"), ("inject.pre", .one "y")] }
    let other : Rule :=
      { id := "b", condition := always, targets := ["tone"]
        effects := some [("tone", .one "calm")] }
    let last : Rule :=
      { id := "c", condition := always, targets := ["inject..pre", "inject.pre"]
        effects := some [("inject.pre", .many ["z", "w"])] }
    let a : Access := { registry := {}, view := {}, moduleId := defaultModule }
    let report := evaluate [.ofRule first, .ofRule other, .ofRule last] a
    (∀ i ∈ (SetIssues.ofRules [first, other, last]).all.all, i.code = "W001" ∨ i.code = "E009" →
      Path.startsWith i.path "effects." = false) ∧
    (SetIssues.ofRules [first, other, last]).all.hasCode "E009" = true ∧
    (evaluate [.ofRule first] a).effects.fragments "inject.pre" = ["y"] ∧
    (evaluate [.ofRule last] a).effects.fragments "inject.pre" = ["z", "w"] ∧
    ∃ g, report.conflicts.filter (·.key == "inject.pre") = [g] ∧
      ["a", "c"].Sublist (g.rules.map (·.id)) := by
  intro always first other last a report
  have clean : ∀ i ∈ (SetIssues.ofRules [first, other, last]).all.all,
      i.code = "W001" ∨ i.code = "E009" → Path.startsWith i.path "effects." = false := by
    decide +kernel
  have firing : Rule.firing a [first, other, last] = [first, other, last] :=
    Rule.firing_eq_self (by decide +kernel) (by decide +kernel)
  have both : [first, last].Sublist (Rule.firing a [first, other, last]) := by
    rw [firing]
    exact .cons_cons _ (.cons _ (.refl _))
  have adds : (evaluate [.ofRule first] a).effects.fragments "inject.pre" = ["y"] :=
    (fragments_alone first a _).trans (by decide +kernel)
  have addsToo : (evaluate [.ofRule last] a).effects.fragments "inject.pre" = ["z", "w"] :=
    (fragments_alone last a _).trans (by decide +kernel)
  obtain ⟨g, group, listed, -⟩ := (evaluate_conflicts [first, other, last] a clean).2
    first last both "inject.pre" (by simp [adds]) (by simp [addsToo])
  have names : ["a", "c"].Sublist (g.rules.map (·.id)) := listed.map RuleResult.id
  exact ⟨clean, by decide +kernel, adds, addsToo, g, group, names⟩

end ChatRules
