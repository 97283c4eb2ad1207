import ChatRules.Proofs.Evaluation.Isolation
import ChatRules.Proofs.Rule.Effects
import Mathlib.Data.List.Basic

/-!
# The effects of an evaluation

The effects of all rules that fire are merged into one tree. At every path this tree has the
fragments that these rules declare for the path, in the order of evaluation: none is lost,
doubled or moved. A rule with a malformed path among its effects adds nothing at any path,
and leaves a diagnostic instead.

Results:

* `fragments_alone`, `effectsDiagnostics_alone`: what a rule adds at a path, and the
  diagnostic that it leaves.
* `evaluate_effects`: the effects of rules, path by path, and the diagnostics about effects.
-/

namespace ChatRules

namespace Rule

/-- The rules in the order of evaluation. -/
def byPriority (rules : List Rule) : List Rule :=
  rules.mergeSort fun r s => RuleProgram.mayPrecede (.ofRule r) (.ofRule s)

/-- Whether a rule fires. -/
def fires (a : Access) (r : Rule) : Bool := ((RuleProgram.ofRule r).result a).ok

/-- The rules that fire, in the order of evaluation. -/
def firing (a : Access) (rules : List Rule) : List Rule :=
  (byPriority rules).filter (·.fires a)

/-- What a rule adds to the effects at a path: what it declares there, unless one of its
    paths is malformed. -/
def contribution (path : String) (r : Rule) : List String :=
  if r.malformedKey?.isSome then [] else r.declared path

/-- What a rule with a malformed path in its effects leaves when it fires. -/
def effectsDiagnostic? (r : Rule) : Option Diagnostic :=
  r.malformedKey?.map fun key => ⟨r.id, .effects, (Error.write (.malformedPath key)).message⟩

/-- The effects of a rule: there are none, or they make a tree of what the rule declares, or
    a path is malformed. -/
theorem effectTree?_cases (r : Rule) :
    (r.effectTree? = none ∧ r.malformedKey? = none ∧ ∀ path, r.declared path = []) ∨
      (∃ tree, r.effectTree? = some (.ok tree) ∧ r.malformedKey? = none ∧
        ∀ path, tree.fragments path = r.declared path) ∨
      ∃ key, r.effectTree? = some (.error (.malformedPath key)) ∧ r.malformedKey? = some key := by
  cases malformed? : r.malformedKey? with
  | some key => exact .inr (.inr ⟨key, effectTree?_of_malformed malformed?, rfl⟩)
  | none =>
    cases given : r.effects with
    | none => exact .inl ⟨by simp [effectTree?, given], rfl, declared_of_none given⟩
    | some es =>
      obtain ⟨tree, made, atPath⟩ := exists_effectTree_of_wellFormed given malformed?
      exact .inr (.inl ⟨tree, made, rfl, atPath⟩)

end Rule

/-- What a rule that fires adds at a path. -/
theorem RuleProgram.fragments_produced (r : Rule) (a : Access) (path : String) :
    ((ofRule r).produced a).fragments path = r.contribution path := by
  unfold produced ofRule Rule.contribution
  rcases r.effectTree?_cases with
    ⟨none, wellFormed, declared⟩ | ⟨tree, made, wellFormed, declared⟩ | ⟨key, fails, malformed⟩
  · simp [none, wellFormed, declared, EffectTree.fragments_empty]
  · simp [made, wellFormed, declared]
  · simp [fails, malformed, Traced.fail, EffectTree.fragments_empty]

namespace EvaluationReport

/-- The diagnostics about effects. -/
def effectsDiagnostics (report : EvaluationReport) : List Diagnostic :=
  report.diagnostics.filter (·.stage == .effects)

variable (a : Access) (report : EvaluationReport)

theorem effectsDiagnostics_decide (p : RuleProgram) :
    (report.decide a p).1.effectsDiagnostics = report.effectsDiagnostics := by
  unfold EvaluationReport.decide stage
  cases (p.condition a).result with
  | ok reason => rfl
  | error e => simp [effectsDiagnostics, emit]

theorem effectsDiagnostics_produce (r : Rule) :
    (report.produce a (.ofRule r)).effectsDiagnostics =
      report.effectsDiagnostics ++ r.effectsDiagnostic?.toList := by
  unfold produce RuleProgram.ofRule Rule.effectsDiagnostic?
  rcases r.effectTree?_cases with
    ⟨none, wellFormed, -⟩ | ⟨tree, made, wellFormed, -⟩ | ⟨key, fails, malformed⟩
  · simp [none, wellFormed]
  · simp [made, wellFormed, stage, effectsDiagnostics]
  · simp [fails, malformed, stage, effectsDiagnostics, emit, Traced.fail]

/-- A rule that fires with a malformed path in its effects leaves one diagnostic about
    them, and no other rule leaves one. -/
theorem effectsDiagnostics_step (r : Rule) :
    (report.step a (.ofRule r)).effectsDiagnostics =
      report.effectsDiagnostics ++ if r.fires a then r.effectsDiagnostic?.toList else [] := by
  have result : (RuleProgram.ofRule r).resultOf
      (report.decide ((RuleProgram.ofRule r).accessFor a) (.ofRule r)).2 =
        (RuleProgram.ofRule r).result a := by
    rw [decide_reason]
    rfl
  have decided := effectsDiagnostics_decide ((RuleProgram.ofRule r).accessFor a) report (.ofRule r)
  simp only [step, result]
  by_cases fires : r.fires a = true
  · have ok : ((RuleProgram.ofRule r).result a).ok = true := fires
    rw [if_pos ok, if_pos fires, ← decided, ← effectsDiagnostics_produce]
    rfl
  · have fails : ¬((RuleProgram.ofRule r).result a).ok = true := fires
    rw [if_neg fails, if_neg fires, List.append_nil]
    exact decided

end EvaluationReport

open EvaluationReport

/-- What a rule on its own leaves at a path. -/
theorem fragments_alone (r : Rule) (a : Access) (path : String) :
    (evaluate [.ofRule r] a).effects.fragments path =
      if r.fires a then r.contribution path else [] := by
  rw [(evaluate_alone (.ofRule r) a).2.2, ← RuleProgram.fragments_produced r a]
  by_cases fires : r.fires a = true
  · have ok : ((RuleProgram.ofRule r).result a).ok = true := fires
    rw [if_pos ok, if_pos fires]
  · have fails : ¬((RuleProgram.ofRule r).result a).ok = true := fires
    rw [if_neg fails, if_neg fires, EffectTree.fragments_empty]

/-- The diagnostic about effects that a rule on its own leaves. -/
theorem effectsDiagnostics_alone (r : Rule) (a : Access) :
    (evaluate [.ofRule r] a).effectsDiagnostics =
      if r.fires a then r.effectsDiagnostic?.toList else [] := by
  rw [evaluate_singleton]
  exact effectsDiagnostics_step a {} r

/-! ## Rules together -/

theorem flatMap_ite_eq_filter {α β : Type} (p : α → Bool) (f : α → List β) (xs : List α) :
    (xs.flatMap fun x => if p x then f x else []) = (xs.filter p).flatMap f := by
  induction xs with
  | nil => rfl
  | cons x rest ih =>
    rw [List.flatMap_cons, ih, List.filter_cons]
    split <;> rfl

namespace Rule

variable (rules : List Rule) (a : Access)

theorem byPriority_map_ofRule :
    RuleProgram.byPriority (rules.map .ofRule) = (byPriority rules).map .ofRule :=
  RuleProgram.byPriority_map_ofRule rules

theorem fired_evaluate :
    (evaluate (rules.map .ofRule) a).fired =
      (firing a rules).map fun r => (RuleProgram.ofRule r).result a := by
  rw [ChatRules.fired_evaluate, byPriority_map_ofRule, List.map_map, List.filter_map]
  rfl

theorem fragments_evaluate (path : String) :
    (evaluate (rules.map .ofRule) a).effects.fragments path =
      (firing a rules).flatMap (·.contribution path) := by
  rw [(isJoin_evaluate _ a).effects, EffectTree.fragments_foldl_merge,
    EffectTree.fragments_empty, List.nil_append, byPriority_map_ofRule]
  simp only [List.map_map, List.flatMap_map, Function.comp_apply, fragments_alone]
  exact flatMap_ite_eq_filter _ _ _

theorem effectsDiagnostics_evaluate :
    (evaluate (rules.map .ofRule) a).effectsDiagnostics =
      (firing a rules).filterMap (·.effectsDiagnostic?) := by
  have alone (r : Rule) : (evaluate [.ofRule r] a).diagnostics.filter (·.stage == .effects) =
      if r.fires a then r.effectsDiagnostic?.toList else [] := effectsDiagnostics_alone r a
  rw [effectsDiagnostics, (isJoin_evaluate _ a).diagnostics, byPriority_map_ofRule,
    List.filter_flatMap, List.filterMap_eq_flatMap_toList]
  simp only [List.map_map, List.flatMap_map, Function.comp_apply, alone]
  exact flatMap_ite_eq_filter _ _ _

end Rule

/-- **No fragment is lost, doubled or moved.** At every path the effects of rules have what
    those of them that fire declare for the path, in the order of evaluation, but for rules
    with a malformed path in their effects. These add nothing and leave one diagnostic each;
    they are the ones of which validation says so. -/
theorem evaluate_effects (rules : List Rule) (a : Access) :
    let report := evaluate (rules.map .ofRule) a
    let firing := Rule.firing a rules
    report.fired = (firing.map fun r => (RuleProgram.ofRule r).result a) ∧
      (∀ path, report.effects.fragments path =
        firing.flatMap fun r => if r.malformedKey?.isSome then [] else r.declared path) ∧
      report.effectsDiagnostics = firing.filterMap (·.effectsDiagnostic?) ∧
      ∀ r : Rule,
        (r.malformedKey?.isSome ↔
          ∃ i ∈ r.validate.all, i.code = "E009" ∧ Path.startsWith i.path "effects." = true) ∧
        ∀ es, r.effects = some es → (es.map (·.1)).Nodup → ∀ path,
          r.declared path = ((Dict.find? path es).map Fragments.texts).getD [] :=
  ⟨Rule.fired_evaluate rules a, Rule.fragments_evaluate rules a,
    Rule.effectsDiagnostics_evaluate rules a, fun r =>
      ⟨r.malformedKey?_isSome_iff, fun _ given unique => Rule.declared_eq given unique⟩⟩

/-- Three rules with a path in common, which leads through another one of the first rule. The
    second rule also has a malformed path, so what it declares is missing. -/
theorem evaluate_effects_of_malformed_path :
    let always : Option Condition := some (.and [])
    let es : List (String × Fragments) :=
      [("inject", .one "x"), ("inject.pre", .many ["y", "z"])]
    let first : Rule := { id := "a", condition := always, effects := some es }
    let broken : Rule :=
      { id := "b", condition := always
        effects := some [("inject.pre", .one "lost"), ("inject..pre", .one "lost")] }
    let last : Rule :=
      { id := "c", condition := always, effects := some [("inject.pre", .one "w")] }
    let a : Access := { registry := {}, view := {}, moduleId := defaultModule }
    let report := evaluate [.ofRule first, .ofRule broken, .ofRule last] a
    first.effects = some es ∧ (es.map (·.1)).Nodup ∧
      first.declared "inject.pre" = ["y", "z"] ∧
      (∃ i ∈ broken.validate.all, i.code = "E009" ∧ Path.startsWith i.path "effects." = true) ∧
      report.fired.map (·.id) = ["a", "b", "c"] ∧
      report.effects.fragments "inject" = ["x"] ∧
      report.effects.fragments "inject.pre" = ["y", "z", "w"] ∧
      report.effectsDiagnostics =
        [⟨"b", .effects, (Error.write (.malformedPath "inject..pre")).message⟩] := by
  intro always es first broken last a report
  obtain ⟨fired, fragments, diagnostics, ofRule⟩ := evaluate_effects [first, broken, last] a
  have unique : (es.map (·.1)).Nodup := by decide
  have order : Rule.byPriority [first, broken, last] = [first, broken, last] :=
    List.mergeSort_of_pairwise (by decide +kernel)
  have firing : Rule.firing a [first, broken, last] = [first, broken, last] := by
    rw [Rule.firing, order]
    exact List.filter_eq_self.2 fun r mem => by
      simp only [List.mem_cons, List.not_mem_nil, or_false] at mem
      rcases mem with rfl | rfl | rfl <;> rfl
  rw [firing] at fired fragments diagnostics
  refine ⟨rfl, unique, ?_, (ofRule broken).1.1 (by decide +kernel), ?_, ?_, ?_, ?_⟩
  · rw [(ofRule first).2 es rfl unique]
    decide +kernel
  · exact (congrArg (List.map (·.id)) fired).trans rfl
  · exact (fragments "inject").trans (by decide +kernel)
  · exact (fragments "inject.pre").trans (by decide +kernel)
  · exact diagnostics.trans (by decide +kernel)

end ChatRules
