import ChatRules.Proofs.Evaluation.Isolation
import ChatRules.Proofs.Rule.Broken
import ChatRules.Source.Builtin

/-!
# Allowlists

Rules see the context only through the sources of the registry, and an allowlist cuts off
all sources but those that it names, derived numbers included. So two views on which the
allowed sources give the same are the same to the rules of the module.

Results:

* `Registry.value?_eq_none`: a source that is not allowed has no value, whether it exists
  or not.
* `reason_ofRule`: the reason of a rule is judged on the values of sources.
* `evaluate_noninterference`: what the rules of a module come to depends on its allowed
  sources only.
-/

namespace ChatRules

namespace Registry

variable {r : Registry} {moduleId : String} {allowed : List String}

theorem isAllowed_eq (listed : Dict.find? moduleId r.allowlists = some allowed)
    (sourceId : String) : r.isAllowed moduleId sourceId = allowed.contains sourceId := by
  simp only [isAllowed, listed]

/-- A source that is not allowed has no value, whether it exists or not. -/
theorem value?_eq_none (listed : Dict.find? moduleId r.allowlists = some allowed)
    {sourceId : String} (notAllowed : sourceId ∉ allowed) (view : View) :
    r.value? moduleId view sourceId = none := by
  have refused : r.isAllowed moduleId sourceId = false := by
    rw [isAllowed_eq listed]
    simpa using notAllowed
  unfold value? resolve
  rw [refused]
  -- Whether the source exists makes a difference to the failure, but there is always one.
  cases Dict.find? sourceId r.sources with
  | some s => rfl
  | none => cases derived? view sourceId <;> rfl

/-- Views on which the allowed sources give the same are the same to the module. -/
theorem value?_congr (listed : Dict.find? moduleId r.allowlists = some allowed) {v w : View}
    (same : ∀ s ∈ allowed, r.value? moduleId v s = r.value? moduleId w s) :
    r.value? moduleId v = r.value? moduleId w := by
  funext s
  by_cases isAllowed : s ∈ allowed
  · exact same s isAllowed
  · rw [value?_eq_none listed isAllowed, value?_eq_none listed isAllowed]

end Registry

namespace RuleProgram

/-- The reason of a rule is judged on the values of sources. -/
theorem reason_ofRule (r : Rule) {a : Access} (lenient : a.strict = false) :
    (ofRule r).reason a = r.judge (a.registry.value? r.moduleId a.view) := by
  have judged : ((ofRule r).condition ((ofRule r).accessFor a)).result =
      .ok (r.judge (a.registry.value? r.moduleId a.view)) := r.result_condition lenient
  unfold reason
  rw [judged]

/-- A rule has the same result where its module finds the same. -/
theorem result_ofRule_congr (r : Rule) {a b : Access} (registry : b.registry = a.registry)
    (lenient : a.strict = false) (lenient' : b.strict = false)
    (same : a.registry.value? r.moduleId a.view = a.registry.value? r.moduleId b.view) :
    (ofRule r).result a = (ofRule r).result b := by
  unfold result
  rw [reason_ofRule r lenient, reason_ofRule r lenient', registry, same]

end RuleProgram

theorem filter_fired_evaluate (rules : List RuleProgram) (a : Access)
    (p : RuleResult → Bool) :
    (evaluate rules a).fired.filter p = ((evaluate rules a).results.filter p).filter (·.ok) := by
  rw [(isJoin_evaluate rules a).fired_eq_filter, List.filter_filter, List.filter_filter]
  simp only [Bool.and_comm]

/-- **What the rules of a module come to depends on its allowed sources only.** If the
    sources that the allowlist of a module names give the same value on two views, or no
    value on either, then every rule of the module has the same result on both, with the
    same reason, and among any other rules the same ones of the module fire. -/
theorem evaluate_noninterference {moduleId : String} {allowed : List String} {a b : Access}
    (registry : b.registry = a.registry) (lenient : a.strict = false)
    (lenient' : b.strict = false)
    (listed : Dict.find? moduleId a.registry.allowlists = some allowed)
    (same : ∀ s ∈ allowed,
      a.registry.value? moduleId a.view s = a.registry.value? moduleId b.view s) :
    (∀ r : Rule, r.moduleId = moduleId →
      (evaluate [.ofRule r] a).results = (evaluate [.ofRule r] b).results) ∧
    ∀ rules : List Rule,
      let onA := evaluate (rules.map .ofRule) a
      let onB := evaluate (rules.map .ofRule) b
      onA.results.filter (·.moduleId == moduleId) =
          onB.results.filter (·.moduleId == moduleId) ∧
        onA.fired.filter (·.moduleId == moduleId) =
          onB.fired.filter (·.moduleId == moduleId) := by
  have result (r : Rule) (ofModule : r.moduleId = moduleId) :
      (RuleProgram.ofRule r).result a = (RuleProgram.ofRule r).result b := by
    subst ofModule
    exact RuleProgram.result_ofRule_congr r registry lenient lenient'
      (Registry.value?_congr listed same)
  refine ⟨fun r ofModule => ?_, fun rules => ?_⟩
  · rw [(evaluate_alone (.ofRule r) a).1, (evaluate_alone (.ofRule r) b).1, result r ofModule]
  · intro onA onB
    have results : onA.results.filter (·.moduleId == moduleId) =
        onB.results.filter (·.moduleId == moduleId) := by
      simp only [onA, onB, results_evaluate, RuleProgram.byPriority_map_ofRule, List.map_map,
        List.filter_map]
      refine List.map_congr_left fun r mem => ?_
      obtain ⟨-, ofModule⟩ := List.mem_filter.1 mem
      exact result r (eq_of_beq ofModule)
    refine ⟨results, ?_⟩
    rw [filter_fired_evaluate, filter_fired_evaluate, results]

/-- Two views with the same scenario: a rule that also asks for the personality and for a
    derived number fires on both if its module may read the scenario only. Without the
    allowlist it does not fire on the second one. -/
theorem evaluate_noninterference_of_scenario :
    let r : Rule :=
      { id := "a", moduleId := "m"
        condition := some (.and
          [.check "character.scenario" (.termHit "night" .contains),
            .not (some (.check "character.personality" (.termHit "grim" .contains))),
            .not (some (.check "derived.mood" (.numberCompare .greater 0.5)))]) }
    let registry := Registry.standard.setAllowlist "m" ["character.scenario"]
    let v : View := { context := { character := { scenario := "at night" } } }
    let w : View :=
      { context := { character := { scenario := "at night", personality := "grim" } }
        derived := [("mood", 1)] }
    let a : Access := { registry, view := v, moduleId := defaultModule }
    let b : Access := { registry, view := w, moduleId := defaultModule }
    Dict.find? "m" registry.allowlists = some ["character.scenario"] ∧
      (∀ s ∈ ["character.scenario"], registry.value? "m" v s = registry.value? "m" w s) ∧
      ((RuleProgram.ofRule r).result a).ok = true ∧
      (evaluate [.ofRule r] a).results = (evaluate [.ofRule r] b).results ∧
      ((RuleProgram.ofRule r).result { b with registry := .standard }).ok = false := by
  intro r registry v w a b
  have listed : Dict.find? "m" registry.allowlists = some ["character.scenario"] := by
    decide +kernel
  have same : ∀ s ∈ ["character.scenario"],
      registry.value? "m" v s = registry.value? "m" w s := by
    decide +kernel
  obtain ⟨alone, -⟩ := evaluate_noninterference (a := a) (b := b) rfl rfl rfl listed same
  exact ⟨listed, same, by decide +kernel, alone r rfl, by decide +kernel⟩

end ChatRules
