import ChatRules.Proofs.Condition.Reports
import ChatRules.Proofs.Rule.Broken
import Mathlib.Data.List.Forall2

/-!
# Warnings about what never happens

Some warnings about a condition foretell what its nodes come to: a term that is found nowhere, a
test that never passes, a count that is always zero, a negation that always passes. Validation
sees nothing but the rule, yet what it foretells happens over every registry and in every view,
as long as reads are not strict.

Results:

* `Rule.reports_of_warns`, `Rule.childless_of_warns`: a warning at a place is about the node
  that has this place, and what it says is so.
* `warnings_hold`: the nodes of the reason of a rule come out as the warnings say.
-/

namespace ChatRules

/-! ## Warnings and places -/

namespace Condition

/-- The codes of warnings about conditions. -/
def nodeCodes : List String := ["W003", "W004", "W006", "W007", "W008", "W009"]

/-- A warning about a node is at the node if it is a negation of nothing, and else at one of the
    fields of a test. -/
theorem cases_of_mem_nodeFindings {c : Condition} {path : String} {f : Finding}
    (mem : f ∈ c.nodeFindings path) (code : f.code ∈ nodeCodes) :
    (c = .not none ∧ f.path = path ∧ f.code = "W009") ∨
      ∃ source test field, c = .check source test ∧ f.path = path ++ "." ++ field ∧
        test.Reports field f.code := by
  cases c with
  | check source test =>
    have noFault : f.code ≠ "E007" := by
      intro eq
      rw [eq] at code
      exact absurd code (by decide)
    obtain ⟨field, place, reports⟩ := Test.reports_of_mem_findings mem noFault
    exact .inr ⟨source, test, field, rfl, place, reports⟩
  | and children => cases mem
  | or children => cases mem
  | not child =>
    cases child with
    | none =>
      rw [List.mem_singleton.1 mem]
      exact .inl ⟨rfl, rfl, rfl⟩
    | some c => cases mem
  | invalid raw =>
    have apart : ∀ code ∈ brokenCodes, code ∉ nodeCodes := by decide
    exact absurd code (apart _ (mem_invalidFindings mem).1)

end Condition

namespace Rule

/-- A rule has a warning with one of some codes at a place. -/
def Warns (r : Rule) (codes : List String) (place : String) : Prop :=
  ∃ i ∈ r.validate.warnings, i.code ∈ codes ∧ i.path = place

instance (r : Rule) (codes : List String) (place : String) : Decidable (r.Warns codes place) :=
  inferInstanceAs (Decidable (∃ i ∈ r.validate.warnings, _))

variable {r : Rule} {codes : List String}

theorem eq_of_mem_nodes {n m : String × Condition} (hn : n ∈ r.nodes) (hm : m ∈ r.nodes)
    (eq : n.1 = m.1) : n = m := by
  unfold nodes at hn hm
  cases found : r.condition with
  | none => simp [found] at hn
  | some c =>
    rw [found] at hn hm
    exact Condition.eq_of_mem_nodesAt hn hm eq

/-- A warning about a condition is found in one of its nodes. -/
theorem exists_finding_of_warns {place : String}
    (known : ∀ code ∈ codes, code ∈ Condition.nodeCodes) (warns : r.Warns codes place) :
    ∃ n ∈ r.nodes, ∃ f ∈ n.2.nodeFindings n.1, f.code ∈ codes ∧ f.path = place := by
  obtain ⟨i, inWarnings, code, at_place⟩ := warns
  have inAll : i ∈ r.validate.all := List.mem_append_right _ inWarnings
  obtain ⟨f, inRule, rfl⟩ := mem_validate_all_iff.1 inAll
  have other : ∀ code ∈ Condition.nodeCodes, code ∉ otherCodes := by decide
  have inCondition := (mem_findings inRule).resolve_right (other _ (known _ code))
  cases found : r.condition with
  | none =>
    -- A missing condition is found, but under a code of its own.
    rw [conditionFindings, found] at inCondition
    have missing : f.code = "E002" := by rw [List.mem_singleton.1 inCondition, Finding.code_error]
    have listed : "E002" ∈ Condition.nodeCodes := missing ▸ known _ code
    exact absurd listed (by decide)
  | some c =>
    obtain ⟨n, node, inNode⟩ := (mem_conditionFindings_iff found).1 inCondition
    exact ⟨n, node, f, inNode, code, at_place⟩

/-- A warning at a field of a node is about this node, and what it says is so. -/
theorem reports_of_warns {n : String × Condition} (mem : n ∈ r.nodes) {source field : String}
    {test : Test} (isTest : n.2 = .check source test) (noDot : '.' ∉ field.toList)
    (known : ∀ code ∈ codes, code ∈ Condition.nodeCodes ∧ code ≠ "W009") {place : String}
    (warns : r.Warns codes place) (spelled : place = n.1 ++ "." ++ field) :
    ∃ code ∈ codes, test.Reports field code := by
  obtain ⟨m, other, f, inNode, code, at_place⟩ :=
    exists_finding_of_warns (fun code mem => (known code mem).1) warns
  rcases Condition.cases_of_mem_nodeFindings inNode (known _ code).1 with
    ⟨-, -, childless⟩ | ⟨source', test', field', isTest', place', reports⟩
  · exact absurd childless (known _ code).2
  · have paths : m.1 ++ "." ++ field' = n.1 ++ "." ++ field := by
      rw [← place', at_place, spelled]
    obtain ⟨same, rfl⟩ := Path.eq_of_append_dot_eq reports.noDot noDot paths
    cases eq_of_mem_nodes other mem same
    cases isTest.symm.trans isTest'
    exact ⟨_, code, reports⟩

/-- A negation that is reported at its place is one of nothing. -/
theorem childless_of_warns {n : String × Condition} (mem : n ∈ r.nodes)
    (warns : r.Warns ["W009"] n.1) : n.2 = .not none := by
  obtain ⟨m, other, f, inNode, code, place⟩ := exists_finding_of_warns (by decide) warns
  rw [List.mem_singleton] at code
  rcases Condition.cases_of_mem_nodeFindings inNode (by rw [code]; decide) with
    ⟨childless, place', -⟩ | ⟨source, test, field, -, -, reports⟩
  · cases eq_of_mem_nodes other mem (place'.symm.trans place)
    exact childless
  · exact absurd code reports.code_ne

end Rule

/-- The reason that a node of a rule comes to is as the warnings about the node say. Below,
    `place` is the place of the node. -/
structure Rule.WarningsHold (r : Rule) (a : Access) (n : String × Condition) (x : Reason) :
    Prop where
  /-- The term at `place.term` is found nowhere, and the search fails. -/
  term : ∀ source term mode, n.2 = .check source (.termHit term mode) →
    r.Warns termCodes (n.1 ++ ".term") → NeverFound term mode ∧ x.ok = false
  /-- The term at `place.terms[i]` is found nowhere. A test for all terms fails, and the others
      pass exactly if they pass without the term; the same terms and messages are found. -/
  listed : ∀ source test terms mode i term, n.2 = .check source test →
    test.terms? = some (terms, mode) → terms[i]? = some term →
    r.Warns termCodes (n.1 ++ ".terms[" ++ toString i ++ "]") →
    NeverFound term mode ∧
      ∃ other, ((Condition.check source (test.without i)).evaluate a.read).result = .ok other ∧
        (test.kind = .allTerms → x.ok = false) ∧ (test.kind ≠ .allTerms → x.ok = other.ok) ∧
        ∀ key ∈ Test.matchKeys, Dict.find? key x.details = Dict.find? key other.details
  /-- The search for the phrase at `place.phrase` fails. -/
  phrase : ∀ source phrase, n.2 = .check source (.phraseHit phrase) →
    r.Warns ["W007"] (n.1 ++ ".phrase") → x.ok = false
  /-- The test for all of the terms at `place.terms` fails. -/
  noTerms : ∀ source terms mode, n.2 = .check source (.allTerms terms mode) →
    r.Warns ["W008"] (n.1 ++ ".terms") → x.ok = false
  /-- The count that has to reach what is at `place.min` fails. -/
  tooMany : ∀ source terms window least mode,
    n.2 = .check source (.countInWindow terms window least mode) →
    r.Warns ["W004"] (n.1 ++ ".min") → x.ok = false
  /-- The count in the window at `place.window` is zero. -/
  noWindow : ∀ source terms window least mode,
    n.2 = .check source (.countInWindow terms window least mode) →
    r.Warns ["W006"] (n.1 ++ ".window") →
    Dict.find? "count" x.details = some (.ofNat 0) ∧ Dict.find? "hits" x.details = some (.array [])
  /-- The negation at `place` passes. -/
  childless : ∀ child, n.2 = .not child → r.Warns ["W009"] n.1 → x.ok = true

namespace Rule

variable {r : Rule}

theorem warningsHold_judge {a : Access} (lenient : a.strict = false) {n : String × Condition}
    (mem : n ∈ r.nodes) :
    r.WarningsHold a n (n.2.judge (a.registry.value? a.moduleId a.view)) := by
  have termKnown : ∀ code ∈ termCodes, code ∈ Condition.nodeCodes ∧ code ≠ "W009" := by decide
  obtain ⟨place, c⟩ := n
  constructor
  · rintro source term mode rfl warns
    obtain ⟨code, -, reports⟩ := reports_of_warns mem rfl (by decide) termKnown warns
      (Test.field_spelled place "term" rfl)
    exact ⟨reports.never, Test.ok_judge_termHit reports.never source _⟩
  · rintro source test terms mode i term rfl has there warns
    have accepted : test.fault? = none := by
      cases test with
      | regexHit => cases has
      | _ => rfl
    have accepted' : (test.without i).fault? = none := by
      cases test with
      | regexHit => cases has
      | _ => rfl
    obtain ⟨code, known, reports⟩ := reports_of_warns mem rfl (not_mem_indexed (by decide) i)
      termKnown warns (Test.listed_spelled place i)
    have never := reports.never_listed known rfl has there
    refine ⟨never, _, Test.result_evaluate (Access.result_read lenient) source _, ?_⟩
    rw [Condition.judge, Test.judgeWith_of_accepted accepted,
      Test.judgeWith_of_accepted accepted']
    exact Test.judge_without has there never source _
  · rintro source phrase rfl warns
    obtain ⟨code, -, reports⟩ := reports_of_warns mem rfl (by decide) (by decide) warns
      (Test.field_spelled place "phrase" rfl)
    cases reports.phrase_eq
    exact Test.ok_judge_phraseHit_empty source _
  · rintro source terms mode rfl warns
    obtain ⟨code, known, reports⟩ := reports_of_warns mem rfl (by decide) (by decide) warns
      (Test.field_spelled place "terms" rfl)
    cases reports.terms_eq (List.mem_singleton.1 known)
    exact Test.ok_judge_allTerms_nil mode source _
  · rintro source terms window least mode rfl warns
    obtain ⟨code, known, reports⟩ := reports_of_warns mem rfl (by decide) (by decide) warns
      (Test.field_spelled place "min" rfl)
    have lt : window < least := reports.window_lt (List.mem_singleton.1 known)
    exact Test.ok_judge_countInWindow lt terms mode source _
  · rintro source terms window least mode rfl warns
    obtain ⟨code, known, reports⟩ := reports_of_warns mem rfl (by decide) (by decide) warns
      (Test.field_spelled place "window" rfl)
    cases reports.window_eq (List.mem_singleton.1 known)
    exact Test.find?_judge_noWindow terms least mode source _
  · rintro child rfl warns
    cases childless_of_warns mem warns
    rfl

end Rule

/-- **What never happens by the warnings of a rule never happens.** Where reads are not strict,
    the condition of a rule comes to a reason whose nodes are what the nodes of the condition
    come to, one by one, and they are as the warnings about them say. -/
theorem warnings_hold (r : Rule) (a : Access) (lenient : a.strict = false) :
    ∃ reason, ((RuleProgram.ofRule r).condition a).result = .ok reason ∧
      (r.condition.isSome → List.Forall₂
        (fun n x => (n.2.evaluate a.read).result = .ok x ∧ r.WarningsHold a n x)
        r.nodes reason.nodes) := by
  let value? := a.registry.value? a.moduleId a.view
  refine ⟨r.judge value?, r.result_condition lenient, fun some => ?_⟩
  obtain ⟨c, found⟩ := Option.isSome_iff_exists.1 some
  have nodes : (r.judge value?).nodes = r.nodes.map (·.2.judge value?) := by
    simp only [Rule.judge, Rule.nodes, found, Option.map_some, Option.getD_some]
    exact c.nodes_judge value? "when"
  rw [nodes, List.forall₂_map_right_iff, List.forall₂_same]
  intro n mem
  exact ⟨n.2.result_evaluate (Access.result_read lenient), Rule.warningsHold_judge lenient mem⟩

/-- A rule with a term of two words, a count that is out of reach, and a negation of nothing. -/
theorem warnings_hold_of_three :
    let r : Rule :=
      { id := "a"
        condition := some (.or [.check "s" (.anyTerms ["ice cream", "cake"] .word),
          .check "s" (.countInWindow ["cake"] 2 3 .contains), .not none]) }
    let a : Access := { registry := {}, view := {}, moduleId := "core" }
    a.strict = false ∧ r.Warns termCodes "when.children[0].terms[0]" ∧
      r.Warns ["W004"] "when.children[1].min" ∧ r.Warns ["W009"] "when.children[2]" ∧
      NeverFound "ice cream" .word ∧
      ∃ reason whole any count negation,
        ((RuleProgram.ofRule r).condition a).result = .ok reason ∧
        reason.nodes = [whole, any, count, negation] ∧
        (∃ other, ((Condition.check "s" (.anyTerms ["cake"] .word)).evaluate a.read).result =
          .ok other ∧ any.ok = other.ok) ∧
        count.ok = false ∧ negation.ok = true := by
  intro r a
  have term : r.Warns termCodes "when.children[0].terms[0]" := by decide +kernel
  have min : r.Warns ["W004"] "when.children[1].min" := by decide +kernel
  have childless : r.Warns ["W009"] "when.children[2]" := by decide +kernel
  obtain ⟨reason, result, holds⟩ := warnings_hold r a rfl
  have nodes := holds rfl
  generalize listed : reason.nodes = found at nodes
  rcases nodes with _ | ⟨-, _ | ⟨⟨-, any⟩, _ | ⟨⟨-, count⟩, _ | ⟨⟨-, negation⟩, _ | _⟩⟩⟩⟩
  obtain ⟨never, other, without, -, same, -⟩ :=
    any.listed "s" _ _ _ 0 "ice cream" rfl rfl rfl term
  have passes := negation.childless none rfl childless
  have fails := count.tooMany "s" _ _ _ _ rfl min
  exact ⟨rfl, term, min, childless, never, reason, _, _, _, _, result, listed,
    ⟨other, without, same nofun⟩, fails, passes⟩

end ChatRules
