import ChatRules.Proofs.Rule.Findings

/-!
# Broken conditions

Two walks go through the condition of a rule: validation, which looks for what is
wrong and spells the places of nodes, and evaluation, which always comes to a
reason. They call the same nodes broken.

Results:

* `hasCode_brokenCodes_iff`, `hasCode_missing_iff`: what the codes of a rule say about
  its condition.
* `error_mem_kinds_iff`: the reason has a failed node exactly if the condition has a
  broken one.
* `validation_agrees`: the reason has the shape of the condition, and validation
  reports its failed nodes, all of them and no others.
-/

namespace ChatRules

/-- The nodes of the condition of a rule, with their places. -/
def Rule.nodes (r : Rule) : List (String × Condition) :=
  (r.condition.map (·.nodesAt "when")).getD []

/-- The shape of the reason of a rule. Without a condition it is one failed node. -/
def Rule.shape [Regex.Engine] (r : Rule) : Shape :=
  (r.condition.map (·.shape)).getD (.single .error)

/-- What evaluation and validation of a rule agree on, for the reason of its condition. -/
structure Rule.Agrees [Regex.Engine] (r : Rule) (reason : Reason) : Prop where
  /-- The reason has the shape of the condition. -/
  shape : reason.shape = r.shape
  /-- From first to last, there is one node in the reason for each node of the condition. -/
  kinds : r.condition.isSome → reason.nodes.map (·.kind) = r.nodes.map (·.2.reasonKind)
  /-- A node that is not broken comes to a node of the kind that its type names. -/
  named : ∀ n ∈ r.nodes, n.2.isBroken = false → n.2.typeName? = some n.2.reasonKind.word
  /-- Every broken node is reported at its place. -/
  reported : ∀ n ∈ r.nodes, n.2.isBroken = true →
    ∃ i ∈ r.validate.all, i.code ∈ Condition.brokenCodes ∧ Path.startsWith i.path n.1 = true
  /-- Nothing else is reported so. -/
  founded : ∀ i ∈ r.validate.all, i.code ∈ Condition.brokenCodes →
    ∃ n ∈ r.nodes, n.2.isBroken = true ∧ Path.startsWith i.path n.1 = true
  /-- A missing condition is reported, and no other one. -/
  missing : r.validate.hasCode "E002" = true ↔ r.condition = none
  /-- The reason has a failed node exactly if something of this is reported. -/
  failed : (∃ n ∈ reason.nodes, n.kind = .error) ↔
    ∃ code ∈ "E002" :: Condition.brokenCodes, r.validate.hasCode code = true

namespace Rule

variable [Regex.Engine] {r : Rule}

theorem mem_conditionFindings_iff {c : Condition} (found : r.condition = some c) {f : Finding} :
    f ∈ r.conditionFindings ↔ ∃ n ∈ r.nodes, f ∈ n.2.nodeFindings n.1 := by
  simp only [conditionFindings, nodes, found, c.findings_eq_flatMap, List.mem_flatMap,
    Option.map_some, Option.getD_some]

theorem exists_issue_of_isBroken {n : String × Condition} (mem : n ∈ r.nodes)
    (broken : n.2.isBroken = true) :
    ∃ i ∈ r.validate.all, i.code ∈ Condition.brokenCodes ∧
      Path.startsWith i.path n.1 = true := by
  cases found : r.condition with
  | none => simp [nodes, found] at mem
  | some c =>
    obtain ⟨f, inNode, code, place⟩ :=
      Condition.exists_mem_nodeFindings_of_isBroken broken n.1
    have inRule : f ∈ r.findings :=
      mem_findings_of_mem_conditionFindings ((mem_conditionFindings_iff found).2 ⟨n, mem, inNode⟩)
    exact ⟨_, mem_validate_all_iff.2 ⟨f, inRule, rfl⟩, code, place.startsWith⟩

/-- What has a code of broken nodes is found in a broken node. -/
theorem exists_isBroken_of_mem_findings {f : Finding} (mem : f ∈ r.findings)
    (code : f.code ∈ Condition.brokenCodes) :
    ∃ n ∈ r.nodes, n.2.isBroken = true ∧ f.IsAt n.1 := by
  have apart : ∀ code ∈ Condition.brokenCodes, code ∉ otherCodes := by decide
  rcases mem_findings mem with mem | other
  · cases found : r.condition with
    | none =>
      -- A missing condition is found, but under a code of its own.
      rw [conditionFindings, found] at mem
      rw [List.mem_singleton.1 mem, Finding.code_error] at code
      exact absurd code (by decide)
    | some c =>
      obtain ⟨n, inRule, inNode⟩ := (mem_conditionFindings_iff found).1 mem
      exact ⟨n, inRule, Condition.isBroken_of_mem_nodeFindings inNode code⟩
  · exact absurd other (apart _ code)

theorem exists_isBroken_of_mem_all {i : Issue} (mem : i ∈ r.validate.all)
    (code : i.code ∈ Condition.brokenCodes) :
    ∃ n ∈ r.nodes, n.2.isBroken = true ∧ Path.startsWith i.path n.1 = true := by
  obtain ⟨f, inRule, rfl⟩ := mem_validate_all_iff.1 mem
  obtain ⟨n, node, broken, place⟩ := exists_isBroken_of_mem_findings inRule code
  exact ⟨n, node, broken, place.startsWith⟩

/-- Some code of broken nodes is reported exactly if some node is broken. -/
theorem hasCode_brokenCodes_iff :
    (∃ code ∈ Condition.brokenCodes, r.validate.hasCode code = true) ↔
      ∃ n ∈ r.nodes, n.2.isBroken = true := by
  constructor
  · rintro ⟨code, known, has⟩
    obtain ⟨f, mem, rfl⟩ := hasCode_validate_iff.1 has
    obtain ⟨n, node, broken, -⟩ := exists_isBroken_of_mem_findings mem known
    exact ⟨n, node, broken⟩
  · rintro ⟨n, node, broken⟩
    obtain ⟨i, mem, code, -⟩ := exists_issue_of_isBroken node broken
    exact ⟨i.code, code, List.any_eq_true.2 ⟨i, mem, by simp⟩⟩

/-- Only a missing condition has the code of one. -/
theorem hasCode_missing_iff : r.validate.hasCode "E002" = true ↔ r.condition = none := by
  rw [hasCode_validate_iff]
  constructor
  · rintro ⟨f, mem, code⟩
    rcases mem_findings mem with mem | other
    · cases found : r.condition with
      | none => rfl
      | some c =>
        obtain ⟨n, -, inNode⟩ := (mem_conditionFindings_iff found).1 mem
        have known := Condition.code_of_mem_nodeFindings inNode
        rw [code] at known
        exact absurd known (by decide)
    · rw [code] at other
      exact absurd other (by decide)
  · intro missing
    refine ⟨.error "E002" "when" "rule has no condition", ?_, rfl⟩
    exact mem_findings_of_mem_conditionFindings (by simp [conditionFindings, missing])

/-! ## The reason of the condition -/

/-- What the condition of a rule comes to, given what the sources hold. -/
def judge (r : Rule) (value? : String → Option SourceValue) : Reason :=
  (r.condition.map (·.judge value?)).getD .noCondition

/-- Where reads are not strict, the condition of a rule comes to a reason. -/
theorem result_condition (r : Rule) {a : Access} (lenient : a.strict = false) :
    ((RuleProgram.ofRule r).condition a).result =
      .ok (r.judge (a.registry.value? a.moduleId a.view)) := by
  show (RuleProgram.conditionOf r a).result = _
  unfold RuleProgram.conditionOf judge
  cases r.condition with
  | none => rfl
  | some c => exact c.result_evaluate (Access.result_read lenient)

variable (value? : String → Option SourceValue)

theorem shape_judge : (r.judge value?).shape = r.shape := by
  unfold judge shape
  cases r.condition with
  | none => rfl
  | some c => exact c.shape_judge value?

theorem kinds_nodes_judge {c : Condition} (found : r.condition = some c) :
    (r.judge value?).nodes.map (·.kind) = r.nodes.map (·.2.reasonKind) := by
  simp only [judge, nodes, found, Option.map_some, Option.getD_some]
  exact c.kinds_nodes_judge value? "when"

/-- The reason of a condition has a failed node exactly if the condition has a broken one. -/
theorem error_mem_kinds_iff {c : Condition} (found : r.condition = some c) :
    (∃ n ∈ (r.judge value?).nodes, n.kind = .error) ↔ ∃ n ∈ r.nodes, n.2.isBroken = true := by
  have kinds := kinds_nodes_judge value? found
  calc (∃ n ∈ (r.judge value?).nodes, n.kind = .error)
    _ ↔ .error ∈ (r.judge value?).nodes.map (·.kind) := by simp [List.mem_map]
    _ ↔ .error ∈ r.nodes.map (·.2.reasonKind) := by rw [kinds]
    _ ↔ ∃ n ∈ r.nodes, n.2.reasonKind = .error := by simp [List.mem_map]
    _ ↔ ∃ n ∈ r.nodes, n.2.isBroken = true := by simp only [Condition.reasonKind_eq_error_iff]

theorem exists_error_iff :
    (∃ n ∈ (r.judge value?).nodes, n.kind = .error) ↔
      ∃ code ∈ "E002" :: Condition.brokenCodes, r.validate.hasCode code = true := by
  simp only [List.mem_cons, or_and_right, exists_or, exists_eq_left, hasCode_missing_iff,
    hasCode_brokenCodes_iff]
  cases found : r.condition with
  | none =>
    have judged : r.judge value? = .noCondition := by simp [judge, found]
    rw [judged]
    exact ⟨fun _ => .inl rfl, fun _ => ⟨.noCondition, Reason.self_mem_nodes _, rfl⟩⟩
  | some c => simpa using error_mem_kinds_iff value? found

end Rule

/-- **Validation and evaluation agree on what is broken in a rule.** Where reads are not
    strict, the condition of every rule comes to a reason, whatever the sources hold, and
    the rule and this reason agree. -/
theorem validation_agrees [Regex.Engine] (r : Rule) (a : Access) (lenient : a.strict = false) :
    ∃ reason, ((RuleProgram.ofRule r).condition a).result = .ok reason ∧ r.Agrees reason := by
  let value? := a.registry.value? a.moduleId a.view
  refine ⟨r.judge value?, r.result_condition lenient, ?_⟩
  exact {
    shape := r.shape_judge value?
    kinds := fun some => by
      obtain ⟨c, found⟩ := Option.isSome_iff_exists.1 some
      exact Rule.kinds_nodes_judge value? found
    named := fun _ _ sound => Condition.typeName?_of_not_isBroken sound
    reported := fun _ mem broken => Rule.exists_issue_of_isBroken mem broken
    founded := fun _ mem code => Rule.exists_isBroken_of_mem_all mem code
    missing := Rule.hasCode_missing_iff
    failed := Rule.exists_error_iff value? }

/-- A rule with a refused pattern beside the negation of what is no condition. -/
theorem validation_agrees_of_refused_pattern :
    let r : Rule :=
      { id := "a"
        condition := some
          (.or [.check "s" (.regexHit "(" ""), .not (some (.invalid (.string "x")))]) }
    let a : Access := { registry := {}, view := {}, moduleId := "m" }
    a.strict = false ∧ r.validate.hasCode "E007" = true ∧
      ∃ reason, ((RuleProgram.ofRule r).condition a).result = .ok reason ∧ r.Agrees reason ∧
        reason.shape =
          .node .or [.single .error, .node .not [] (some (.single .error))] none := by
  intro r a
  obtain ⟨reason, result, agrees⟩ := validation_agrees r a rfl
  have refused : r.validate.hasCode "E007" = true := by decide +kernel
  have shape : r.shape =
      .node .or [.single .error, .node .not [] (some (.single .error))] none := by
    have fault : (Test.regexHit "(" "").fault?.isSome = true := by decide +kernel
    simp [r, Rule.shape, Condition.shape, Condition.shapes, Condition.childShape,
      Condition.reasonKind, fault]
  exact ⟨rfl, refused, reason, result, agrees, agrees.shape.trans shape⟩

end ChatRules
