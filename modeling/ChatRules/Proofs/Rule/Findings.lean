import ChatRules.Proofs.Condition.Shape
import ChatRules.Rule.Validation

/-!
# Findings by node

Validation walks through a condition and spells the place of every node on its
way. What it finds is what it finds in the nodes one by one.

Results:

* `findings_eq_flatMap`: the findings in a condition are those in its nodes.
* `isBroken_of_mem_nodeFindings`, `exists_mem_nodeFindings_of_isBroken`: a node is
  broken exactly if one of its findings has a code of broken nodes.
* `mem_findings`: what is found in a rule outside its condition has other codes.
-/

namespace ChatRules

/-- Whether a finding is about a place: it names the place, or a field there. -/
def Finding.IsAt (f : Finding) (place : String) : Prop :=
  f.path = place ∨ ∃ field, f.path = place ++ "." ++ field

theorem Finding.IsAt.startsWith {f : Finding} {place : String} (h : f.IsAt place) :
    Path.startsWith f.path place = true := by
  refine Path.startsWith_iff.2 ?_
  rcases h with eq | ⟨field, eq⟩
  · exact ⟨"", by simpa using eq⟩
  · exact ⟨"." ++ field, by rw [eq, String.append_assoc]⟩

namespace Condition

/-- The codes of findings in nodes that are broken: an unknown type, a malformed node,
    and a refused pattern. -/
def brokenCodes : List String := ["E003", "E004", "E007"]

/-- The findings in a node, without those in its parts. -/
def nodeFindings [Regex.Engine] (path : String) : Condition → List Finding
  | .check _ test => test.findings path
  | .not none => [.warning "W009" path "not without a child always passes"]
  | .invalid raw => invalidFindings path raw
  | _ => []

theorem childrenFindings_eq_flatMap [Regex.Engine] {children : List Condition}
    (parts : ∀ c ∈ children, ∀ path,
      c.findings path = (c.nodesAt path).flatMap fun n => n.2.nodeFindings n.1)
    (path : String) (i : Nat) :
    childrenFindings path i children =
      (childrenNodesAt path i children).flatMap fun n => n.2.nodeFindings n.1 := by
  induction children generalizing i with
  | nil => rfl
  | cons c rest ih =>
    obtain ⟨first, others⟩ := List.forall_mem_cons.1 parts
    rw [childrenFindings, childrenNodesAt, List.flatMap_append, first, ih others]

/-- The findings in a condition are those in its nodes, from first to last. -/
theorem findings_eq_flatMap [Regex.Engine] (c : Condition) (path : String) :
    c.findings path = (c.nodesAt path).flatMap fun n => n.2.nodeFindings n.1 := by
  induction c using induction generalizing path with
  | check source test => simp [findings, nodesAt, nodeFindings]
  | and children ih =>
    rw [findings, nodesAt, List.flatMap_cons, childrenFindings_eq_flatMap ih]
    rfl
  | or children ih =>
    rw [findings, nodesAt, List.flatMap_cons, childrenFindings_eq_flatMap ih]
    rfl
  | not child ih =>
    cases child with
    | none => simp [findings, nodesAt, nodeFindings]
    | some c =>
      rw [findings, nodesAt, List.flatMap_cons, ih c rfl]
      rfl
  | invalid raw => simp [findings, nodesAt, nodeFindings]

/-! ## Tests -/

/-- The codes of findings that are only suspicious. -/
def warningCodes : List String :=
  ["W001", "W002", "W003", "W004", "W005", "W006", "W007", "W008", "W009"]

theorem code_of_mem_ite {p : Prop} [Decidable p] {code place message : String} {f : Finding}
    (mem : f ∈ if p then [Finding.warning code place message] else []) : f.code = code := by
  split at mem
  · rw [List.mem_singleton.1 mem, Finding.code_warning]
  · cases mem

theorem code_of_mem_termFindings {path term : String} {mode : MatchMode} {f : Finding}
    (mem : f ∈ Test.termFindings path term mode) : f.code ∈ warningCodes := by
  unfold Test.termFindings at mem
  split at mem
  · rw [List.mem_singleton.1 mem, Finding.code_warning]
    decide
  · rw [code_of_mem_ite mem]
    decide

theorem code_of_mem_termsFindings {path : String} {terms : List String} {mode : MatchMode}
    {f : Finding} (mem : f ∈ Test.termsFindings path terms mode) : f.code ∈ warningCodes := by
  obtain ⟨⟨term, i⟩, -, mem⟩ := List.mem_flatMap.1 mem
  exact code_of_mem_termFindings mem

/-- A test has only one finding that is not a warning: the refusal of its pattern. -/
theorem eq_refusal_of_mem_findings [Regex.Engine] {path : String} {test : Test} {f : Finding}
    (mem : f ∈ test.findings path) :
    f.code ∈ warningCodes ∨
      ∃ e, test.fault? = some e ∧ f = .error "E007" (path ++ ".pattern") e.message := by
  cases test with
  | termHit term mode => exact .inl (code_of_mem_termFindings mem)
  | anyTerms terms mode => exact .inl (code_of_mem_termsFindings mem)
  | allTerms terms mode =>
    rcases List.mem_append.1 mem with noTerms | term
    · exact .inl (by rw [code_of_mem_ite noTerms]; decide)
    · exact .inl (code_of_mem_termsFindings term)
  | phraseHit phrase =>
    simp only [Test.findings] at mem
    exact .inl (by rw [code_of_mem_ite mem]; decide)
  | regexHit pattern flags =>
    simp only [Test.findings] at mem
    split at mem
    · rename_i e fault
      exact .inr ⟨e, fault, List.mem_singleton.1 mem⟩
    · cases mem
  | countInWindow terms window least mode =>
    rcases List.mem_append.1 mem with size | term
    · split at size
      · rw [List.mem_singleton.1 size, Finding.code_warning]
        exact .inl (by decide)
      · exact .inl (by rw [code_of_mem_ite size]; decide)
    · exact .inl (code_of_mem_termsFindings term)
  | numberCompare op value => cases mem

theorem refusal_mem_findings [Regex.Engine] {test : Test} {e : Regex.CompileError}
    (fault : test.fault? = some e) (path : String) :
    .error "E007" (path ++ ".pattern") e.message ∈ test.findings path := by
  cases test with
  | regexHit pattern flags => simp [Test.findings, fault]
  | _ => cases fault

/-! ## Values that are no conditions -/

theorem eq_of_fieldFinding?_eq_some {raw : Json} {path type : String}
    {field : String × FieldForm} {f : Finding}
    (found : fieldFinding? raw path type field = some f) :
    ∃ message, f = .error "E004" (path ++ "." ++ field.1) message := by
  unfold fieldFinding? at found
  dsimp only at found
  split at found
  · exact ⟨_, (Option.some.inj found).symm⟩
  · split at found
    · cases found
    · exact ⟨_, (Option.some.inj found).symm⟩

/-- Whatever a value is, there is something wrong with it as a condition, and everything
    that is wrong is about its place. -/
theorem mem_invalidFindings {raw : Json} {path : String} {f : Finding}
    (mem : f ∈ invalidFindings path raw) : f.code ∈ brokenCodes ∧ f.IsAt path := by
  unfold invalidFindings at mem
  split at mem
  · rw [List.mem_singleton.1 mem]
    exact ⟨by simp [brokenCodes], .inl rfl⟩
  · split at mem
    · split at mem
      · rw [List.mem_singleton.1 mem]
        exact ⟨by simp [brokenCodes], .inl rfl⟩
      · obtain ⟨field, -, found⟩ := List.mem_filterMap.1 mem
        obtain ⟨message, rfl⟩ := eq_of_fieldFinding?_eq_some found
        exact ⟨by simp [brokenCodes], .inr ⟨field.1, rfl⟩⟩
    · rw [List.mem_singleton.1 mem]
      exact ⟨by simp [brokenCodes], .inr ⟨"type", by simp [String.append_assoc]⟩⟩
  · rw [List.mem_singleton.1 mem]
    exact ⟨by simp [brokenCodes], .inr ⟨"type", by simp [String.append_assoc]⟩⟩

theorem invalidFindings_ne_nil (raw : Json) (path : String) : invalidFindings path raw ≠ [] := by
  unfold invalidFindings
  split
  · simp
  · split
    · split
      · simp
      · assumption
    · simp
  · simp

/-! ## Nodes -/

theorem code_of_mem_nodeFindings [Regex.Engine] {c : Condition} {path : String} {f : Finding}
    (mem : f ∈ c.nodeFindings path) : f.code ∈ brokenCodes ∨ f.code ∈ warningCodes := by
  cases c with
  | check source test =>
    rcases eq_refusal_of_mem_findings mem with warning | ⟨e, -, rfl⟩
    · exact .inr warning
    · exact .inl (by simp [brokenCodes])
  | and children => cases mem
  | or children => cases mem
  | not child =>
    cases child with
    | none =>
      rw [List.mem_singleton.1 mem, Finding.code_warning]
      exact .inr (by decide)
    | some c => cases mem
  | invalid raw => exact .inl (mem_invalidFindings mem).1

theorem isBroken_of_mem_nodeFindings [Regex.Engine] {c : Condition} {path : String} {f : Finding}
    (mem : f ∈ c.nodeFindings path) (code : f.code ∈ brokenCodes) :
    c.isBroken = true ∧ f.IsAt path := by
  cases c with
  | check source test =>
    rcases eq_refusal_of_mem_findings mem with warning | ⟨e, fault, rfl⟩
    · have : ∀ code ∈ brokenCodes, code ∉ warningCodes := by decide
      exact absurd warning (this _ code)
    · exact ⟨by simp [isBroken, fault], .inr ⟨"pattern", by simp [String.append_assoc]⟩⟩
  | and children => cases mem
  | or children => cases mem
  | not child =>
    cases child with
    | none =>
      rw [List.mem_singleton.1 mem, Finding.code_warning] at code
      exact absurd code (by decide)
    | some c => cases mem
  | invalid raw => exact ⟨rfl, (mem_invalidFindings mem).2⟩

theorem exists_mem_nodeFindings_of_isBroken [Regex.Engine] {c : Condition}
    (broken : c.isBroken = true) (path : String) :
    ∃ f ∈ c.nodeFindings path, f.code ∈ brokenCodes ∧ f.IsAt path := by
  cases c with
  | check source test =>
    obtain ⟨e, fault⟩ := Option.isSome_iff_exists.1 broken
    exact ⟨_, refusal_mem_findings fault path, by simp [brokenCodes],
      .inr ⟨"pattern", by simp [String.append_assoc]⟩⟩
  | invalid raw =>
    obtain ⟨f, mem⟩ := List.exists_mem_of_ne_nil _ (invalidFindings_ne_nil raw path)
    exact ⟨f, mem, mem_invalidFindings mem⟩
  | _ => cases broken

end Condition

/-! ## Rules -/

theorem IssueList.mem_all_ofIssues {issues : List Issue} {i : Issue} :
    i ∈ (ofIssues issues).all ↔ i ∈ issues := by
  have either : i.severity = .error ∨ i.severity = .warning := by
    cases i.severity
    · exact .inl rfl
    · exact .inr rfl
  simp only [all, ofIssues, List.mem_append, List.mem_filter, beq_iff_eq, ← and_or_left, either,
    and_true]

namespace Rule

theorem code_of_mem_pathFindings {r : Rule} {place kind path : String} {f : Finding}
    (mem : f ∈ r.pathFindings place kind path) : f.code = "E009" ∨ f.code = "W001" := by
  unfold pathFindings at mem
  split at mem
  · exact .inl (by rw [List.mem_singleton.1 mem, Finding.code_error])
  · split at mem
    · cases mem
    · exact .inr (by rw [List.mem_singleton.1 mem, Finding.code_warning])

/-- The codes of findings that are not about the condition of a rule. -/
def otherCodes : List String := ["E001", "E005", "E008", "E009", "W001", "W002", "W005"]

theorem code_of_mem_targetFindings {r : Rule} {f : Finding} (mem : f ∈ r.targetFindings) :
    f.code ∈ otherCodes := by
  obtain ⟨⟨target, i⟩, -, mem⟩ := List.mem_flatMap.1 mem
  dsimp only at mem
  split at mem
  · cases mem
  · rw [List.mem_singleton.1 mem, Finding.code_error]
    decide

theorem code_of_mem_effectFindings {r : Rule} {f : Finding} (mem : f ∈ r.effectFindings) :
    f.code ∈ otherCodes := by
  unfold effectFindings at mem
  split at mem
  · cases mem
  · rw [List.mem_singleton.1 mem, Finding.code_warning]
    decide
  · obtain ⟨e, -, mem⟩ := List.mem_flatMap.1 mem
    rcases code_of_mem_pathFindings mem with code | code <;> rw [code] <;> decide

theorem code_of_mem_writeFindings {r : Rule} {f : Finding} (mem : f ∈ r.writeFindings) :
    f.code ∈ otherCodes := by
  unfold writeFindings at mem
  split at mem
  · rw [Condition.code_of_mem_ite mem]
    decide
  · split at mem
    · rcases code_of_mem_pathFindings mem with code | code <;> rw [code] <;> decide
    · split at mem
      · rw [List.mem_singleton.1 mem, Finding.code_error]
        decide
      · cases mem

/-- A finding that is not about the condition has a code of its own. -/
theorem mem_findings [Regex.Engine] {r : Rule} {f : Finding} (mem : f ∈ r.findings) :
    f ∈ r.conditionFindings ∨ f.code ∈ otherCodes := by
  simp only [findings, headFindings, List.mem_append] at mem
  rcases mem with ((((id | priority) | condition) | target) | effect) | write
  · split at id
    · rw [List.mem_singleton.1 id, Finding.code_error]
      exact .inr (by decide)
    · cases id
  · split at priority
    · cases priority
    · rw [List.mem_singleton.1 priority, Finding.code_error]
      exact .inr (by decide)
  · exact .inl condition
  · exact .inr (code_of_mem_targetFindings target)
  · exact .inr (code_of_mem_effectFindings effect)
  · exact .inr (code_of_mem_writeFindings write)

theorem mem_findings_of_mem_conditionFindings [Regex.Engine] {r : Rule} {f : Finding}
    (mem : f ∈ r.conditionFindings) : f ∈ r.findings := by
  simp [findings, headFindings, mem]

/-- What is reported of a rule is what is found in it. -/
theorem mem_validate_all_iff [Regex.Engine] {r : Rule} {i : Issue} :
    i ∈ r.validate.all ↔ ∃ f ∈ r.findings, f.toIssue r.id = i := by
  rw [validate, IssueList.mem_all_ofIssues, List.mem_map]

theorem hasCode_validate_iff [Regex.Engine] {r : Rule} {code : String} :
    r.validate.hasCode code = true ↔ ∃ f ∈ r.findings, f.code = code := by
  simp only [IssueList.hasCode, List.any_eq_true, beq_iff_eq, mem_validate_all_iff]
  constructor
  · rintro ⟨_, ⟨f, mem, rfl⟩, eq⟩
    exact ⟨f, mem, eq⟩
  · rintro ⟨f, mem, eq⟩
    exact ⟨_, ⟨f, mem, rfl⟩, eq⟩

end Rule

end ChatRules
