import ChatRules.Proofs.Rule.Effects

/-!
# Rules that declare what they change

Validation warns of a path among the effects of a rule, and of the path of its write, that
is not one of the targets of the rule. Where it says nothing, these paths are targets.

Results:

* `SetIssues.mem_ofRules`: what is found in a rule is reported of every set that it is in.
* `pathFindings_eq_nil_iff`: nothing is found about a path that is well formed and a target.
* `mem_targets_of_declared`, `mem_targets_of_write`: the paths of a rule are targets.
-/

namespace ChatRules

namespace IssueList

variable {i : Issue}

theorem mem_all_append {a b : IssueList} : i ∈ (a.append b).all ↔ i ∈ a.all ∨ i ∈ b.all := by
  simp only [all, append, List.mem_append]
  exact or_or_or_comm

end IssueList

/-! ## Sets of rules -/

namespace SetIssues

theorem mem_ofRule (before : List String) {r : Rule} {f : Finding} (found : f ∈ r.findings) :
    f.toIssue r.id ∈ (ofRule before r).all :=
  IssueList.mem_all_ofIssues.2 (List.mem_append_left _ (List.mem_map_of_mem found))

/-- What is reported stays reported when rules follow. -/
theorem mem_collect {s : SetIssues} {i : Issue} (reported : i ∈ s.all.all)
    (before : List String) (rules : List Rule) : i ∈ (collect before s rules).all.all := by
  induction rules generalizing before s with
  | nil => exact reported
  | cons r rest ih => exact ih (IssueList.mem_all_append.2 (.inl reported)) _

theorem mem_collect_of_mem_findings {rules : List Rule} {r : Rule} (mem : r ∈ rules)
    {f : Finding} (found : f ∈ r.findings) (before : List String) (s : SetIssues) :
    f.toIssue r.id ∈ (collect before s rules).all.all := by
  induction rules generalizing before s with
  | nil => cases mem
  | cons first rest ih =>
    rcases List.mem_cons.1 mem with rfl | later
    · exact mem_collect (IssueList.mem_all_append.2 (.inr (mem_ofRule before found))) _ rest
    · exact ih later _ _

/-- What is found in a rule is reported of every set of rules that it is in. -/
theorem mem_ofRules {rules : List Rule} {r : Rule} (mem : r ∈ rules) {f : Finding}
    (found : f ∈ r.findings) : f.toIssue r.id ∈ (ofRules rules).all.all :=
  mem_collect_of_mem_findings mem found [] {}

end SetIssues

/-! ## Paths -/

namespace Rule

variable {r : Rule} {place kind path : String}

theorem path_of_mem_pathFindings {f : Finding} (mem : f ∈ r.pathFindings place kind path) :
    f.path = place := by
  unfold pathFindings at mem
  split at mem
  · rw [List.mem_singleton.1 mem, Finding.path_error]
  · split at mem
    · cases mem
    · rw [List.mem_singleton.1 mem]
      rfl

theorem pathFindings_eq_nil_iff :
    r.pathFindings place kind path = [] ↔ Path.isWellFormed path = true ∧ path ∈ r.targets := by
  unfold pathFindings
  cases Path.isWellFormed path <;> by_cases mem : path ∈ r.targets <;> simp [mem]

theorem exists_entry_of_declared (declared : r.declared path ≠ []) :
    ∃ es, r.effects = some es ∧ ∃ e ∈ es, path = e.1 := by
  obtain ⟨fragment, mem⟩ := List.exists_mem_of_ne_nil _ declared
  obtain ⟨e, inRule, atPath⟩ := List.mem_flatMap.1 mem
  cases given : r.effects with
  | none => simp [given] at inRule
  | some es =>
    rw [given] at inRule
    split at atPath
    · exact ⟨es, rfl, e, inRule, ‹path = e.1›⟩
    · cases atPath

theorem mem_findings_of_effect {es : List (String × Fragments)} (given : r.effects = some es)
    {e : String × Fragments} (inRule : e ∈ es) {f : Finding}
    (found : f ∈ r.pathFindings ("effects." ++ e.1) "effect" e.1) : f ∈ r.findings := by
  have inEffects : f ∈ r.effectFindings := by
    unfold effectFindings
    rw [given]
    cases es with
    | nil => cases inRule
    | cons first rest => exact List.mem_flatMap.2 ⟨e, inRule, found⟩
  simp [findings, inEffects]

/-- Every path for which a rule declares something is a target, if nothing is said against
    its effects. -/
theorem mem_targets_of_declared
    (clean : ∀ f ∈ r.findings, f.code = "W001" ∨ f.code = "E009" →
      Path.startsWith f.path "effects." = false)
    (declared : r.declared path ≠ []) : path ∈ r.targets := by
  obtain ⟨es, given, e, inRule, rfl⟩ := exists_entry_of_declared declared
  have silent : r.pathFindings ("effects." ++ e.1) "effect" e.1 = [] := by
    refine List.eq_nil_iff_forall_not_mem.2 fun f found => ?_
    have outside := clean f (mem_findings_of_effect given inRule found)
      (code_of_mem_pathFindings found).symm
    have inside : Path.startsWith f.path "effects." = true :=
      Path.startsWith_iff.2 ⟨e.1, path_of_mem_pathFindings found⟩
    exact Bool.noConfusion (inside.symm.trans outside)
  exact (pathFindings_eq_nil_iff.1 silent).2

/-- The path of a write is a target, if nothing is said against it. -/
theorem mem_targets_of_write {w : Write}
    (clean : ∀ f ∈ r.findings, f.code ≠ "W001" ∧ f.code ≠ "E009")
    (given : r.write = some w) (named : w.path = some path) : path ∈ r.targets := by
  have silent : r.pathFindings "write.path" "write" path = [] := by
    refine List.eq_nil_iff_forall_not_mem.2 fun f found => ?_
    have inWrite : f ∈ r.writeFindings := by
      simpa [writeFindings, given, named] using found
    obtain ⟨notW001, notE009⟩ := clean f (by simp [findings, inWrite])
    exact (code_of_mem_pathFindings found).elim notE009 notW001
  exact (pathFindings_eq_nil_iff.1 silent).2

end Rule

end ChatRules
