import ChatRules.Proofs.EffectTree.Fragments
import ChatRules.Proofs.Rule.Findings
import ChatRules.Rule.Program

/-!
# The effects of a rule

A rule declares fragments by path. If every path is well formed, they make a tree that has
them at their paths and nothing else; one malformed path is enough that there is no tree.
Validation reports the malformed paths of effects at places of their own.

Results:

* `effectTree?_of_malformed`, `exists_effectTree_of_wellFormed`: the tree of a rule.
* `declared_eq`: what a rule declares for a path is what stands there in the dictionary
  of its effects.
* `malformedKey?_isSome_iff`: validation reports malformed paths of effects, and reports
  nothing else in that way.
-/

namespace ChatRules

namespace Rule

/-- The first path in the effects of a rule that is malformed. -/
def malformedKey? (r : Rule) : Option String :=
  ((r.effects.getD []).find? fun e => !Path.isWellFormed e.1).map (·.1)

/-- The fragments that a rule declares for a path. -/
def declared (path : String) (r : Rule) : List String :=
  (r.effects.getD []).flatMap fun e => if path = e.1 then e.2.texts else []

variable {r : Rule} {es : List (String × Fragments)}

theorem declared_of_none (given : r.effects = none) (path : String) : r.declared path = [] := by
  simp [declared, given]

/-- In a dictionary of effects there is at most one entry for a path. -/
theorem declared_eq (given : r.effects = some es) (unique : (es.map (·.1)).Nodup)
    (path : String) :
    r.declared path = ((Dict.find? path es).map Fragments.texts).getD [] := by
  simp only [declared, given, Option.getD_some]
  exact Dict.flatMap_ite_eq unique path Fragments.texts

/-- A malformed path is the error of the whole tree. -/
theorem effectTree?_of_malformed {key : String} (malformed : r.malformedKey? = some key) :
    r.effectTree? = some (.error (.malformedPath key)) := by
  cases given : r.effects with
  | none => simp [malformedKey?, given] at malformed
  | some es =>
    simp only [malformedKey?, given, Option.getD_some, Option.map_eq_some_iff] at malformed
    obtain ⟨e, first, rfl⟩ := malformed
    have firstEntry : (es.map fun e => (e.1, e.2.texts)).find?
        (fun e => !Path.isWellFormed e.1) = some (e.1, e.2.texts) := by
      rw [List.find?_map]
      exact congrArg (Option.map _) first
    simp only [effectTree?, given, Option.map_some, EffectTree.ofPaths,
      EffectTree.insertAll_of_malformed firstEntry]

/-- Without malformed paths the tree of a rule has at every path what the rule declares. -/
theorem exists_effectTree_of_wellFormed (given : r.effects = some es)
    (wellFormed : r.malformedKey? = none) :
    ∃ tree, r.effectTree? = some (.ok tree) ∧
      ∀ path, tree.fragments path = r.declared path := by
  have keys : ∀ e ∈ es.map fun e => (e.1, e.2.texts), Path.isWellFormed e.1 = true := by
    have none : es.find? (fun e => !Path.isWellFormed e.1) = none := by
      simpa [malformedKey?, given] using wellFormed
    intro e mem
    obtain ⟨entry, inRule, rfl⟩ := List.mem_map.1 mem
    simpa using List.find?_eq_none.1 none entry inRule
  obtain ⟨tree, made, atPath⟩ := EffectTree.fragments_insertAll keys .empty
  refine ⟨tree, ?_, fun path => ?_⟩
  · simp only [effectTree?, given, Option.map_some, EffectTree.ofPaths, made]
  · rw [atPath, EffectTree.fragments_empty, List.nil_append]
    simp only [EffectTree.fragmentsFor, declared, given, Option.getD_some, List.flatMap_map]

/-! ## Validation -/

theorem eq_of_mem_pathFindings {place kind path : String} {f : Finding}
    (mem : f ∈ r.pathFindings place kind path) (code : f.code = "E009") :
    Path.isWellFormed path = false ∧ f.path = place := by
  unfold pathFindings at mem
  split at mem
  · rename_i malformed
    rw [List.mem_singleton.1 mem]
    exact ⟨by simpa using malformed, rfl⟩
  · split at mem
    · cases mem
    · rw [List.mem_singleton.1 mem, Finding.code_warning] at code
      exact absurd code (by decide)

/-- A malformed path that is found is a target, a path of effects, or the path of a write. -/
theorem mem_of_malformedPath {f : Finding} (mem : f ∈ r.findings) (code : f.code = "E009") :
    f ∈ r.targetFindings ∨ f ∈ r.effectFindings ∨ f ∈ r.writeFindings := by
  simp only [findings, headFindings, List.mem_append] at mem
  rcases mem with ((((id | priority) | condition) | target) | effect) | write
  · split at id
    · rw [List.mem_singleton.1 id, Finding.code_error] at code
      exact absurd code (by decide)
    · cases id
  · split at priority
    · cases priority
    · rw [List.mem_singleton.1 priority, Finding.code_error] at code
      exact absurd code (by decide)
  · have notNode : "E009" ∉ Condition.brokenCodes ∧ "E009" ∉ Condition.warningCodes := by
      decide
    unfold conditionFindings at condition
    split at condition
    · rename_i c _
      rw [c.findings_eq_flatMap] at condition
      obtain ⟨n, -, inNode⟩ := List.mem_flatMap.1 condition
      have known := Condition.code_of_mem_nodeFindings inNode
      rw [code] at known
      exact absurd known (not_or.2 notNode)
    · rw [List.mem_singleton.1 condition, Finding.code_error] at code
      exact absurd code (by decide)
  · exact .inl target
  · exact .inr (.inl effect)
  · exact .inr (.inr write)

theorem exists_place_of_mem_targetFindings {f : Finding} (mem : f ∈ r.targetFindings) :
    ∃ rest, f.path = "targets[" ++ rest := by
  obtain ⟨⟨target, i⟩, -, found⟩ := List.mem_flatMap.1 mem
  dsimp only at found
  split at found
  · cases found
  · rw [List.mem_singleton.1 found, Finding.path_error, String.append_assoc]
    exact ⟨_, rfl⟩

theorem startsWith_of_mem_targetFindings {f : Finding} (mem : f ∈ r.targetFindings) :
    Path.startsWith f.path "effects." = false := by
  obtain ⟨rest, place⟩ := exists_place_of_mem_targetFindings mem
  rw [place]
  unfold Path.startsWith Path.after?
  rw [String.toList_append]
  rfl

/-- A malformed path that is found in the write is reported at its place there. -/
theorem exists_of_mem_writeFindings {f : Finding} (mem : f ∈ r.writeFindings)
    (code : f.code = "E009") :
    ∃ w path, r.write = some w ∧ w.path = some path ∧ Path.isWellFormed path = false ∧
      f.path = "write.path" := by
  unfold writeFindings at mem
  split at mem
  · rw [Condition.code_of_mem_ite mem] at code
    exact absurd code (by decide)
  · rename_i w given
    split at mem
    · rename_i path named
      exact ⟨w, path, given, named, eq_of_mem_pathFindings mem code⟩
    · split at mem
      · rw [List.mem_singleton.1 mem, Finding.code_error] at code
        exact absurd code (by decide)
      · cases mem

/-- A malformed path that is found among the effects is reported at its place there. -/
theorem exists_of_mem_effectFindings {f : Finding} (mem : f ∈ r.effectFindings)
    (code : f.code = "E009") :
    ∃ es, r.effects = some es ∧
      ∃ e ∈ es, Path.isWellFormed e.1 = false ∧ f.path = "effects." ++ e.1 := by
  unfold effectFindings at mem
  split at mem
  · cases mem
  · rw [List.mem_singleton.1 mem, Finding.code_warning] at code
    exact absurd code (by decide)
  · rename_i es _ given
    obtain ⟨e, inRule, found⟩ := List.mem_flatMap.1 mem
    exact ⟨es, given, e, inRule, eq_of_mem_pathFindings found code⟩

theorem malformedKey?_isSome (given : r.effects = some es) :
    r.malformedKey?.isSome ↔ ∃ e ∈ es, Path.isWellFormed e.1 = false := by
  simp [malformedKey?, given, List.find?_isSome]

/-- **Validation reports the malformed paths of effects**: there is one exactly if a
    malformed path is reported at a place in the effects. -/
theorem malformedKey?_isSome_iff :
    r.malformedKey?.isSome ↔
      ∃ i ∈ r.validate.all, i.code = "E009" ∧ Path.startsWith i.path "effects." = true := by
  constructor
  · intro malformed
    cases given : r.effects with
    | none => simp [malformedKey?, given] at malformed
    | some es =>
      obtain ⟨e, inRule, malformed⟩ := (malformedKey?_isSome given).1 malformed
      let f : Finding := .error "E009" ("effects." ++ e.1)
        ("malformed effect path " ++ Text.quoted e.1)
      have found : f ∈ r.effectFindings := by
        unfold effectFindings
        rw [given]
        cases es with
        | nil => cases inRule
        | cons first rest =>
          refine List.mem_flatMap.2 ⟨e, inRule, ?_⟩
          simp [pathFindings, malformed, f]
      refine ⟨f.toIssue r.id, mem_validate_all_iff.2 ⟨f, ?_, rfl⟩, rfl, ?_⟩
      · simp [findings, found]
      · exact Path.startsWith_iff.2 ⟨e.1, rfl⟩
  · rintro ⟨i, mem, code, place⟩
    obtain ⟨f, found, rfl⟩ := mem_validate_all_iff.1 mem
    have inEffects : Path.startsWith f.path "effects." = true := place
    rcases mem_of_malformedPath found code with target | effect | write
    · rw [startsWith_of_mem_targetFindings target] at inEffects
      cases inEffects
    · obtain ⟨es, given, e, inRule, malformed, -⟩ := exists_of_mem_effectFindings effect code
      exact (malformedKey?_isSome given).2 ⟨e, inRule, malformed⟩
    · obtain ⟨-, -, -, -, -, inWrite⟩ := exists_of_mem_writeFindings write code
      rw [inWrite] at inEffects
      exact absurd inEffects (by decide +kernel)

end Rule

end ChatRules
