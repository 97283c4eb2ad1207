import ChatRules.Config.Check
import ChatRules.Proofs.EffectTree.Leaves
import ChatRules.Proofs.Progressive.Effects

/-!
# What the check of a configuration says of its runs

The check warns of names of targets that lead to paths off the allowed targets, and of a
configuration without allowed targets. It looks up names and targets in the configuration; a
run looks them up in a dictionary and in an ordered set that are made from it. Both come to
the same: a rule that writes by a name is blocked exactly if the check warns of the name.

Results:

* `mem_targetSet`, `sorted_aliases`: what is made from a configuration.
* `reports_alias_iff`: when there is a warning of a name.
* `blocked_of_writesByName`: what a rule comes to that writes by a name.
* `Config.issues_predict_blocked`: the check tells which writes are blocked.
-/

namespace ChatRules

namespace Config

variable {c : Config}

/-- Whether there is an issue with a code for a key. -/
def Reports (c : Config) (code key : String) : Prop :=
  ∃ i ∈ c.issues, i.code = code ∧ i.key = key

instance (c : Config) (code key : String) : Decidable (c.Reports code key) :=
  inferInstanceAs (Decidable (∃ i ∈ c.issues, _))

/-! ## What is made from a configuration -/

theorem mem_targetSet {path : String} : path ∈ c.targetSet ↔ path ∈ c.allowedTargets := by
  have keys : path ∈ c.targetSet ↔
      path ∈ ([] : List (String × Unit)).map (·.1) ∨
        path ∈ (c.allowedTargets.map fun t => (t, ())).map (·.1) := Dict.mem_keys_override
  rw [keys, List.map_map]
  simp

theorem isAllowed_progressiveOptions (path : String) :
    c.progressiveOptions.isAllowed path = c.allowedTargets.contains path := by
  rw [Bool.eq_iff_iff, List.contains_iff_mem, ← mem_targetSet]
  exact List.contains_iff_mem

theorem sorted_aliases (c : Config) : Dict.Sorted c.aliases := by
  have known : Dict.Sorted defaultAliases := by
    unfold Dict.Sorted
    decide +kernel
  exact known.override c.targetAliases

/-! ## The warnings -/

/-- Codes tell the two warnings about targets from all other issues. -/
theorem code_cases {i : ConfigIssue} (mem : i ∈ c.issues) :
    i.code = "W001" ∧ c.allowedTargets = [] ∨ i.code = "W002" ∧ i ∈ c.aliasIssues ∨
      i.code ∈ ["E004", "E005", "W003", "W004"] := by
  unfold issues allowlistIssues at mem
  simp only [List.mem_append, List.mem_flatMap, List.mem_map] at mem
  rcases mem with ((((version | allowlist) | noTargets) | named) | window) | list
  · split at version
    · cases version
    · rw [List.mem_singleton.1 version]
      simp [ConfigIssue.error]
  · obtain ⟨_, _, _, _, rfl⟩ := allowlist
    simp [ConfigIssue.error]
  · split at noTargets
    · rename_i isEmpty
      rw [List.mem_singleton.1 noTargets]
      exact .inl ⟨rfl, List.isEmpty_iff.1 isEmpty⟩
    · cases noTargets
  · obtain ⟨_, _, rfl⟩ := List.mem_map.1 named
    exact .inr (.inl ⟨rfl, named⟩)
  · split at window
    · rw [List.mem_singleton.1 window]
      simp [ConfigIssue.warning]
    · cases window
  · obtain ⟨_, _, rfl⟩ := list
    simp [ConfigIssue.warning]

theorem allowedTargets_eq_nil {key : String} (reported : c.Reports "W001" key) :
    c.allowedTargets = [] := by
  obtain ⟨i, mem, code, -⟩ := reported
  have cases := code_cases mem
  rw [code] at cases
  simpa using cases

theorem mem_aliasIssues {i : ConfigIssue} (mem : i ∈ c.issues) (code : i.code = "W002") :
    i ∈ c.aliasIssues := by
  have cases := code_cases mem
  rw [code] at cases
  simpa using cases

theorem reports_alias_iff {name path : String} (known : Dict.find? name c.aliases = some path) :
    c.Reports "W002" ("target_aliases." ++ name) ↔ path ∉ c.allowedTargets := by
  constructor
  · rintro ⟨i, mem, code, key⟩
    obtain ⟨⟨other, leads⟩, inAliases, rfl⟩ := List.mem_map.1 (mem_aliasIssues mem code)
    obtain ⟨entry, off⟩ := List.mem_filter.1 inAliases
    have same : other = name := (String.append_right_inj _).1 key
    subst same
    have found := Dict.find?_of_mem (sorted_aliases c).nodup entry
    rw [known] at found
    cases found
    simpa using off
  · intro off
    refine ⟨.warning "W002" ("target_aliases." ++ name)
      ("points at " ++ path ++ ", which is not in allowed_targets"), ?_, rfl, rfl⟩
    have warned : .warning "W002" ("target_aliases." ++ name)
        ("points at " ++ path ++ ", which is not in allowed_targets") ∈ c.aliasIssues :=
      List.mem_map.2 ⟨(name, path),
        List.mem_filter.2 ⟨Dict.mem_of_find? known, by simpa using off⟩, rfl⟩
    simp [issues, warned]

end Config

/-! ## Runs -/

/-- A rule without effects that writes to a target by its name. -/
structure RuleProgram.WritesByName (name : String) (p : RuleProgram) : Prop where
  effects : p.effects = none
  write : ∃ w, p.write = some w ∧ w.path = none ∧ w.targetId = some name

section

variable {o : ProgressiveOptions} (registry : Registry) {p : RuleProgram} {name path : String}

open ProgressiveRun

/-- The patches of a rule that writes by a name lead to the path of the name. -/
theorem RuleProgram.WritesByName.patches_eq (writes : p.WritesByName name)
    (known : Dict.find? name o.aliases = some path) (ctx : Context) :
    ∃ op value, (⟨p, ctx⟩ : Turn).patches o registry = [⟨p.id, path, op, value⟩] := by
  obtain ⟨w, write, noPath, targetId⟩ := writes.write
  have nothing (a : Access) : (evaluate [p] a).effects = .empty := by
    rw [(evaluate_alone p a).2.2]
    simp [RuleProgram.produced, writes.effects]
  have destination : w.destination? o.aliases = some path := by
    simp [Write.destination?, noPath, targetId, known]
  refine ⟨w.op, w.content, ?_⟩
  unfold Turn.patches writePatches
  rw [nothing, write]
  dsimp only
  rw [destination]
  rfl

/-- A rule that writes by a name is blocked if it fires and the path of the name is not
    allowed. -/
theorem blocked_of_writesByName (writes : p.WritesByName name)
    (known : Dict.find? name o.aliases = some path) (ctx : Context) :
    (runProgressive o registry [p] ctx).blocked =
      if (⟨p, ctx⟩ : Turn).fires o registry && !o.isAllowed path then some ⟨p.id, path⟩
      else none := by
  obtain ⟨op, value, patches⟩ := writes.patches_eq registry known ctx
  have blocked : (runProgressive o registry [p] ctx).blocked =
      if (⟨p, ctx⟩ : Turn).fires o registry then
        blocking? o ((⟨p, ctx⟩ : Turn).patches o registry)
      else none := Turn.blocked_run o registry ⟨p, ctx⟩
  rw [blocked, patches, blocking?, List.find?_singleton]
  cases (⟨p, ctx⟩ : Turn).fires o registry with
  | false => rfl
  | true => cases o.isAllowed path <;> rfl

/-- Without allowed targets the first patch is blocked. -/
theorem isSome_blocking?_of_no_targets (none : o.allowedTargets = []) {patches : List Patch}
    (nonempty : patches ≠ []) : (blocking? o patches).isSome := by
  obtain ⟨first, rest, rfl⟩ := List.exists_cons_of_ne_nil nonempty
  simp [blocking?, ProgressiveOptions.isAllowed, none]

/-- Without allowed targets no patch is applied, so the context stays. -/
theorem context_runProgressive_of_no_targets (none : o.allowedTargets = [])
    (rules : List RuleProgram) (ctx : Context) :
    (runProgressive o registry rules ctx).context = ctx := by
  have faithful := faithful_runProgressive o registry rules ctx
  have unapplied : (runProgressive o registry rules ctx).applied = [] :=
    List.eq_nil_iff_forall_not_mem.2 fun p mem => by simpa [none] using faithful.allowed p mem
  have replay := faithful.replay
  rw [unapplied] at replay
  exact (Except.ok.inj replay).symm

/-- A turn with patches blocks a run that has no allowed targets. -/
theorem isSome_blocked_of_no_targets (none : o.allowedTargets = []) {rules : List RuleProgram}
    {ctx : Context} {t : Turn} (mem : t ∈ Turn.ofRules o registry rules ctx)
    (fires : t.fires o registry = true) (nonempty : t.patches o registry ≠ []) :
    (runProgressive o registry rules ctx).blocked.isSome := by
  have own : (t.run o registry).blocked.isSome := by
    rw [t.blocked_run, if_pos fires]
    exact isSome_blocking?_of_no_targets none nonempty
  cases blocked : (runProgressive o registry rules ctx).blocked with
  | some _ => rfl
  | none =>
    -- In a run that is not blocked, no turn is.
    rw [(Turn.map_rule_of_not_blocked o registry blocked).2 t mem] at own
    cases own

end

/-- **The check of a configuration tells which writes are blocked.** There is a warning of a
    name of a target exactly if every rule is blocked that fires and writes by this name; and
    without the warning no such rule is. If there is a warning that there are no allowed
    targets, every run is blocked in which some rule fires that has patches, whatever else the
    run may use, and leaves the context as it was. -/
theorem Config.issues_predict_blocked (c : Config) :
    (∀ name path, Dict.find? name c.aliases = some path →
      let warned := c.Reports "W002" ("target_aliases." ++ name)
      let blocked (p : RuleProgram) (ctx : Context) :=
        (runProgressive c.progressiveOptions c.registry [p] ctx).blocked
      (warned ↔ ∀ p ctx, p.WritesByName name →
        (⟨p, ctx⟩ : Turn).fires c.progressiveOptions c.registry = true →
          (blocked p ctx).isSome) ∧
      (¬ warned → ∀ p ctx, p.WritesByName name → blocked p ctx = none)) ∧
    (c.Reports "W001" "allowed_targets" →
      ∀ o : ProgressiveOptions, o.allowedTargets = c.targetSet → ∀ registry rules ctx,
        (∃ t ∈ Turn.ofRules o registry rules ctx,
          t.fires o registry = true ∧ t.patches o registry ≠ []) →
        let run := runProgressive o registry rules ctx
        run.blocked.isSome ∧ run.context = ctx) := by
  refine ⟨fun name path known => ?_, fun warned o targets registry rules ctx firing => ?_⟩
  · intro warned blocked
    have warned_iff : warned ↔ c.progressiveOptions.isAllowed path = false := by
      rw [isAllowed_progressiveOptions, ← Bool.not_eq_true, List.contains_iff_mem]
      exact reports_alias_iff known
    have blocked_eq {p : RuleProgram} (writes : p.WritesByName name) (ctx : Context) :=
      blocked_of_writesByName (o := c.progressiveOptions) c.registry writes known ctx
    have free (unwarned : ¬ warned) (p : RuleProgram) (ctx : Context)
        (writes : p.WritesByName name) : blocked p ctx = none := by
      have isAllowed := mt warned_iff.2 unwarned
      simp [blocked, blocked_eq writes, isAllowed]
    refine ⟨⟨fun isWarned p ctx writes fires => ?_, fun every => ?_⟩, free⟩
    · simp [blocked, blocked_eq writes, warned_iff.1 isWarned, fires]
    · -- Some rule fires, whatever the context is.
      let p : RuleProgram :=
        { id := "", label := "", condition := fun _ => return .conjunction []
          write := some { targetId := some name } }
      have writes : p.WritesByName name := ⟨rfl, _, rfl, rfl, rfl⟩
      refine Decidable.byContradiction fun unwarned => ?_
      have isBlocked := every p {} writes rfl
      rw [free unwarned p {} writes] at isBlocked
      cases isBlocked
  · obtain ⟨t, mem, fires, nonempty⟩ := firing
    have none : o.allowedTargets = [] := by
      rw [targets, Config.targetSet, allowedTargets_eq_nil warned]
      rfl
    exact ⟨isSome_blocked_of_no_targets registry none mem fires nonempty,
      context_runProgressive_of_no_targets registry none rules ctx⟩

/-- A known name that is led off the allowed targets, one that is left alone, and a
    configuration without allowed targets. -/
theorem Config.issues_predict_blocked_of_changed_name :
    let c : Config := { targetAliases := [("personality", "inject.pre")] }
    let closed : Config := { allowedTargets := [] }
    let writing (name : String) : RuleProgram := .ofRule
      { id := "a", condition := some (.and [])
        write := some { targetId := some name, text := some "x" } }
    let run (c : Config) (name : String) :=
      runProgressive c.progressiveOptions c.registry [writing name] {}
    c.Reports "W002" "target_aliases.personality" ∧ (run c "personality").blocked.isSome ∧
      ¬ c.Reports "W002" "target_aliases.scenario" ∧ (run c "scenario").blocked = none ∧
      closed.Reports "W001" "allowed_targets" ∧ (run closed "scenario").blocked.isSome ∧
      (run closed "scenario").context = {} := by
  intro c closed writing run
  have writes (name : String) : (writing name).WritesByName name := ⟨rfl, _, rfl, rfl, rfl⟩
  have warned : c.Reports "W002" "target_aliases.personality" := by decide +kernel
  have unwarned : ¬ c.Reports "W002" "target_aliases.scenario" := by decide +kernel
  have noTargets : closed.Reports "W001" "allowed_targets" := by decide +kernel
  obtain ⟨names, -⟩ := Config.issues_predict_blocked c
  obtain ⟨-, closes⟩ := Config.issues_predict_blocked closed
  obtain ⟨changed, -⟩ := names "personality" "inject.pre" (by decide +kernel)
  obtain ⟨-, left⟩ := names "scenario" "character.scenario" (by decide +kernel)
  have first : (⟨writing "scenario", {}⟩ : Turn) ∈
      Turn.ofRules closed.progressiveOptions closed.registry [writing "scenario"] {} :=
    List.mem_cons_self
  obtain ⟨blocked, stays⟩ := closes noTargets closed.progressiveOptions rfl closed.registry
    [writing "scenario"] {} ⟨_, first, by decide +kernel, by decide +kernel⟩
  exact ⟨warned, changed.1 warned _ {} (writes "personality") (by decide +kernel), unwarned,
    left unwarned _ {} (writes "scenario"), noTargets, blocked, stays⟩

end ChatRules
