import ChatRules.Proofs.Condition.Judgement

/-!
# Sources without a value

Where a source gives no value, a test runs on an empty text or on an empty list. No term and no
phrase is found there, so such a test fails. Two kinds of tests may pass on nothing: a search
whose pattern matches the empty text, and a count that does not have to reach one. The reason
says that the value was missing, except that of a comparison, which has no place for it.

Results:

* `findTerm?_nothing`, `hitsInWindow_nothing`: nothing is found in nothing.
* `Test.judge_missing`: what a test comes to without a value.
* `check_missing`: the same for a leaf of a condition, whatever the registry.
* `check_missing_passes`: leaves that pass or leave no mark.
-/

namespace ChatRules

theorem Text.find?_nothing {needle : String} (ne : needle ≠ "") : find? "" needle = none := by
  rw [find?, String.toList_empty, findChars, if_neg]
  rw [List.isEmpty_iff, String.toList_eq_nil_iff]
  exact ne

/-- No term is found in an empty text. -/
theorem findTerm?_nothing (term : String) (mode : MatchMode) : findTerm? "" term mode = none := by
  unfold findTerm?
  by_cases blank : (Text.lower (Text.trim term)).isEmpty = true
  · rw [if_pos blank]
  · rw [if_neg blank]
    have ne : Text.lower (Text.trim term) ≠ "" := by simpa [String.isEmpty_iff] using blank
    cases mode with
    | contains => exact Text.find?_nothing ne
    | word => rfl

theorem hasTerm_nothing (term : String) (mode : MatchMode) : hasTerm "" term mode = false := by
  rw [hasTerm, findTerm?_nothing, Option.isSome_none]

theorem hitsInWindow_nothing (terms : List String) (window : Nat) (mode : MatchMode) :
    hitsInWindow [] terms window mode = [] := by
  simp [hitsInWindow]

namespace Test

/-- Whether a test passes on a value that is missing: its pattern matches the empty text, or it
    counts to zero at least. -/
def passesNothing [Regex.Engine] : Test → Bool
  | .regexHit pattern flags =>
    match Regex.compile pattern flags with
    | .ok regex => (regex.find? "").isSome
    | .error _ => false
  | .countInWindow _ _ least _ => least == 0
  | _ => false

/-- Whether the reason of a test says that the value was missing. -/
def notesMissing : Test → Bool
  | .numberCompare _ _ => false
  | _ => true

theorem ok_leaf (kind : ReasonKind) (ok : Bool) (details : List (String × Json)) :
    (Reason.leaf kind ok details).ok = ok := rfl

/-- A reason that has a place for it says that the value was missing. -/
theorem find?_missing_leaf (kind : ReasonKind) (ok : Bool) (source : Json)
    (details : List (String × Json)) :
    Dict.find? "missing"
      (Reason.leaf kind ok (("source", source) :: (details ++ missingDetail none))).details =
      some (.bool true) :=
  Dict.find?_ofList_append_singleton (("source", source) :: details) "missing" (.bool true)

/-- What a test with an accepted pattern comes to where there is no value. -/
theorem judge_missing [Regex.Engine] {test : Test} (accepted : test.fault? = none)
    (source : String) :
    (test.judge source none).ok = test.passesNothing ∧
      Dict.find? "missing" (test.judge source none).details =
        if test.notesMissing then some (.bool true) else none := by
  cases test with
  | termHit term mode =>
    simp only [judge, Option.map_none, Option.getD_none, ok_leaf, find?_missing_leaf]
    rw [findTerm?_nothing]
    exact ⟨rfl, rfl⟩
  | anyTerms terms mode =>
    have nowhere : terms.filter (fun t => hasTerm "" t mode) = [] := by
      simp [hasTerm_nothing]
    simp only [judge, Option.map_none, Option.getD_none, ok_leaf, find?_missing_leaf]
    rw [nowhere]
    exact ⟨rfl, rfl⟩
  | allTerms terms mode =>
    have all : terms.filter (fun t => !hasTerm "" t mode) = terms := by
      simp [hasTerm_nothing]
    simp only [judge, Option.map_none, Option.getD_none, ok_leaf, find?_missing_leaf]
    rw [all, Bool.not_and_self]
    exact ⟨rfl, rfl⟩
  | phraseHit phrase =>
    have nowhere : (if phrase.isEmpty then none else Text.find? "" phrase) = none := by
      by_cases empty : phrase.isEmpty = true
      · rw [if_pos empty]
      · rw [if_neg empty]
        exact Text.find?_nothing (by simpa [String.isEmpty_iff] using empty)
    simp only [judge, Option.map_none, Option.getD_none, ok_leaf, find?_missing_leaf]
    rw [nowhere]
    exact ⟨rfl, rfl⟩
  | regexHit pattern flags =>
    cases compiled : Regex.compile pattern flags with
    | error e => simp [fault?, compiled] at accepted
    | ok regex =>
      simp only [judge, compiled, passesNothing, Option.map_none, Option.getD_none]
      cases regex.find? "" with
      | none => exact ⟨rfl, find?_missing_leaf _ _ _ _⟩
      | some m => exact ⟨rfl, find?_missing_leaf _ _ _ _⟩
  | countInWindow terms window least mode =>
    simp only [judge, Option.map_none, Option.getD_none, ok_leaf, find?_missing_leaf,
      hitsInWindow_nothing, List.length_nil, Nat.le_zero]
    exact ⟨(Bool.beq_eq_decide_eq least 0).symm, rfl⟩
  | numberCompare op value =>
    simp only [judge, Option.bind_none, Option.any_none, ok_leaf]
    refine ⟨rfl, ?_⟩
    show Dict.find? "missing" (Dict.ofList _) = none
    rw [Dict.find?_ofList (by simp)]
    simp [Dict.find?]

end Test

/-- **What a leaf comes to where its source gives no value.** It fails, unless its pattern
    matches the empty text or its count does not have to reach one, and its reason says that the
    value was missing, unless it is a comparison of numbers. -/
theorem check_missing [Regex.Engine] {source : String} {test : Test}
    (accepted : test.fault? = none) {a : Access} (lenient : a.strict = false)
    {failure : ReadFailure}
    (missing : a.registry.resolve a.moduleId source a.view = .error failure) :
    ∃ reason, ((Condition.check source test).evaluate a.read).result = .ok reason ∧
      reason.kind = test.kind ∧ reason.ok = test.passesNothing ∧
      Dict.find? "missing" reason.details =
        if test.notesMissing then some (.bool true) else none := by
  have nothing : a.registry.value? a.moduleId a.view source = none := by
    rw [Registry.value?, missing]
    rfl
  have judged : test.judgeWith (a.registry.value? a.moduleId a.view) source =
      test.judge source none := by
    rw [Test.judgeWith_of_accepted accepted, nothing]
  refine ⟨test.judge source none, ?_, Test.judge_kind accepted source none,
    Test.judge_missing accepted source⟩
  rw [← judged]
  exact Test.result_evaluate (Access.result_read lenient) source test

/-- Tests of terms over a registry without sources. -/
theorem check_missing_of_terms :
    ∃ a : Access, a.strict = false ∧
      a.registry.resolve a.moduleId "lastUser.norm" a.view = .error (.unknown "lastUser.norm") ∧
      (∃ reason, ((Condition.check "lastUser.norm" (.termHit "cake" .word)).evaluate
        a.read).result = .ok reason ∧ reason.kind = .termHit ∧ reason.ok = false ∧
        Dict.find? "missing" reason.details = some (.bool true)) ∧
      ∃ reason, ((Condition.check "lastUser.norm" (.allTerms [] .contains)).evaluate
        a.read).result = .ok reason ∧ reason.kind = .allTerms ∧ reason.ok = false ∧
        Dict.find? "missing" reason.details = some (.bool true) := by
  let a : Access := { registry := {}, view := {}, moduleId := "core" }
  have missing : a.registry.resolve a.moduleId "lastUser.norm" a.view =
      .error (.unknown "lastUser.norm") := by
    have derived : Registry.derived? a.view "lastUser.norm" = none := by
      unfold Registry.derived?
      cases Path.after? derivedStart "lastUser.norm" <;> rfl
    simp only [Registry.resolve, derived]
    rfl
  exact ⟨a, rfl, missing, check_missing rfl rfl missing, check_missing rfl rfl missing⟩

/-- Leaves over a source that does not exist: a count that has to reach nothing and a pattern
    that matches the empty text pass, and a comparison does not say that the value was missing. -/
theorem check_missing_passes :
    let a : Access := { registry := {}, view := {}, moduleId := "core" }
    let reason? (test : Test) :=
      ((Condition.check "nope.source" test).evaluate a.read).result.toOption
    (reason? (.countInWindow ["cake"] 3 0 .contains)).map Reason.ok = some true ∧
      (reason? (.regexHit "a*" "")).map Reason.ok = some true ∧
      (reason? (.numberCompare .less 5)).map (fun r => Dict.find? "missing" r.details) =
        some none := by
  decide +kernel

end ChatRules
