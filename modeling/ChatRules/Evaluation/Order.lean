import ChatRules.Rule.Program

/-!
# The order of evaluation

Rules run by decreasing priority; among equal priorities the order in which they
are listed stays. Zeros are equal, and what is no number stands beyond the
infinities, by its sign.

Models `evaluation_order`, `sort_key` and `stable_sort_by_priority_desc` (`SPEC_FULL.md`
§2.5).

Results:

* `byPriority_perm`: sorting leaves every rule in place once.
* `byPriority_byPriority`: rules that are sorted stay as they are.
-/

namespace ChatRules

namespace RuleProgram

/-- Whether a rule runs before another one, or either may be first. -/
def mayPrecede (a b : RuleProgram) : Bool :=
  b.priority.orderKey ≤ a.priority.orderKey

/-- The rules by decreasing priority. -/
def byPriority (rules : List RuleProgram) : List RuleProgram := rules.mergeSort mayPrecede

/-- The places of the rules in the order of evaluation. -/
def evaluationOrder (rules : List RuleProgram) : List Nat :=
  (rules.zipIdx.mergeSort fun a b => mayPrecede a.1 b.1).map (·.2)

theorem byPriority_perm (rules : List RuleProgram) : (byPriority rules).Perm rules :=
  List.mergeSort_perm rules _

theorem pairwise_byPriority (rules : List RuleProgram) :
    (byPriority rules).Pairwise fun a b => mayPrecede a b = true := by
  refine List.pairwise_mergeSort (fun a b c => ?_) (fun a b => ?_) rules
  · simp only [mayPrecede, decide_eq_true_eq]
    omega
  · simp only [mayPrecede, Bool.or_eq_true, decide_eq_true_eq]
    omega

theorem byPriority_byPriority (rules : List RuleProgram) :
    byPriority (byPriority rules) = byPriority rules :=
  List.mergeSort_of_pairwise (pairwise_byPriority rules)

/-- Rules can be sorted before they are made into programs. -/
theorem byPriority_map_ofRule (rules : List Rule) :
    byPriority (rules.map ofRule) =
      (rules.mergeSort fun a b => mayPrecede (ofRule a) (ofRule b)).map ofRule := by
  rw [byPriority, List.map_mergeSort (s := mayPrecede) fun _ _ _ _ => rfl]

end RuleProgram

end ChatRules
