import ChatRules.Evaluation.Outcome

/-!
# Conflicts

Rules that fire and declare the same target conflict. A group of them is named
by the target and lists the rules in their order; the groups stand in the order
in which their targets first occur.

Models `group_conflicts` (`SPEC_FULL.md` §2.5).

Results:

* `mem_groups_length`: a group has two rules at least.
-/

namespace ChatRules

/-- The rules that declare one target. -/
structure ConflictGroup where
  key : String
  rules : List RuleResult

namespace ConflictGroup

/-- The group as an object. -/
def toJson (g : ConflictGroup) : Json :=
  .object [("kind", .string "sharedTarget"), ("key", .string g.key),
    ("rules", .array (g.rules.map RuleResult.toJson))]

/-- Puts a result at the end of the group of a target. A target that has no group yet gets one
    after the others. -/
def enterAt (r : RuleResult) (target : String) : List ConflictGroup → List ConflictGroup
  | [] => [⟨target, [r]⟩]
  | g :: rest =>
    if g.key = target then ⟨g.key, g.rules ++ [r]⟩ :: rest else g :: enterAt r target rest

/-- Puts a result into the groups of targets, but for those that were `seen` before. -/
def enterAll (r : RuleResult) (seen : List String) :
    List String → List ConflictGroup → List ConflictGroup
  | [], gs => gs
  | target :: rest, gs =>
    if seen.contains target then enterAll r seen rest gs
    else enterAll r (target :: seen) rest (enterAt r target gs)

/-- The groups with one more result, which stands once in the group of each of its targets. -/
def enter (gs : List ConflictGroup) (r : RuleResult) : List ConflictGroup :=
  enterAll r [] r.targets gs

/-- The groups of two or more results that declare the same target. -/
def groups (results : List RuleResult) : List ConflictGroup :=
  (results.foldl enter []).filter (1 < ·.rules.length)

theorem mem_groups_length {results : List RuleResult} {g : ConflictGroup}
    (h : g ∈ groups results) : 1 < g.rules.length := by
  simpa using (List.mem_filter.1 h).2

end ConflictGroup

end ChatRules
