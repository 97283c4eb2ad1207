import ChatRules.Evaluation.Conflict
import Mathlib.Data.List.Induction
import Mathlib.Data.List.Nodup

/-!
# Groups by target

The groups of conflicts are collected in one pass: each result is put into the group of each of
its targets, and a target that is met for the first time opens a group. What is collected is a
table of the targets, in the order in which they first occur, with the results that declare
them. So a target names one group if two results or more declare it, and none otherwise.

Results:

* `enter_table`, `foldl_enter_eq`: the table after one more result, and after all of them.
* `groups_filter_key`: the groups that are named by a target.
* `exists_group_of_declared`: two results with a target in common are in one group, in
  their order.
* `groups_exact`: which groups there are, in which order, and what they list.
-/

namespace ChatRules

theorem nodup_eraseDups {α : Type} [DecidableEq α] (xs : List α) : xs.eraseDups.Nodup := by
  cases xs with
  | nil => simp
  | cons x rest =>
    rw [List.eraseDups_cons, List.nodup_cons]
    exact ⟨by simp [List.mem_eraseDups], nodup_eraseDups _⟩
termination_by xs.length
decreasing_by exact Nat.lt_succ_of_le (List.length_filter_le _ _)

theorem eraseDups_of_nodup {α : Type} [DecidableEq α] {xs : List α} (unique : xs.Nodup) :
    xs.eraseDups = xs := by
  induction xs with
  | nil => rfl
  | cons x rest ih =>
    obtain ⟨absent, others⟩ := List.nodup_cons.1 unique
    have kept : rest.filter (fun y => !y == x) = rest := by
      refine List.filter_eq_self.2 fun y mem => ?_
      have ne : y ≠ x := fun eq => absent (eq ▸ mem)
      simpa using ne
    rw [List.eraseDups_cons, kept, ih others]

theorem eraseDups_concat {α : Type} [DecidableEq α] (xs : List α) (x : α) :
    (xs ++ [x]).eraseDups = if x ∈ xs then xs.eraseDups else xs.eraseDups ++ [x] := by
  rw [List.eraseDups_append]
  by_cases mem : x ∈ xs
  · have nothing : [x].removeAll xs = [] := by simp [List.removeAll, mem]
    rw [nothing, List.eraseDups_nil, List.append_nil, if_pos mem]
  · have all : [x].removeAll xs = [x] := by simp [List.removeAll, mem]
    rw [all, eraseDups_of_nodup (List.nodup_singleton x), if_neg mem]

/-- Repetitions can be left out of the first part of a list before. -/
theorem eraseDups_eraseDups_append {α : Type} [DecidableEq α] (xs ys : List α) :
    (xs.eraseDups ++ ys).eraseDups = (xs ++ ys).eraseDups := by
  have same : ys.removeAll xs.eraseDups = ys.removeAll xs := by
    simp [List.removeAll, List.mem_eraseDups]
  rw [List.eraseDups_append, List.eraseDups_append, same, eraseDups_of_nodup (nodup_eraseDups xs)]

/-- Without its repetitions a list is in the order in which its elements first occur. -/
theorem pairwise_eraseDups {α : Type} [DecidableEq α] (xs : List α) :
    xs.eraseDups.Pairwise fun x y => xs.idxOf x < xs.idxOf y := by
  induction xs using List.reverseRecOn with
  | nil => exact List.Pairwise.nil
  | append_singleton xs x ih =>
    have earlier (y : α) (mem : y ∈ xs.eraseDups) : (xs ++ [x]).idxOf y = xs.idxOf y :=
      List.idxOf_append_of_mem (List.mem_eraseDups.1 mem)
    have before : xs.eraseDups.Pairwise fun y z => (xs ++ [x]).idxOf y < (xs ++ [x]).idxOf z := by
      refine List.Pairwise.imp_of_mem (fun {y z} memY memZ lt => ?_) ih
      rwa [earlier y memY, earlier z memZ]
    rw [eraseDups_concat]
    split
    · exact before
    · rename_i absent
      refine List.pairwise_append.2 ⟨before, List.pairwise_singleton _ _, fun y mem z last => ?_⟩
      -- The new element stands behind all others.
      rw [List.mem_singleton.1 last, earlier y mem, List.idxOf_append_of_notMem absent]
      have inside : xs.idxOf y < xs.length := List.idxOf_lt_length_iff.2 (List.mem_eraseDups.1 mem)
      omega

namespace ConflictGroup

/-! ## Collecting groups -/

/-- The targets of results, each once, in the order in which they first occur. -/
def targets (results : List RuleResult) : List String :=
  (results.flatMap (·.targets)).eraseDups

/-- The results that declare a target. -/
def declaring (target : String) (results : List RuleResult) : List RuleResult :=
  results.filter (·.targets.contains target)

/-- The groups of some keys, with the results that each key has. -/
def table (keys : List String) (rules : String → List RuleResult) : List ConflictGroup :=
  keys.map fun key => ⟨key, rules key⟩

section

variable {keys : List String} {rules : String → List RuleResult} (r : RuleResult)

theorem table_congr {others : String → List RuleResult}
    (same : ∀ key ∈ keys, rules key = others key) : table keys rules = table keys others :=
  List.map_congr_left fun key mem => by rw [same key mem]

/-- What one target makes of a table: it is one of its keys, with one more result. -/
theorem enterAt_table (target : String) (unique : keys.Nodup)
    (new : target ∉ keys → rules target = []) :
    enterAt r target (table keys rules) = table (keys ++ [target]).eraseDups
      fun key => if key = target then rules key ++ [r] else rules key := by
  rw [eraseDups_concat, eraseDups_of_nodup unique]
  induction keys with
  | nil => simp [table, enterAt, new List.not_mem_nil]
  | cons key rest ih =>
    obtain ⟨absent, others⟩ := List.nodup_cons.1 unique
    by_cases eq : key = target
    · subst eq
      have same : table rest rules =
          table rest fun other => if other = key then rules other ++ [r] else rules other :=
        table_congr fun other mem => by rw [if_neg fun (eq : other = key) => absent (eq ▸ mem)]
      rw [if_pos List.mem_cons_self]
      simp only [table, List.map_cons, enterAt, if_true] at same ⊢
      rw [same]
    · have below := ih others fun notMem => new (by simp [Ne.symm eq, notMem])
      have mem : target ∈ key :: rest ↔ target ∈ rest := by simp [Ne.symm eq]
      simp only [table, List.map_cons, enterAt, if_neg eq, mem] at below ⊢
      rw [below]
      split <;> simp [eq]

/-- What the targets of a result make of a table: they are keys, and those of them that were not
    seen before have one more result. -/
theorem enterAll_table (seen rest : List String) (unique : keys.Nodup)
    (new : ∀ target, target ∉ keys → rules target = []) (known : ∀ target ∈ seen, target ∈ keys) :
    enterAll r seen rest (table keys rules) = table (keys ++ rest).eraseDups
      fun key => if key ∈ rest ∧ key ∉ seen then rules key ++ [r] else rules key := by
  induction rest generalizing keys rules seen with
  | nil => simp [enterAll, eraseDups_of_nodup unique]
  | cons target rest ih =>
    have split : keys ++ target :: rest = keys ++ [target] ++ rest := by simp
    rw [split, ← eraseDups_eraseDups_append]
    unfold enterAll
    by_cases old : target ∈ seen
    · have kept : (keys ++ [target]).eraseDups = keys := by
        rw [eraseDups_concat, if_pos (known target old), eraseDups_of_nodup unique]
      rw [if_pos (List.contains_iff_mem.2 old), ih seen unique new known, kept]
      refine table_congr fun key _ => ?_
      have same : key ∈ target :: rest ∧ key ∉ seen ↔ key ∈ rest ∧ key ∉ seen := by
        constructor
        · rintro ⟨mem, notSeen⟩
          exact ⟨List.mem_of_ne_of_mem (fun eq => notSeen (eq ▸ old)) mem, notSeen⟩
        · rintro ⟨mem, notSeen⟩
          exact ⟨List.mem_cons_of_mem target mem, notSeen⟩
      simp only [same]
    · have next : ∀ key ∈ target :: seen, key ∈ (keys ++ [target]).eraseDups := by
        intro key mem
        rw [List.mem_eraseDups, List.mem_append]
        rcases List.mem_cons.1 mem with rfl | mem
        · exact .inr List.mem_cons_self
        · exact .inl (known key mem)
      rw [if_neg (by simpa using old), enterAt_table r target unique (new target),
        ih (target :: seen) (nodup_eraseDups _) ?_ next]
      · refine table_congr fun key _ => ?_
        by_cases eq : key = target
        · subst eq
          simp [old]
        · simp [eq]
      · intro key absent
        rw [List.mem_eraseDups, List.mem_append, not_or] at absent
        rw [if_neg fun (eq : key = target) => absent.2 (List.mem_singleton.2 eq), new key absent.1]

end

/-- **One more result.** The table of some results becomes that of one result more. -/
theorem enter_table (results : List RuleResult) (r : RuleResult) :
    enter (table (targets results) (declaring · results)) r =
      table (targets (results ++ [r])) (declaring · (results ++ [r])) := by
  have new (target : String) (absent : target ∉ targets results) :
      declaring target results = [] := by
    refine List.filter_eq_nil_iff.2 fun s mem declared => absent ?_
    exact List.mem_eraseDups.2 (List.mem_flatMap.2 ⟨s, mem, List.contains_iff_mem.1 declared⟩)
  have keys : (targets results ++ r.targets).eraseDups = targets (results ++ [r]) := by
    unfold targets
    rw [eraseDups_eraseDups_append, List.flatMap_append, List.flatMap_singleton]
  have unique : (targets results).Nodup := nodup_eraseDups _
  unfold enter
  rw [enterAll_table r [] r.targets unique new (by simp), keys]
  refine table_congr fun key _ => ?_
  by_cases declared : key ∈ r.targets <;> simp [declaring, declared]

/-- The groups that are collected from results are the table of their targets. -/
theorem foldl_enter_eq (results : List RuleResult) :
    results.foldl enter [] = table (targets results) (declaring · results) := by
  induction results using List.reverseRecOn with
  | nil => rfl
  | append_singleton results r ih => rw [List.foldl_concat, ih, enter_table]

/-! ## Groups -/

theorem groups_eq (results : List RuleResult) :
    groups results =
      (table (targets results) (declaring · results)).filter (1 < ·.rules.length) := by
  rw [groups, foldl_enter_eq]

variable {results : List RuleResult} {target : String}

theorem mem_targets_iff : target ∈ targets results ↔ ∃ r ∈ results, target ∈ r.targets := by
  simp [targets, List.mem_eraseDups]

theorem mem_declaring_iff {r : RuleResult} :
    r ∈ declaring target results ↔ r ∈ results ∧ target ∈ r.targets := by
  simp [declaring]

theorem targets_filter_eq :
    (targets results).filter (· == target) =
      if target ∈ targets results then [target] else [] := by
  have unique : (targets results).Nodup := nodup_eraseDups _
  rw [List.filter_beq]
  split
  · rename_i mem
    rw [List.count_eq_one_of_mem unique mem]
    rfl
  · rename_i absent
    rw [List.count_eq_zero_of_not_mem absent]
    rfl

/-- A target names one group if two results or more declare it, and else none. -/
theorem groups_filter_key (results : List RuleResult) (target : String) :
    (groups results).filter (·.key == target) =
      if 1 < (declaring target results).length then [⟨target, declaring target results⟩]
      else [] := by
  let groupOf (t : String) : ConflictGroup := ⟨t, declaring t results⟩
  have named : (groups results).filter (·.key == target) =
      (((targets results).filter (· == target)).map groupOf).filter (1 < ·.rules.length) := by
    rw [groups_eq, table, List.filter_comm, List.filter_map]
    rfl
  rw [named, targets_filter_eq]
  by_cases many : 1 < (declaring target results).length
  · obtain ⟨r, mem⟩ := List.exists_mem_of_length_pos (Nat.lt_of_succ_lt many)
    have declared : target ∈ targets results :=
      mem_targets_iff.2 ⟨r, mem_declaring_iff.1 mem⟩
    simp [declared, groupOf, many]
  · split <;> simp [groupOf, many]

/-- Results that declare a target are among those that it has, in their order. -/
theorem sublist_declaring {some : List RuleResult} (inOrder : some.Sublist results)
    (declared : ∀ r ∈ some, target ∈ r.targets) : some.Sublist (declaring target results) := by
  have kept := inOrder.filter (·.targets.contains target)
  rwa [List.filter_eq_self.2 (by simpa using declared)] at kept

/-- A target has more than one result if two places of the list have results that declare it. -/
theorem one_lt_length_declaring_iff :
    1 < (declaring target results).length ↔
      ∃ r s, [r, s].Sublist results ∧ target ∈ r.targets ∧ target ∈ s.targets := by
  constructor
  · intro many
    match found : declaring target results, many with
    | r :: s :: rest, _ =>
      have both : [r, s].Sublist (declaring target results) := by
        rw [found]
        exact ((List.nil_sublist rest).cons_cons s).cons_cons r
      exact ⟨r, s, both.trans List.filter_sublist,
        (mem_declaring_iff.1 (both.subset (by simp))).2,
        (mem_declaring_iff.1 (both.subset (by simp))).2⟩
  · rintro ⟨r, s, both, inFirst, inSecond⟩
    have declared : [r, s].Sublist (declaring target results) :=
      sublist_declaring both (by simp [inFirst, inSecond])
    exact Nat.lt_of_lt_of_le Nat.one_lt_two declared.length_le

/-- Two results that declare a target are in the one group that it names, in their order. -/
theorem exists_group_of_declared {r s : RuleResult} (both : [r, s].Sublist results)
    (inFirst : target ∈ r.targets) (inSecond : target ∈ s.targets) :
    ∃ g, (groups results).filter (·.key == target) = [g] ∧ [r, s].Sublist g.rules ∧
      g.rules.Sublist results := by
  have declared : [r, s].Sublist (declaring target results) :=
    sublist_declaring both (by simp [inFirst, inSecond])
  refine ⟨⟨target, declaring target results⟩, ?_, declared, List.filter_sublist⟩
  rw [groups_filter_key, if_pos (Nat.lt_of_lt_of_le Nat.one_lt_two declared.length_le)]

theorem exists_key_iff :
    (∃ g ∈ groups results, g.key = target) ↔ 1 < (declaring target results).length := by
  have named : (∃ g ∈ groups results, g.key = target) ↔
      (groups results).filter (·.key == target) ≠ [] := by
    simp [List.filter_eq_nil_iff]
  rw [named, groups_filter_key]
  split <;> simp_all

theorem rules_of_mem_groups {g : ConflictGroup} (mem : g ∈ groups results) :
    g.rules = declaring g.key results := by
  have named : g ∈ (groups results).filter (·.key == g.key) :=
    List.mem_filter.2 ⟨mem, beq_self_eq_true g.key⟩
  rw [groups_filter_key] at named
  split at named
  · exact congrArg ConflictGroup.rules (List.mem_singleton.1 named)
  · cases named

theorem pairwise_groups (results : List RuleResult) :
    (groups results).Pairwise fun g h =>
      (results.flatMap (·.targets)).idxOf g.key < (results.flatMap (·.targets)).idxOf h.key := by
  have inOrder : (table (targets results) (declaring · results)).Pairwise fun g h =>
      (results.flatMap (·.targets)).idxOf g.key < (results.flatMap (·.targets)).idxOf h.key := by
    unfold table
    exact List.pairwise_map.2 (pairwise_eraseDups _)
  rw [groups_eq]
  exact inOrder.filter _

/-- **The groups of conflicts are exact.** A target names a group if the results at two places of
    the list declare it, and no other target does. The groups are in the order in which their
    targets first occur, in the list and inside the targets of a result, so no target names two
    of them. Each lists the results that declare its target, in the order of the list, each place
    of the list once. -/
theorem groups_exact (results : List RuleResult) :
    (∀ target, (∃ g ∈ groups results, g.key = target) ↔
      ∃ r s, [r, s].Sublist results ∧ target ∈ r.targets ∧ target ∈ s.targets) ∧
    ((groups results).Pairwise fun g h =>
      (results.flatMap (·.targets)).idxOf g.key < (results.flatMap (·.targets)).idxOf h.key) ∧
    ∀ g ∈ groups results, g.rules = results.filter fun r => decide (g.key ∈ r.targets) := by
  refine ⟨fun target => exists_key_iff.trans one_lt_length_declaring_iff,
    pairwise_groups results, fun g mem => ?_⟩
  rw [rules_of_mem_groups mem, declaring]
  exact List.filter_congr fun r _ => List.contains_eq_mem g.key r.targets

/-- A result that declares a target twice stands in its group once, and a target that only it
    declares names no group. -/
example :
    let result (id : String) (targets : List String) : RuleResult :=
      ⟨id, id, defaultModule, 0, targets, .noCondition⟩
    (groups [result "a" ["x", "y", "x"], result "b" ["z", "x"], result "a" ["y", "x"]]).map
      (fun g => (g.key, g.rules.map (·.id))) = [("x", ["a", "b", "a"]), ("y", ["a", "a"])] := by
  decide

end ConflictGroup

end ChatRules
