import ChatRules.Path
import ChatRules.Proofs.Condition.Shape
import Mathlib.Data.List.Nodup

/-!
# Places of nodes

The place of a node is spelled as a dot-path, one segment for every step from the root. No two
nodes of a condition have the same place, so what is reported at a place is about one node.

Results:

* `indexed_injective`: a segment with an index tells the index.
* `Condition.nodup_nodesAt`: the places of the nodes of a condition are different.
-/

namespace ChatRules

/-! ## Segments with an index -/

/-- The segment for one of several parts of a kind. -/
def indexed (name : String) (i : Nat) : String := name ++ "[" ++ toString i ++ "]"

theorem toList_indexed (name : String) (i : Nat) :
    (indexed name i).toList = name.toList ++ '[' :: (Nat.toDigits 10 i ++ [']']) := by
  simp [indexed, String.toList_append]

theorem indexed_injective {name : String} {i j : Nat} (eq : indexed name i = indexed name j) :
    i = j := by
  have chars : (indexed name i).toList = (indexed name j).toList := by rw [eq]
  rw [toList_indexed, toList_indexed] at chars
  have tail := (List.cons.inj (List.append_cancel_left chars)).2
  have digits : Nat.toDigits 10 i = Nat.toDigits 10 j := List.append_cancel_right tail
  have value := congrArg (fun ds => Nat.ofDigitChars 10 ds 0) digits
  simpa only [Nat.ofDigitChars_toDigits (by decide : 1 < 10) (by decide)] using value

theorem not_mem_indexed {name : String} (noDot : '.' ∉ name.toList) (i : Nat) :
    '.' ∉ (indexed name i).toList := by
  rw [toList_indexed]
  intro mem
  rcases List.mem_append.1 mem with inName | inIndex
  · exact noDot inName
  · rcases List.mem_cons.1 inIndex with bracket | inDigits
    · exact absurd bracket (by decide)
    · rcases List.mem_append.1 inDigits with digit | bracket
      · exact absurd (Nat.isDigit_of_mem_toDigits (by decide) (by decide) digit) (by decide)
      · exact absurd (List.mem_singleton.1 bracket) (by decide)

namespace Condition

theorem childPlace_eq (path : String) (i : Nat) :
    path ++ ".children[" ++ toString i ++ "]" = path ++ "." ++ indexed "children" i := by
  have label : ".children[" = "." ++ ("children" ++ "[") := rfl
  simp only [indexed, label, String.append_assoc]

theorem segments_childPlace (path : String) (i : Nat) :
    Path.segments (path ++ ".children[" ++ toString i ++ "]") =
      Path.segments path ++ [indexed "children" i] := by
  have noDot : '.' ∉ (indexed "children" i).toList := not_mem_indexed (by decide) i
  rw [childPlace_eq, Path.segments_append_dot, Path.segments_of_not_mem noDot]

theorem segments_onlyPlace (path : String) :
    Path.segments (path ++ ".child") = Path.segments path ++ ["child"] := by
  have place : path ++ ".child" = path ++ "." ++ "child" := by
    rw [String.append_assoc]
    rfl
  have step : Path.segments "child" = ["child"] := Path.segments_of_not_mem (by decide)
  rw [place, Path.segments_append_dot, step]

/-- A node stands at a place or below it. -/
def IsUnder (path : String) (n : String × Condition) : Prop :=
  Path.segments path <+: Path.segments n.1

theorem isUnder_self (path : String) (c : Condition) : IsUnder path (path, c) := List.prefix_rfl

/-- What stands below a segment after a path is not at the path. -/
theorem IsUnder.trans_ne {path place segment : String} {n : String × Condition}
    (h : IsUnder place n) (eq : Path.segments place = Path.segments path ++ [segment]) :
    IsUnder path n ∧ n.1 ≠ path := by
  have longer : Path.segments path ++ [segment] <+: Path.segments n.1 := eq ▸ h
  constructor
  · exact (List.prefix_append _ _).trans longer
  · rintro same
    have length := longer.length_le
    rw [same, List.length_append, List.length_singleton] at length
    omega

/-- The parts of a node stand below segments with their indices. -/
theorem exists_isUnder_of_mem_childrenNodesAt {children : List Condition} {path : String}
    {i : Nat} (parts : ∀ c ∈ children, ∀ path, ∀ n ∈ c.nodesAt path, IsUnder path n)
    {n : String × Condition} (mem : n ∈ childrenNodesAt path i children) :
    ∃ j, i ≤ j ∧ IsUnder (path ++ ".children[" ++ toString j ++ "]") n := by
  induction children generalizing i with
  | nil => cases mem
  | cons c rest ih =>
    obtain ⟨first, others⟩ := List.forall_mem_cons.1 parts
    rcases List.mem_append.1 mem with here | later
    · exact ⟨i, Nat.le_refl i, first _ n here⟩
    · obtain ⟨j, le, below⟩ := ih others later
      exact ⟨j, Nat.le_of_succ_le le, below⟩

theorem isUnder_of_mem_childrenNodesAt {children : List Condition} {path : String}
    (parts : ∀ c ∈ children, ∀ path, ∀ n ∈ c.nodesAt path, IsUnder path n)
    {n : String × Condition} (mem : n ∈ childrenNodesAt path 0 children) :
    IsUnder path n ∧ n.1 ≠ path := by
  obtain ⟨j, -, below⟩ := exists_isUnder_of_mem_childrenNodesAt parts mem
  exact below.trans_ne (segments_childPlace path j)

/-- The nodes of a condition stand at its place or below it. -/
theorem isUnder_of_mem_nodesAt (c : Condition) :
    ∀ path, ∀ n ∈ c.nodesAt path, IsUnder path n := by
  induction c using induction with
  | check | invalid =>
    intro path n mem
    rw [List.mem_singleton.1 mem]
    exact isUnder_self path _
  | and children ih | or children ih =>
    intro path n mem
    rcases List.mem_cons.1 mem with rfl | below
    · exact isUnder_self path _
    · exact (isUnder_of_mem_childrenNodesAt ih below).1
  | not child ih =>
    intro path n mem
    cases child with
    | none =>
      rw [List.mem_singleton.1 mem]
      exact isUnder_self path _
    | some c =>
      rcases List.mem_cons.1 mem with rfl | below
      · exact isUnder_self path _
      · exact ((ih c rfl _ n below).trans_ne (segments_onlyPlace path)).1

/-- What stands below different segments after a path has different places. -/
theorem index_eq_of_isUnder {path : String} {i j : Nat} {n m : String × Condition}
    (first : IsUnder (path ++ ".children[" ++ toString i ++ "]") n)
    (second : IsUnder (path ++ ".children[" ++ toString j ++ "]") m) (eq : n.1 = m.1) : i = j := by
  unfold IsUnder at first second
  rw [segments_childPlace] at first second
  rw [eq] at first
  have same : Path.segments path ++ [indexed "children" i] =
      Path.segments path ++ [indexed "children" j] :=
    (List.prefix_of_prefix_length_le first second (by simp)).eq_of_length (by simp)
  exact indexed_injective (List.cons.inj (List.append_cancel_left same)).1

theorem nodup_childrenNodesAt {children : List Condition}
    (parts : ∀ c ∈ children, ∀ path, ((c.nodesAt path).map (·.1)).Nodup) (path : String)
    (i : Nat) : ((childrenNodesAt path i children).map (·.1)).Nodup := by
  induction children generalizing i with
  | nil => exact .nil
  | cons c rest ih =>
    obtain ⟨first, others⟩ := List.forall_mem_cons.1 parts
    rw [childrenNodesAt, List.map_append]
    -- The first part stands below a segment with its index, the others below later ones.
    refine (first _).append (ih others (i + 1)) fun place inFirst inOthers => ?_
    obtain ⟨n, here, rfl⟩ := List.mem_map.1 inFirst
    obtain ⟨m, later, eq⟩ := List.mem_map.1 inOthers
    obtain ⟨j, le, below⟩ := exists_isUnder_of_mem_childrenNodesAt
      (fun c _ => c.isUnder_of_mem_nodesAt) later
    have same := index_eq_of_isUnder (c.isUnder_of_mem_nodesAt _ n here) below eq.symm
    omega

theorem not_mem_places {path : String} {nodes : List (String × Condition)}
    (below : ∀ n ∈ nodes, n.1 ≠ path) : path ∉ nodes.map (·.1) := by
  intro mem
  obtain ⟨n, inNodes, eq⟩ := List.mem_map.1 mem
  exact below n inNodes eq

/-- **No two nodes of a condition have the same place.** -/
theorem nodup_nodesAt (c : Condition) (path : String) : ((c.nodesAt path).map (·.1)).Nodup := by
  induction c using induction generalizing path with
  | check | invalid => exact List.nodup_singleton path
  | and children ih | or children ih =>
    rw [nodesAt, List.map_cons, List.nodup_cons]
    refine ⟨not_mem_places fun n mem => ?_, nodup_childrenNodesAt ih path 0⟩
    exact (isUnder_of_mem_childrenNodesAt (fun c _ => c.isUnder_of_mem_nodesAt) mem).2
  | not child ih =>
    cases child with
    | none => exact List.nodup_singleton path
    | some c =>
      rw [nodesAt, List.map_cons, List.nodup_cons]
      refine ⟨not_mem_places fun n mem => ?_, ih c rfl _⟩
      exact ((c.isUnder_of_mem_nodesAt _ n mem).trans_ne (segments_onlyPlace path)).2

/-- A node is known by its place. -/
theorem eq_of_mem_nodesAt {c : Condition} {path : String} {n m : String × Condition}
    (hn : n ∈ c.nodesAt path) (hm : m ∈ c.nodesAt path) (eq : n.1 = m.1) : n = m :=
  List.inj_on_of_nodup_map (c.nodup_nodesAt path) hn hm eq

end Condition

end ChatRules
