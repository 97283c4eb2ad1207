import ChatRules.Context

/-!
# Nodes of effect trees

A node has a list of text fragments and children by segment. The children are
kept as a plain list, so that a node can have nodes below it; a node is in order
if the children of every node below it, and its own, are dictionaries.

Results:

* `induction`: what passes from the children of a node to the node holds of every
  node.
* `Ordered.insertAt`, `Ordered.merge`: both ways to put fragments into a node
  keep it in order.
* `Ordered.find?_merge`: what a segment leads to after a merge.
* `merge_empty`, `Ordered.empty_merge`, `Ordered.merge_assoc`: nodes in order are a
  monoid under merging.
-/

namespace ChatRules

/-- A node: its fragments, and its children by segment. -/
inductive EffectNode where
  | node (values : List String) (children : List (String × EffectNode))
deriving Inhabited

namespace EffectNode

/-- The node without fragments and without children. -/
def empty : EffectNode := .node [] []

/-- The fragments of the node itself. -/
def values : EffectNode → List String
  | .node values _ => values

/-- The children of the node. -/
def children : EffectNode → List (String × EffectNode)
  | .node _ children => children

@[simp] theorem values_node (values : List String) (children : List (String × EffectNode)) :
    (node values children).values = values := rfl

@[simp] theorem children_node (values : List String) (children : List (String × EffectNode)) :
    (node values children).children = children := rfl

/-- The node with fragments appended at a list of segments; missing nodes are
    created. -/
def insertAt (values : List String) : List String → EffectNode → EffectNode
  | [], .node old children => .node (old ++ values) children
  | segment :: rest, .node old children =>
    let below := (Dict.find? segment children).getD empty
    .node old (Dict.insert segment (insertAt values rest below) children)

/-- The node at a list of segments. -/
def node? : List String → EffectNode → Option EffectNode
  | [], t => some t
  | segment :: rest, t => (Dict.find? segment t.children).bind (node? rest)

mutual

/-- Whether neither the node nor one below it has a fragment. -/
def isEmpty : EffectNode → Bool
  | .node values children => values.isEmpty && childrenEmpty children

/-- Whether no node below has a fragment. -/
def childrenEmpty : List (String × EffectNode) → Bool
  | [] => true
  | (_, t) :: rest => t.isEmpty && childrenEmpty rest

end

mutual

/-- The node with the fragments of both at every path, those of the first before
    those of the second. -/
def merge (a : EffectNode) : EffectNode → EffectNode
  | .node values children => .node (a.values ++ values) (mergeChildren a.children children)

/-- The children of both, equal segments merged. -/
def mergeChildren (ours : List (String × EffectNode)) :
    List (String × EffectNode) → List (String × EffectNode)
  | [] => ours
  | (segment, theirs) :: rest =>
    let merged :=
      match Dict.find? segment ours with
      | some mine => merge mine theirs
      | none => theirs
    mergeChildren (Dict.insert segment merged ours) rest

end

mutual

/-- The paths that have fragments, with their fragments; a node comes before its
    children. `path` is the path of the node, empty for the root. -/
def leavesBelow (path : String) : EffectNode → List (String × List String)
  | .node values children =>
    (if values.isEmpty then [] else [(path, values)]) ++ childLeaves path children

/-- The paths below the children of a node. -/
def childLeaves (path : String) : List (String × EffectNode) → List (String × List String)
  | [] => []
  | (segment, t) :: rest => leavesBelow (Path.below path segment) t ++ childLeaves path rest

end

mutual

/-- The node as a value: a leaf is the list of its fragments, any other node an object
    in which the fragments of the node itself stand at `$values`. -/
def toJson : EffectNode → Json
  | .node values children =>
    if children.isEmpty && !values.isEmpty then .ofStrings values
    else
      .object ((if values.isEmpty then [] else [("$values", .ofStrings values)]) ++
        childrenJson children)

/-- The children as fields. -/
def childrenJson : List (String × EffectNode) → List (String × Json)
  | [] => []
  | (segment, t) :: rest => (segment, t.toJson) :: childrenJson rest

end

mutual

/-- Equality of nodes is decidable. -/
def decEq : (a b : EffectNode) → Decidable (a = b)
  | .node v c, .node w d =>
    match decEqChildren c d with
    | .isTrue h => decidable_of_iff (v = w) (by simp [h])
    | .isFalse h => .isFalse (by simp [h])

/-- Equality of lists of children is decidable. -/
def decEqChildren : (a b : List (String × EffectNode)) → Decidable (a = b)
  | [], [] => .isTrue rfl
  | [], _ :: _ | _ :: _, [] => .isFalse (by simp)
  | (k, a) :: as, (l, b) :: bs =>
    match decEq a b, decEqChildren as bs with
    | .isTrue h, .isTrue t => decidable_of_iff (k = l) (by simp [h, t])
    | .isFalse h, _ => .isFalse (by simp [h])
    | _, .isFalse t => .isFalse (by simp [t])

end

instance : DecidableEq EffectNode := decEq

/-! ## Order -/

/-- What passes from the children of a node to the node holds of every node. -/
theorem induction {P : EffectNode → Prop}
    (node : ∀ values children, (∀ e ∈ children, P e.2) → P (.node values children))
    (t : EffectNode) : P t :=
  @EffectNode.rec P (fun children => ∀ e ∈ children, P e.2) (fun e => P e.2) node (by simp)
    (fun _ _ first rest => List.forall_mem_cons.2 ⟨first, rest⟩) (fun _ _ h => h) t

/-- The children of the node, and of every node below it, are dictionaries. -/
inductive Ordered : EffectNode → Prop where
  | node {values : List String} {children : List (String × EffectNode)}
    (sorted : Dict.Sorted children) (below : ∀ e ∈ children, Ordered e.2) :
    Ordered (.node values children)

theorem Ordered.sorted {t : EffectNode} (h : t.Ordered) : Dict.Sorted t.children := by
  cases h with
  | node sorted _ => exact sorted

theorem Ordered.children {t : EffectNode} (h : t.Ordered) : ∀ e ∈ t.children, e.2.Ordered := by
  cases h with
  | node _ below => exact below

theorem Ordered.find? {t child : EffectNode} (h : t.Ordered) {segment : String}
    (found : Dict.find? segment t.children = some child) : child.Ordered :=
  h.children _ (Dict.mem_of_find? found)

theorem Ordered.empty : empty.Ordered := .node .nil (by simp)

theorem Ordered.insertChild {values : List String} {children : List (String × EffectNode)}
    (h : (EffectNode.node values children).Ordered) (segment : String) {child : EffectNode}
    (hc : child.Ordered) :
    (EffectNode.node values (Dict.insert segment child children)).Ordered := by
  refine .node (h.sorted.insert segment child) fun e mem => ?_
  rcases Dict.mem_insert mem with rfl | mem
  · exact hc
  · exact h.children e mem

theorem Ordered.insertAt (values : List String) (segments : List String) {t : EffectNode}
    (h : t.Ordered) : (insertAt values segments t).Ordered := by
  induction segments generalizing t with
  | nil =>
    cases h with
    | node sorted below => exact .node sorted below
  | cons segment rest ih =>
    obtain ⟨old, children⟩ := t
    refine h.insertChild segment (ih ?_)
    cases found : Dict.find? segment children with
    | none => exact .empty
    | some child => exact h.find? found

theorem Ordered.mergeChildren {values : List String} {ours theirs : List (String × EffectNode)}
    (h : (EffectNode.node values ours).Ordered)
    (merge : ∀ e ∈ theirs, ∀ mine : EffectNode, mine.Ordered → (mine.merge e.2).Ordered)
    (below : ∀ e ∈ theirs, e.2.Ordered) :
    (EffectNode.node values (mergeChildren ours theirs)).Ordered := by
  induction theirs generalizing ours with
  | nil => simpa [EffectNode.mergeChildren] using h
  | cons e rest ih =>
    obtain ⟨segment, their⟩ := e
    obtain ⟨mergeThis, mergeRest⟩ := List.forall_mem_cons.1 merge
    obtain ⟨this, belowRest⟩ := List.forall_mem_cons.1 below
    unfold EffectNode.mergeChildren
    refine ih (h.insertChild segment ?_) mergeRest belowRest
    split
    · rename_i mine found
      exact mergeThis mine (h.find? found)
    · exact this

theorem Ordered.merge {a b : EffectNode} (ha : a.Ordered) (hb : b.Ordered) :
    (a.merge b).Ordered := by
  induction b using induction generalizing a with
  | node values children ih =>
    obtain ⟨old, ours⟩ := a
    have start : (EffectNode.node (old ++ values) ours).Ordered := .node ha.sorted ha.children
    unfold EffectNode.merge
    exact start.mergeChildren (fun e mem mine h => ih e mem h (hb.children e mem)) hb.children

/-- What a segment leads to after a merge is what it led to on both sides, merged. -/
theorem find?_mergeChildren {theirs : List (String × EffectNode)} (sorted : Dict.Sorted theirs)
    (ours : List (String × EffectNode)) (segment : String) :
    Dict.find? segment (mergeChildren ours theirs) =
      (Dict.find? segment ours).merge EffectNode.merge (Dict.find? segment theirs) := by
  induction theirs generalizing ours with
  | nil => simp [mergeChildren, Dict.find?]
  | cons e rest ih =>
    obtain ⟨key, their⟩ := e
    unfold mergeChildren
    rw [ih (List.pairwise_cons.1 sorted).2]
    by_cases eq : segment = key
    · subst eq
      rw [sorted.find?_eq_none (String.le_refl _), Dict.find?_insert_self]
      cases found : Dict.find? segment ours <;> simp [Dict.find?]
    · rw [Dict.find?_insert_of_ne eq]
      simp [Dict.find?, Ne.symm eq]

/-- Nodes in order with the same fragments and the same children by segment are equal. -/
theorem Ordered.ext {a b : EffectNode} (ha : a.Ordered) (hb : b.Ordered)
    (values : a.values = b.values)
    (children : ∀ segment, Dict.find? segment a.children = Dict.find? segment b.children) :
    a = b := by
  obtain ⟨v, c⟩ := a
  obtain ⟨w, d⟩ := b
  have : c = d := ha.sorted.ext hb.sorted children
  simp_all

/-! ## Merging -/

theorem values_merge (a b : EffectNode) : (a.merge b).values = a.values ++ b.values := by
  cases b
  rfl

theorem Ordered.find?_merge {b : EffectNode} (hb : b.Ordered) (a : EffectNode)
    (segment : String) :
    Dict.find? segment (a.merge b).children =
      (Dict.find? segment a.children).merge EffectNode.merge
        (Dict.find? segment b.children) := by
  obtain ⟨values, children⟩ := b
  exact find?_mergeChildren hb.sorted a.children segment

theorem merge_empty (t : EffectNode) : t.merge empty = t := by
  cases t
  simp [empty, merge, mergeChildren]

theorem Ordered.empty_merge {t : EffectNode} (h : t.Ordered) : EffectNode.empty.merge t = t := by
  refine (Ordered.empty.merge h).ext h (by simp [values_merge, EffectNode.empty]) fun segment => ?_
  rw [h.find?_merge]
  simp [EffectNode.empty, Dict.find?]

theorem Ordered.merge_assoc {a b c : EffectNode} (ha : a.Ordered) (hb : b.Ordered)
    (hc : c.Ordered) : (a.merge b).merge c = a.merge (b.merge c) := by
  induction c using induction generalizing a b with
  | node values children ih =>
    refine ((ha.merge hb).merge hc).ext (ha.merge (hb.merge hc)) ?_ fun segment => ?_
    · simp only [values_merge, List.append_assoc]
    · rw [hc.find?_merge, hb.find?_merge, (hb.merge hc).find?_merge, hc.find?_merge]
      cases inA : Dict.find? segment a.children with
      | none => simp
      | some x =>
        cases inB : Dict.find? segment b.children with
        | none => simp
        | some y =>
          cases inC : Dict.find? segment children with
          | none => simp [inC]
          | some z =>
            have both := ih _ (Dict.mem_of_find? inC) (ha.find? inA) (hb.find? inB)
              (hc.find? inC)
            simpa [inC] using both

end EffectNode

end ChatRules
