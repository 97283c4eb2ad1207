import ChatRules.EffectTree.Node

/-!
# Effect trees

Text fragments addressed by dot-paths. Every node has a list of fragments and
children by segment. Writing to a path appends, and merging two trees appends
the lists at equal paths, so no fragment is lost.

Models `EffectTree` with `set_effect_path`, `merge` and `leaves` (`SPEC_FULL.md` §2,
effects).

Results:

* `merge_empty`, `empty_merge`: the empty tree adds nothing.
* `merge_assoc`: merging does not depend on the grouping.
-/

namespace ChatRules

/-- An effect tree: its root, which is in order. -/
@[ext]
structure EffectTree where
  root : EffectNode
  ordered : root.Ordered
deriving DecidableEq

namespace EffectTree

/-- The tree without fragments and without children. -/
def empty : EffectTree := ⟨.empty, .empty⟩

instance : Inhabited EffectTree := ⟨empty⟩

/-- The tree with fragments appended at a path. -/
def insert (path : String) (values : List String) (t : EffectTree) :
    Except WriteError EffectTree :=
  match Path.segments? path with
  | some segments => .ok ⟨t.root.insertAt values segments, t.ordered.insertAt values segments⟩
  | none => .error (.malformedPath path)

/-- The fragments exactly at a path, if there is a node. -/
def get? (path : String) (t : EffectTree) : Option (List String) :=
  (Path.segments? path).bind fun segments => (t.root.node? segments).map (·.values)

/-- Puts fragments at paths, one after the other, into a tree. -/
def insertAll : List (String × List String) → EffectTree → Except WriteError EffectTree
  | [], t => .ok t
  | (path, values) :: rest, t =>
    match t.insert path values with
    | .error e => .error e
    | .ok t => insertAll rest t

/-- The tree of a list of paths and fragments. -/
def ofPaths (entries : List (String × List String)) : Except WriteError EffectTree :=
  insertAll entries empty

/-- Whether no node of the tree has a fragment. -/
def isEmpty (t : EffectTree) : Bool := t.root.isEmpty

/-- The tree with the fragments of both at every path, those of the first before
    those of the second. -/
def merge (a b : EffectTree) : EffectTree := ⟨a.root.merge b.root, a.ordered.merge b.ordered⟩

theorem merge_empty (t : EffectTree) : t.merge empty = t :=
  EffectTree.ext (EffectNode.merge_empty t.root)

theorem empty_merge (t : EffectTree) : empty.merge t = t :=
  EffectTree.ext t.ordered.empty_merge

theorem merge_assoc (a b c : EffectTree) : (a.merge b).merge c = a.merge (b.merge c) :=
  EffectTree.ext (a.ordered.merge_assoc b.ordered c.ordered)

/-- The paths that have fragments, with their fragments. -/
def leaves (t : EffectTree) : List (String × List String) := t.root.leavesBelow ""

/-- The tree as a value. -/
def toJson (t : EffectTree) : Json := t.root.toJson

end EffectTree

end ChatRules
