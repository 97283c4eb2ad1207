import ChatRules.Block.Basic

/-!
# The gates of a tree

A tree of gates is read from left to right: its gates, each with its negation, are the
leaves, and what the tree comes to is said by what its leaves come to, in this order.

Results:

* `GateTree.leavesAll_eq_flatMap`: the leaves of several trees are those of each of them.
* `Join.combine_eq_passes`: results are joined as the words say.
* `GateTree.values_cons_append`: trees take the results of their own leaves.
-/

namespace ChatRules

/-- What joined results come to: by "and" all of them have to pass, by "or" one of them,
    unless there is none. -/
def Join.passes : Join → List Bool → Bool
  | .all, results => results.all id
  | .any, results => results.isEmpty || results.any id

theorem Join.combine_eq_passes (j : Join) (results : List Bool) :
    j.combine results = j.passes results := by
  cases j <;> cases results <;> simp [combine, passes]

namespace GateTree

mutual

/-- The gates of a tree with their negations, from left to right. -/
def leaves : GateTree → List (Bool × Gate)
  | .gate negated g => [(negated, g)]
  | .group _ _ items => leavesAll items

/-- The gates of trees, from left to right. -/
def leavesAll : List GateTree → List (Bool × Gate)
  | [] => []
  | t :: rest => t.leaves ++ leavesAll rest

end

theorem leavesAll_eq_flatMap (items : List GateTree) : leavesAll items = items.flatMap leaves := by
  induction items with
  | nil => rfl
  | cons t rest ih => rw [leavesAll, ih, List.flatMap_cons]

mutual

/-- What a tree comes to if its leaves, from left to right, come to `oks`: a leaf to its own
    result, and a group to the joined results of its items, negated after they are joined. -/
def value : GateTree → List Bool → Bool
  | .gate _ _, oks => oks.headD false
  | .group join negated items, oks =>
    let joined := join.passes (values items oks)
    if negated then !joined else joined

/-- What trees come to: each of them takes the results of its own leaves. -/
def values : List GateTree → List Bool → List Bool
  | [], _ => []
  | t :: rest, oks =>
    t.value (oks.take t.leaves.length) :: values rest (oks.drop t.leaves.length)

end

/-- A tree takes the results of its own leaves, and leaves the others to the trees after it. -/
theorem values_cons_append (t : GateTree) (rest : List GateTree) {own : List Bool}
    (length : own.length = t.leaves.length) (others : List Bool) :
    values (t :: rest) (own ++ others) = t.value own :: values rest others := by
  rw [values, ← length, List.take_left, List.drop_left]

end GateTree

namespace Block

/-- The gates in the conditions of a block, from left to right. -/
def leaves (b : Block) : List (Bool × Gate) := GateTree.leavesAll b.conditions

/-- What the conditions of a block come to if their leaves come to `oks`. -/
def value (b : Block) (oks : List Bool) : Bool := b.join.passes (GateTree.values b.conditions oks)

end Block

end ChatRules
