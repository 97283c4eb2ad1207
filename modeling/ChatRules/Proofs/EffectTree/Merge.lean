import ChatRules.Proofs.EffectTree.Encoding

/-!
# Merging and building

A merge works path by path: at each path it has what both trees have there, the first one
before the second one, and where neither has a node there is none. So fragments can be put
into a tree by merging it with a tree of their own, and a list of paths is built by merging
what its parts build. Trees that share no path that has fragments can be merged either way
round, down to the nodes that have none.

Results:

* `get?_merge`: what is at a path after a merge.
* `EffectNode.insertAt_eq_merge`: fragments are put in by merging.
* `ofPaths_append`: a list of paths in two parts.
* `exists_ofPaths_error_iff`: a malformed path is the only thing that stops a list.
* `IsSpelled.merge_comm`: trees that can be merged either way round.
* `merge_lawful`: merging and building together.
-/

namespace ChatRules

namespace EffectNode

theorem node?_cons (segment : String) (rest : List String) (t : EffectNode) :
    t.node? (segment :: rest) = (Dict.find? segment t.children).bind (node? rest) := rfl

/-- The node at a list of segments after a merge is what stood there on both sides, merged. -/
theorem Ordered.node?_merge {b : EffectNode} (hb : b.Ordered) (a : EffectNode)
    (segments : List String) :
    (a.merge b).node? segments = (a.node? segments).merge EffectNode.merge (b.node? segments) := by
  induction segments generalizing a b with
  | nil => rfl
  | cons segment rest ih =>
    rw [node?_cons, node?_cons, node?_cons, hb.find?_merge]
    cases inB : Dict.find? segment b.children with
    | none => simp
    | some theirs =>
      cases Dict.find? segment a.children with
      | none => simp
      | some ours => exact ih (hb.find? inB) ours

/-- To put fragments into a node is to merge it with one that has nothing but them. -/
theorem insertAt_eq_merge (values segments : List String) (t : EffectNode) :
    insertAt values segments t = t.merge (insertAt values segments empty) := by
  induction segments generalizing t with
  | nil =>
    obtain ⟨old, children⟩ := t
    simp [insertAt, empty, merge, mergeChildren]
  | cons segment rest ih =>
    obtain ⟨old, children⟩ := t
    have alone : insertAt values (segment :: rest) empty =
        .node [] [(segment, insertAt values rest empty)] := rfl
    rw [alone, insertAt, merge, mergeChildren, mergeChildren, children_node, values_node,
      List.append_nil]
    cases Dict.find? segment children with
    | none => rfl
    | some mine => rw [Option.getD_some, ih mine]

/-- Nodes of which no place has fragments on both sides can be merged either way round. -/
theorem Ordered.merge_comm {a b : EffectNode} (ha : a.Ordered) (hb : b.Ordered)
    (apart : ∀ segments, a.fragments segments = [] ∨ b.fragments segments = []) :
    a.merge b = b.merge a := by
  induction b using induction generalizing a with
  | node values children ih =>
    refine (ha.merge hb).ext (hb.merge ha) ?_ fun segment => ?_
    · rw [values_merge, values_merge]
      rcases apart [] with none | none <;> rw [fragments_nil] at none <;> simp [none]
    · rw [hb.find?_merge, ha.find?_merge]
      cases inA : Dict.find? segment a.children with
      | none => simp
      | some x =>
        cases inB : Dict.find? segment children with
        | none => simp [inB]
        | some y =>
          -- Below the segment no place has fragments on both sides either.
          have below : x.merge y = y.merge x := by
            refine ih _ (Dict.mem_of_find? inB) (ha.find? inA) (hb.find? inB) fun rest => ?_
            simpa [fragments_cons, inA, inB] using apart (segment :: rest)
          simp [inB, below]

end EffectNode

namespace EffectTree

variable {entries : List (String × List String)} {a b t after : EffectTree}

/-! ## Merging by path -/

/-- A merge has at a path what both trees have there. -/
theorem get?_merge (a b : EffectTree) (path : String) :
    (a.merge b).get? path = (a.get? path).merge (· ++ ·) (b.get? path) := by
  unfold get? merge
  cases Path.segments? path with
  | none => rfl
  | some segments =>
    rw [Option.bind_some, Option.bind_some, Option.bind_some, b.ordered.node?_merge]
    cases a.root.node? segments <;> cases b.root.node? segments <;>
      simp [EffectNode.values_merge]

/-- Where a tree has a node, it has the fragments of the node. -/
theorem get?_eq_some_fragments {path : String} (there : t.get? path ≠ none) :
    t.get? path = some (t.fragments path) := by
  unfold fragments
  cases found : t.get? path with
  | none => exact absurd found there
  | some values => rfl

theorem IsSpelled.merge (ha : a.IsSpelled) (hb : b.IsSpelled) : (a.merge b).IsSpelled := by
  intro segments filled
  have both : (a.merge b).root.fragments segments =
      a.root.fragments segments ++ b.root.fragments segments :=
    b.ordered.fragments_merge a.root segments
  rw [both, ne_eq, List.append_eq_nil_iff, not_and_or] at filled
  exact filled.elim (ha segments) (hb segments)

/-- All that is built is spelled. -/
theorem Built.isSpelled {accepts : String → Prop} (h : t.Built accepts) : t.IsSpelled := by
  induction h with
  | empty => exact isSpelled_empty
  | insert _ _ inserted ih => exact ih.insert inserted
  | merge _ _ ihA ihB => exact ihA.merge ihB

/-- Trees that share no path that has fragments can be merged either way round. -/
theorem IsSpelled.merge_comm (hb : b.IsSpelled)
    (apart : ∀ path, a.fragments path = [] ∨ b.fragments path = []) : a.merge b = b.merge a := by
  refine EffectTree.ext (a.ordered.merge_comm b.ordered fun segments => ?_)
  by_cases filled : b.root.fragments segments = []
  · exact .inr filled
  · obtain ⟨path, spelled⟩ := hb segments filled
    simpa [fragments_eq spelled] using apart path

/-! ## Building by merging -/

theorem insert_eq_merge {path : String} {values : List String}
    (inserted : t.insert path values = .ok after) :
    ∃ alone, empty.insert path values = .ok alone ∧ after = t.merge alone := by
  unfold EffectTree.insert at inserted ⊢
  split at inserted
  · rename_i segments _
    cases inserted
    exact ⟨_, rfl, EffectTree.ext (EffectNode.insertAt_eq_merge values segments t.root)⟩
  · cases inserted

/-- A list of paths is put into a tree by merging the tree with what the list builds. -/
theorem insertAll_eq_merge (entries : List (String × List String)) (t : EffectTree) :
    insertAll entries t = (ofPaths entries).map t.merge := by
  induction entries generalizing t with
  | nil => exact congrArg Except.ok (merge_empty t).symm
  | cons e rest ih =>
    obtain ⟨path, values⟩ := e
    rw [ofPaths, insertAll, insertAll]
    cases wellFormed : Path.isWellFormed path with
    | false =>
      rw [insert_of_malformed wellFormed, insert_of_malformed wellFormed]
      rfl
    | true =>
      obtain ⟨next, inserted, -⟩ := fragments_insert wellFormed values t
      obtain ⟨alone, insertedAlone, rfl⟩ := insert_eq_merge inserted
      simp only [inserted, insertedAlone]
      rw [ih (t.merge alone), ih alone]
      cases ofPaths rest with
      | error e => rfl
      | ok tree => exact congrArg Except.ok (merge_assoc t alone tree)

theorem insertAll_append (first second : List (String × List String)) (t : EffectTree) :
    insertAll (first ++ second) t = (insertAll first t).bind (insertAll second) := by
  induction first generalizing t with
  | nil => rfl
  | cons e rest ih =>
    rw [List.cons_append, insertAll, insertAll]
    cases t.insert e.1 e.2 with
    | error e => rfl
    | ok next => exact ih next

/-- A list of paths builds what its parts build, merged, unless one of them fails. -/
theorem ofPaths_append (first second : List (String × List String)) :
    ofPaths (first ++ second) = (ofPaths first).bind fun a => (ofPaths second).map a.merge := by
  rw [ofPaths, insertAll_append]
  exact congrArg _ (funext fun a => insertAll_eq_merge second a)

/-- Without malformed paths a list builds a tree that has its fragments at their paths. -/
theorem exists_built (wellFormed : ∀ e ∈ entries, Path.isWellFormed e.1 = true) :
    ∃ t, ofPaths entries = .ok t ∧ t.Built (fun _ => True) ∧
      ∀ path, t.fragments path = fragmentsFor path entries := by
  obtain ⟨t, built, atPath⟩ := fragments_insertAll wellFormed empty
  refine ⟨t, built, Built.ofPaths (fun _ _ => trivial) built, fun path => ?_⟩
  rw [atPath, fragments_empty, List.nil_append]

/-- A list of paths fails exactly if one of them is malformed. -/
theorem exists_ofPaths_error_iff :
    (∃ e, ofPaths entries = .error e) ↔ ∃ e ∈ entries, Path.isWellFormed e.1 = false := by
  constructor
  · rintro ⟨e, failed⟩
    by_contra none
    have wellFormed : ∀ e ∈ entries, Path.isWellFormed e.1 = true := by simpa using none
    obtain ⟨t, built, -⟩ := exists_built wellFormed
    cases failed.symm.trans built
  · rintro ⟨e, mem, malformed⟩
    have some : (entries.find? fun e => !Path.isWellFormed e.1).isSome :=
      List.find?_isSome.2 ⟨e, mem, by simp [malformed]⟩
    obtain ⟨first, found⟩ := Option.isSome_iff_exists.1 some
    exact ⟨_, insertAll_of_malformed found empty⟩

/-- **Merging is pointwise, and building is a homomorphism.** A merge has a node at a path
    exactly if one of the trees has one, and then it has the fragments of both, in order.
    Merging does not depend on the grouping, and the empty tree adds nothing. Trees that share
    no path that has fragments can be merged either way round. What two lists of well-formed
    paths build, merged, is what they build one after the other, and a list fails exactly if
    one of its paths is malformed. -/
theorem merge_lawful {accepts : String → Prop} {b : EffectTree} (hb : b.Built accepts)
    (a c : EffectTree) (xs ys : List (String × List String)) :
    (∀ path, ((a.merge b).get? path = none ↔ a.get? path = none ∧ b.get? path = none) ∧
      ((a.merge b).get? path ≠ none →
        (a.merge b).get? path = some (a.fragments path ++ b.fragments path))) ∧
    (a.merge b).merge c = a.merge (b.merge c) ∧ a.merge empty = a ∧ empty.merge a = a ∧
    ((∀ path, a.fragments path = [] ∨ b.fragments path = []) → a.merge b = b.merge a) ∧
    ((∀ e ∈ xs ++ ys, Path.isWellFormed e.1 = true) →
      ∃ t u, ofPaths xs = .ok t ∧ ofPaths ys = .ok u ∧ ofPaths (xs ++ ys) = .ok (t.merge u)) ∧
    ((∃ e, ofPaths xs = .error e) ↔ ∃ e ∈ xs, Path.isWellFormed e.1 = false) := by
  refine ⟨fun path => ⟨?_, fun there => ?_⟩, merge_assoc a b c, merge_empty a, empty_merge a,
    hb.isSpelled.merge_comm, fun wellFormed => ?_, exists_ofPaths_error_iff⟩
  · rw [get?_merge]
    cases a.get? path <;> cases b.get? path <;> simp
  · rw [get?_eq_some_fragments there, fragments_merge]
  · obtain ⟨first, second⟩ := List.forall_mem_append.1 wellFormed
    obtain ⟨t, builtT, -⟩ := exists_built first
    obtain ⟨u, builtU, -⟩ := exists_built second
    refine ⟨t, u, builtT, builtU, ?_⟩
    rw [ofPaths_append, builtT, builtU]
    rfl

/-- A tree with fragments at a node and one with fragments below it: no path has fragments in
    both, though the path of the first one leads to a node of the second. -/
theorem merge_lawful_of_leaf_and_branch :
    let xs := [("inject", ["whole"])]
    let ys := [("inject.pre", ["part"])]
    ∃ a b : EffectTree, b.Built (fun _ => True) ∧ ofPaths xs = .ok a ∧ ofPaths ys = .ok b ∧
      (∀ path, a.fragments path = [] ∨ b.fragments path = []) ∧ a.merge b = b.merge a ∧
      b.get? "inject" = some [] ∧ (a.merge b).get? "inject" ≠ none ∧
      (a.merge b).get? "inject" = some (a.fragments "inject" ++ b.fragments "inject") ∧
      (∀ e ∈ xs ++ ys, Path.isWellFormed e.1 = true) ∧ ofPaths (xs ++ ys) = .ok (a.merge b) := by
  intro xs ys
  have wellFormed : ∀ e ∈ xs ++ ys, Path.isWellFormed e.1 = true := by decide +kernel
  obtain ⟨first, second⟩ := List.forall_mem_append.1 wellFormed
  obtain ⟨a, builtA, -, atA⟩ := exists_built first
  obtain ⟨b, builtB, hb, atB⟩ := exists_built second
  have apart : ∀ path, a.fragments path = [] ∨ b.fragments path = [] := by
    intro path
    rw [atA, atB]
    by_cases here : path = "inject" <;> simp [fragmentsFor, xs, ys, here]
  have node : b.get? "inject" = some [] := by
    have known : (ofPaths ys).toOption.bind (get? "inject") = some [] := by decide +kernel
    rw [builtB] at known
    exact known
  obtain ⟨pointwise, -, -, -, comm, homomorphism, -⟩ := merge_lawful hb a empty xs ys
  obtain ⟨t, u, builtT, builtU, built⟩ := homomorphism wellFormed
  obtain rfl : a = t := Except.ok.inj (builtA.symm.trans builtT)
  obtain rfl : b = u := Except.ok.inj (builtB.symm.trans builtU)
  have there : (a.merge b).get? "inject" ≠ none := by
    rw [ne_eq, (pointwise "inject").1, node]
    simp
  exact ⟨a, b, hb, builtT, builtU, apart, comm apart, node, there, (pointwise "inject").2 there,
    wellFormed, built⟩

end EffectTree

end ChatRules
