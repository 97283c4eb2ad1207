import ChatRules.Proofs.EffectTree.Merge
import ChatRules.Proofs.Progressive.Effects
import Mathlib.Data.List.Sort

/-!
# Flattening a tree

The leaves of a tree are all that it holds. They come in the order of the segments of their
paths, each path once, so two trees that hold the same at every path have the same leaves,
whatever nodes without fragments they have besides. A tree that is built again from its leaves
holds the same, and the patches of a tree are its fragments.

Results:

* `EffectNode.Ordered.pairwise_places`: places come in the order of their segments.
* `IsSpelled.pairwise_leaves`: so do leaves.
* `IsSpelled.leaves_eq_iff`: leaves tell what stands at every path, and nothing else.
* `isEmpty_iff`: an empty tree has no leaves.
* `leaves_faithful`: what the leaves of a tree that was built say of it.
-/

namespace ChatRules

namespace EffectNode

/-- The places in a node come in the order of their segments, the node itself first. -/
theorem Ordered.pairwise_places {t : EffectNode} (h : t.Ordered) :
    t.places.Pairwise fun x y => x.1 < y.1 := by
  induction t using induction with
  | node own children ih =>
    unfold places
    rw [childPlaces_eq_flatMap, List.pairwise_append]
    refine ⟨?_, List.pairwise_flatMap.2 ⟨fun child mem => ?_, ?_⟩, ?_⟩
    · split <;> simp
    · exact List.pairwise_map.2 ((ih child mem (h.children child mem)).imp List.Lex.cons)
    · refine List.Pairwise.imp (fun {child other} before x inChild y inOther => ?_) h.sorted
      obtain ⟨_, -, rfl⟩ := List.mem_map.1 inChild
      obtain ⟨_, -, rfl⟩ := List.mem_map.1 inOther
      exact List.Lex.rel before
    · intro x own y below
      obtain ⟨child, -, inChild⟩ := List.mem_flatMap.1 below
      obtain ⟨_, -, rfl⟩ := List.mem_map.1 inChild
      split at own
      · cases own
      · rw [List.mem_singleton.1 own]
        exact List.Lex.nil

theorem childrenEmpty_eq_all (children : List (String × EffectNode)) :
    childrenEmpty children = children.all fun e => e.2.isEmpty := by
  induction children with
  | nil => rfl
  | cons e rest ih => rw [childrenEmpty, ih, List.all_cons]

/-- A node is empty exactly if no place in it has fragments. -/
theorem isEmpty_iff (t : EffectNode) : t.isEmpty = true ↔ t.places = [] := by
  induction t using induction with
  | node own children ih =>
    have below : children.all (fun e => e.2.isEmpty) = true ↔ childPlaces children = [] := by
      rw [childPlaces_eq_flatMap, List.all_eq_true, List.flatMap_eq_nil_iff]
      exact forall₂_congr fun e mem => by rw [ih e mem, List.map_eq_nil_iff]
    unfold isEmpty places
    rw [childrenEmpty_eq_all, Bool.and_eq_true, below, List.append_eq_nil_iff]
    cases own <;> simp

end EffectNode

namespace EffectTree

variable {t u : EffectTree}

theorem isEmpty_iff (t : EffectTree) : t.isEmpty = true ↔ t.leaves = [] := by
  rw [isEmpty, leaves, EffectNode.isEmpty_iff, EffectNode.leavesBelow_eq_map, List.map_eq_nil_iff]

/-- The leaves of a tree come in the order of the segments of their paths. -/
theorem IsSpelled.pairwise_leaves (h : t.IsSpelled) :
    t.leaves.Pairwise fun x y => Path.segments x.1 < Path.segments y.1 := by
  have segments {e : List String × List String} (mem : e ∈ t.root.places) :
      Path.segments (e.1.foldl Path.below "") = e.1 := by
    obtain ⟨path, spelled, rfl⟩ := h.exists_path_of_mem_places mem
    exact (segments?_eq_some_iff.1 spelled).2
  rw [leaves, EffectNode.leavesBelow_eq_map, List.pairwise_map]
  refine t.ordered.pairwise_places.imp_of_mem fun {x y} memX memY before => ?_
  rwa [segments memX, segments memY]

/-- No path is listed twice. -/
theorem IsSpelled.nodup_leaves (h : t.IsSpelled) : (t.leaves.map (·.1)).Nodup := by
  refine List.pairwise_map.2 (h.pairwise_leaves.imp fun {x y} before same => ?_)
  rw [same] at before
  exact List.lt_irrefl _ before

theorem IsSpelled.mem_paths_iff (h : t.IsSpelled) {path : String} :
    path ∈ t.leaves.map (·.1) ↔ t.fragments path ≠ [] := by
  constructor
  · intro mem
    obtain ⟨⟨_, values⟩, listed, rfl⟩ := List.mem_map.1 mem
    obtain ⟨ne, found⟩ := h.mem_leaves_iff.1 listed
    rwa [found]
  · intro ne
    exact List.mem_map.2 ⟨(path, t.fragments path), h.mem_leaves_iff.2 ⟨ne, rfl⟩, rfl⟩

theorem isWellFormed_of_fragments {path : String} (filled : t.fragments path ≠ []) :
    Path.isWellFormed path = true := by
  by_contra malformed
  exact filled (fragments_of_malformed (by simp [Path.segments?, malformed]) t)

/-- A leaf is what stands at a well-formed path. -/
theorem IsSpelled.get?_of_mem_leaves (h : t.IsSpelled) {e : String × List String}
    (mem : e ∈ t.leaves) : Path.isWellFormed e.1 = true ∧ t.get? e.1 = some e.2 := by
  obtain ⟨ne, found⟩ := h.mem_leaves_iff.1 mem
  have filled : t.fragments e.1 ≠ [] := by rwa [found]
  refine ⟨isWellFormed_of_fragments filled, ?_⟩
  rw [get?_eq_some_fragments, found]
  intro none
  exact filled (by rw [fragments, none, Option.getD_none])

/-- Two trees have the same leaves exactly if they hold the same at every path. -/
theorem IsSpelled.leaves_eq_iff (ht : t.IsSpelled) (hu : u.IsSpelled) :
    t.leaves = u.leaves ↔ ∀ path, t.fragments path = u.fragments path := by
  constructor
  · intro same path
    rw [← ht.fragmentsFor_leaves, ← hu.fragmentsFor_leaves, same]
  · intro same
    -- Both lists are in the same strict order, so their members decide.
    let before (x y : String × List String) : Prop := Path.segments x.1 < Path.segments y.1
    have irrefl : Std.Irrefl before := ⟨fun x => List.lt_irrefl _⟩
    have antisymm : Std.Antisymm before := ⟨fun x y lt gt => absurd gt (List.lt_asymm lt)⟩
    refine ht.pairwise_leaves.eq_of_mem_iff hu.pairwise_leaves fun ⟨path, values⟩ => ?_
    rw [ht.mem_leaves_iff, hu.mem_leaves_iff, same]

/-- A tree that is built again from its leaves holds what it held. -/
theorem IsSpelled.exists_ofPaths_leaves (h : t.IsSpelled) :
    ∃ again, ofPaths t.leaves = .ok again ∧ again.leaves = t.leaves := by
  have wellFormed : ∀ e ∈ t.leaves, Path.isWellFormed e.1 = true := fun e mem =>
    (h.get?_of_mem_leaves mem).1
  obtain ⟨again, built, ofLeaves, atPath⟩ := exists_built wellFormed
  refine ⟨again, built, (ofLeaves.isSpelled.leaves_eq_iff h).2 fun path => ?_⟩
  rw [atPath, h.fragmentsFor_leaves]

/-- **Flattening is faithful.** The leaves of a tree that was built are the paths that have
    fragments, each once; the paths are well formed, and what is listed for them is what stands
    there. A tree is empty exactly if it has no leaves, and one that is built from the leaves
    of a tree has the same leaves, in the same order. Two trees have the same leaves exactly
    if they hold the same fragments at every well-formed path. The patches of a tree append
    one fragment each, and at every path they are the fragments there, in order. -/
theorem leaves_faithful {accepts : String → Prop} {t : EffectTree} (h : t.Built accepts) :
    (t.leaves.map (·.1)).Nodup ∧
    (∀ path, path ∈ t.leaves.map (·.1) ↔ t.fragments path ≠ []) ∧
    (∀ e ∈ t.leaves, Path.isWellFormed e.1 = true ∧ t.get? e.1 = some e.2) ∧
    (t.isEmpty = true ↔ t.leaves = []) ∧
    (∃ again, ofPaths t.leaves = .ok again ∧ again.leaves = t.leaves) ∧
    (∀ u : EffectTree, u.Built accepts → (t.leaves = u.leaves ↔
      ∀ path, Path.isWellFormed path = true → t.fragments path = u.fragments path)) ∧
    ∀ id, (∀ p ∈ Patch.ofEffects id t,
        p.ruleId = id ∧ p.op = .append ∧ Path.isWellFormed p.path = true) ∧
      ∀ path, ((Patch.ofEffects id t).filter (·.path == path)).map (·.value) =
        t.fragments path := by
  have spelled := h.isSpelled
  refine ⟨spelled.nodup_leaves, fun _ => spelled.mem_paths_iff,
    fun _ => spelled.get?_of_mem_leaves, isEmpty_iff t, spelled.exists_ofPaths_leaves,
    fun u hu => ?_, fun id => ⟨fun p mem => ?_, Patch.valuesAt_ofEffects spelled id⟩⟩
  · rw [spelled.leaves_eq_iff hu.isSpelled]
    refine ⟨fun same path _ => same path, fun same path => ?_⟩
    cases wellFormed : Path.isWellFormed path with
    | true => exact same path wellFormed
    | false =>
      have malformed : Path.segments? path = none := by simp [Path.segments?, wellFormed]
      rw [fragments_of_malformed malformed, fragments_of_malformed malformed]
  · obtain ⟨leaf, listed, made⟩ := List.mem_flatMap.1 mem
    obtain ⟨value, -, rfl⟩ := List.mem_map.1 made
    exact ⟨rfl, rfl, (spelled.get?_of_mem_leaves listed).1⟩

/-- Two trees of which only the first has a node without fragments: they differ, but not in
    their leaves. -/
theorem leaves_faithful_of_empty_node :
    let xs := [("b", []), ("inject.pre", ["x", "x"]), ("inject", ["z"])]
    let ys := [("inject", ["z"]), ("inject.pre", ["x", "x"])]
    ∃ t u : EffectTree, t.Built (fun _ => True) ∧ u.Built (fun _ => True) ∧
      ofPaths xs = .ok t ∧ ofPaths ys = .ok u ∧ t.get? "b" = some [] ∧ u.get? "b" = none ∧
      t.leaves = ys ∧ t.leaves = u.leaves ∧
      (∃ again, ofPaths t.leaves = .ok again ∧ again.leaves = t.leaves) ∧
      ((Patch.ofEffects "a" t).filter (·.path == "inject.pre")).map (·.value) =
        t.fragments "inject.pre" := by
  intro xs ys
  obtain ⟨t, builtT, ht, atT⟩ := @exists_built xs (by decide +kernel)
  obtain ⟨u, builtU, hu, atU⟩ := @exists_built ys (by decide +kernel)
  have node : (ofPaths xs).toOption.map (get? "b") = some (some []) ∧
      (ofPaths ys).toOption.map (get? "b") = some none ∧
      (ofPaths xs).toOption.map leaves = some ys := by decide +kernel
  rw [builtT, builtU] at node
  obtain ⟨inT, notInU, leaves⟩ := node
  obtain ⟨-, -, -, -, again, known, patches⟩ := leaves_faithful ht
  have same : t.leaves = u.leaves := by
    refine (known u hu).2 fun path _ => ?_
    rw [atT, atU]
    by_cases pre : path = "inject.pre" <;> simp [fragmentsFor, xs, ys, pre]
  exact ⟨t, u, ht, hu, builtT, builtU, Option.some.inj inT, Option.some.inj notInU,
    Option.some.inj leaves, same, again, (patches "a").2 "inject.pre"⟩

end EffectTree

end ChatRules
