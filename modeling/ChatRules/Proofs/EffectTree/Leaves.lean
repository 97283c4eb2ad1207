import ChatRules.Proofs.EffectTree.Fragments
import Mathlib.Data.List.Basic

/-!
# The leaves of a tree

The leaves of a tree spell the places of its nodes as paths. A tree whose fragments stand at
the segments of well-formed paths is spelled back as it was read: its leaves are these paths
with their fragments.

Results:

* `Path.foldl_below_segments`: the segments of a well-formed path spell it.
* `EffectNode.Ordered.mem_places_iff`: the places in a node that have fragments, by segments.
* `EffectNode.Ordered.mem_leavesBelow_iff`: the leaves below a node are its places, spelled.
* `EffectTree.IsSpelled.insertAll`: a tree stays spelled when fragments are put at paths.
* `EffectTree.IsSpelled.mem_leaves_iff`: the leaves of a tree, by paths.
* `EffectNode.Ordered.flatMap_places`: every place in a node is listed once.
* `EffectTree.IsSpelled.fragmentsFor_leaves`: so the leaves of a tree have at a path what the
  tree has there.
-/

namespace ChatRules

namespace Path

/-- The characters of segments below a path. -/
theorem toList_foldl_below (segments : List String) {path : String} (ne : path ≠ "") :
    (segments.foldl below path).toList =
      path.toList ++ segments.flatMap fun s => '.' :: s.toList := by
  induction segments generalizing path with
  | nil => simp
  | cons s rest ih =>
    have step : below path s = path ++ "." ++ s := by
      simp [below, String.isEmpty_iff, ne]
    have nonempty : path ++ "." ++ s ≠ "" := by simp [String.append_eq_empty_iff, ne]
    rw [List.foldl_cons, step, ih nonempty]
    simp [List.append_assoc]

theorem intercalate_cons (dots first : List Char) (rest : List (List Char)) :
    dots.intercalate (first :: rest) = first ++ rest.flatMap (dots ++ ·) := by
  induction rest generalizing first with
  | nil => simp [List.intercalate]
  | cons next rest ih =>
    rw [List.intercalate_cons_cons, ih next]
    simp

/-- The segments of a well-formed path spell it. -/
theorem foldl_below_segments {path : String} (wellFormed : isWellFormed path = true) :
    (segments path).foldl below "" = path := by
  have text := intercalate_splitDots path.toList
  unfold isWellFormed segments at *
  cases parts : splitDots path.toList with
  | nil => exact absurd parts (splitDots_ne_nil _)
  | cons first rest =>
    rw [parts] at text wellFormed
    have ne : String.ofList first ≠ "" := by
      intro empty
      simp [empty] at wellFormed
    have begun : below "" (String.ofList first) = String.ofList first := rfl
    refine String.toList_inj.1 ?_
    rw [List.map_cons, List.foldl_cons, begun, toList_foldl_below _ ne, ← text, intercalate_cons]
    simp [List.flatMap_map]

end Path

namespace EffectNode

theorem childLeaves_eq_flatMap (path : String) (children : List (String × EffectNode)) :
    childLeaves path children =
      children.flatMap fun e => leavesBelow (Path.below path e.1) e.2 := by
  induction children with
  | nil => rfl
  | cons e rest ih => rw [childLeaves, ih, List.flatMap_cons]

/-! ## Places -/

mutual

/-- The places in a node that have fragments, by segments, with their fragments. -/
def places : EffectNode → List (List String × List String)
  | .node values children =>
    (if values.isEmpty then [] else [([], values)]) ++ childPlaces children

/-- The places in children. -/
def childPlaces : List (String × EffectNode) → List (List String × List String)
  | [] => []
  | (segment, t) :: rest => t.places.map (fun e => (segment :: e.1, e.2)) ++ childPlaces rest

end

theorem childPlaces_eq_flatMap (children : List (String × EffectNode)) :
    childPlaces children =
      children.flatMap fun e => e.2.places.map fun p => (e.1 :: p.1, p.2) := by
  induction children with
  | nil => rfl
  | cons e rest ih => rw [childPlaces, ih, List.flatMap_cons]

/-- The leaves below a node are its places, spelled after the path of the node. -/
theorem leavesBelow_eq_map (t : EffectNode) (path : String) :
    t.leavesBelow path = t.places.map fun e => (e.1.foldl Path.below path, e.2) := by
  induction t using induction generalizing path with
  | node own children ih =>
    unfold leavesBelow places
    rw [childLeaves_eq_flatMap, childPlaces_eq_flatMap, List.map_append, List.map_flatMap]
    congr 1
    · split <;> rfl
    · exact List.flatMap_congr fun e mem => by
        rw [ih e mem, List.map_map]
        rfl

/-- The places in a node are the segments that have fragments, with their fragments. -/
theorem Ordered.mem_places_iff {t : EffectNode} (h : t.Ordered)
    {segments values : List String} :
    (segments, values) ∈ t.places ↔ values ≠ [] ∧ t.fragments segments = values := by
  induction t using induction generalizing segments with
  | node own children ih =>
    unfold places
    rw [childPlaces_eq_flatMap, List.mem_append, List.mem_flatMap]
    constructor
    · rintro (here | ⟨⟨segment, child⟩, mem, below⟩)
      · split at here
        · cases here
        · rename_i filled
          cases List.mem_singleton.1 here
          exact ⟨by simpa using filled, rfl⟩
      · obtain ⟨⟨rest, _⟩, inChild, eq⟩ := List.mem_map.1 below
        cases eq
        obtain ⟨ne, found⟩ := (ih _ mem (h.children _ mem)).1 inChild
        refine ⟨ne, ?_⟩
        -- No other child has this segment, so it leads to the one that is listed.
        have there : Dict.find? segment children = some child :=
          Dict.find?_of_mem h.sorted.nodup mem
        rw [fragments_cons, children_node, there]
        exact found
    · rintro ⟨ne, eq⟩
      cases segments with
      | nil =>
        left
        subst eq
        have filled : own ≠ [] := ne
        simp [filled, fragments_nil]
      | cons segment rest =>
        right
        rw [fragments_cons, children_node] at eq
        cases found : Dict.find? segment children with
        | none => exact absurd (by simpa [found] using eq.symm) ne
        | some child =>
          rw [found] at eq
          have mem : (segment, child) ∈ children := Dict.mem_of_find? found
          exact ⟨(segment, child), mem,
            List.mem_map.2 ⟨(rest, values), (ih _ mem (h.children _ mem)).2 ⟨ne, eq⟩, rfl⟩⟩

/-- The leaves below a node are the places with fragments, spelled after the path of the
    node. -/
theorem Ordered.mem_leavesBelow_iff {t : EffectNode} (h : t.Ordered) {path p : String}
    {values : List String} :
    (p, values) ∈ leavesBelow path t ↔
      values ≠ [] ∧ ∃ segments, segments.foldl Path.below path = p ∧
        t.fragments segments = values := by
  rw [leavesBelow_eq_map, List.mem_map]
  constructor
  · rintro ⟨⟨segments, _⟩, mem, eq⟩
    cases eq
    obtain ⟨ne, found⟩ := h.mem_places_iff.1 mem
    exact ⟨ne, segments, rfl, found⟩
  · rintro ⟨ne, segments, rfl, found⟩
    exact ⟨(segments, values), h.mem_places_iff.2 ⟨ne, found⟩, rfl⟩

/-- Every place is listed once: to gather what is listed for segments is to look them up. -/
theorem Ordered.flatMap_places {t : EffectNode} (h : t.Ordered) (segments : List String) :
    (t.places.flatMap fun e => if segments = e.1 then e.2 else []) = t.fragments segments := by
  induction t using induction generalizing segments with
  | node own children ih =>
    unfold places
    rw [childPlaces_eq_flatMap, List.flatMap_append, List.flatMap_assoc]
    cases segments with
    | nil =>
      have here : ((if own.isEmpty then [] else [([], own)]).flatMap
          fun e : List String × List String => if [] = e.1 then e.2 else []) = own := by
        cases own <;> simp
      have below : (children.flatMap fun e => (e.2.places.map fun p => (e.1 :: p.1, p.2)).flatMap
          fun e => if [] = e.1 then e.2 else []) = [] := by
        simp [List.flatMap_map]
      rw [here, below, List.append_nil, fragments_nil, values_node]
    | cons segment rest =>
      have here : ((if own.isEmpty then [] else [([], own)]).flatMap
          fun e : List String × List String => if segment :: rest = e.1 then e.2 else []) = [] := by
        cases own <;> simp
      have below : ∀ e ∈ children, ((e.2.places.map fun p => (e.1 :: p.1, p.2)).flatMap
          fun p => if segment :: rest = p.1 then p.2 else []) =
            if segment = e.1 then e.2.fragments rest else [] := by
        intro e mem
        rw [List.flatMap_map, ← ih e mem (h.children e mem)]
        by_cases eq : segment = e.1 <;> simp [eq]
      rw [here, List.nil_append, List.flatMap_congr below, fragments_cons, children_node]
      exact Dict.flatMap_ite_eq h.sorted.nodup segment (fragments rest)

end EffectNode

/-! ## Trees -/

namespace EffectTree

/-- Whether all fragments of a tree stand at the segments of well-formed paths. -/
def IsSpelled (t : EffectTree) : Prop :=
  ∀ segments, t.root.fragments segments ≠ [] → ∃ path, Path.segments? path = some segments

theorem isSpelled_empty : empty.IsSpelled :=
  fun segments filled => absurd (EffectNode.fragments_empty segments) filled

theorem IsSpelled.insert {t after : EffectTree} (h : t.IsSpelled) {path : String}
    {values : List String} (inserted : t.insert path values = .ok after) : after.IsSpelled := by
  unfold EffectTree.insert at inserted
  split at inserted
  · rename_i segments spelled
    cases inserted
    intro other filled
    rw [EffectNode.fragments_insertAt] at filled
    by_cases eq : other = segments
    · exact ⟨path, eq ▸ spelled⟩
    · exact h other (by simpa [eq] using filled)
  · cases inserted

theorem IsSpelled.insertAll {entries : List (String × List String)} {t after : EffectTree}
    (h : t.IsSpelled) (inserted : insertAll entries t = .ok after) : after.IsSpelled := by
  induction entries generalizing t with
  | nil =>
    cases inserted
    exact h
  | cons e rest ih =>
    unfold EffectTree.insertAll at inserted
    split at inserted
    · cases inserted
    · rename_i next first
      exact ih (h.insert first) inserted

theorem segments?_eq_some_iff {path : String} {segments : List String} :
    Path.segments? path = some segments ↔
      Path.isWellFormed path = true ∧ Path.segments path = segments := by
  simp [Path.segments?]

/-- The places in a spelled tree are those of paths. -/
theorem IsSpelled.exists_path_of_mem_places {t : EffectTree} (h : t.IsSpelled)
    {e : List String × List String} (mem : e ∈ t.root.places) :
    ∃ path, Path.segments? path = some e.1 ∧ e.1.foldl Path.below "" = path := by
  obtain ⟨ne, found⟩ := t.ordered.mem_places_iff.1 mem
  obtain ⟨path, spelled⟩ := h e.1 (by rwa [found])
  obtain ⟨wellFormed, segments⟩ := segments?_eq_some_iff.1 spelled
  exact ⟨path, spelled, by rw [← segments, Path.foldl_below_segments wellFormed]⟩

/-- The leaves of a tree are the paths that have fragments, with their fragments. -/
theorem IsSpelled.mem_leaves_iff {t : EffectTree} (h : t.IsSpelled) {path : String}
    {values : List String} :
    (path, values) ∈ t.leaves ↔ values ≠ [] ∧ t.fragments path = values := by
  rw [leaves, t.ordered.mem_leavesBelow_iff]
  refine and_congr_right fun ne => ⟨?_, fun found => ?_⟩
  · rintro ⟨segments, rfl, found⟩
    obtain ⟨path, spelled⟩ := h segments (by rwa [found])
    obtain ⟨wellFormed, rfl⟩ := segments?_eq_some_iff.1 spelled
    rw [Path.foldl_below_segments wellFormed, fragments_eq spelled, found]
  · cases spelled : Path.segments? path with
    | none => exact absurd (found.symm.trans (fragments_of_malformed spelled t)) ne
    | some segments =>
      obtain ⟨wellFormed, rfl⟩ := segments?_eq_some_iff.1 spelled
      exact ⟨Path.segments path, Path.foldl_below_segments wellFormed,
        (fragments_eq spelled t).symm.trans found⟩

/-- The leaves of a tree have at a path what the tree has there. -/
theorem IsSpelled.fragmentsFor_leaves {t : EffectTree} (h : t.IsSpelled) (path : String) :
    fragmentsFor path t.leaves = t.fragments path := by
  -- The places of a spelled tree are known by their paths.
  have known : ∀ e ∈ t.root.places, (if path = e.1.foldl Path.below "" then e.2 else []) =
      if Path.segments? path = some e.1 then e.2 else [] := by
    intro e mem
    obtain ⟨own, spelled, eq⟩ := h.exists_path_of_mem_places mem
    have same : path = own ↔ Path.segments? path = some e.1 := by
      constructor
      · rintro rfl
        exact spelled
      · intro spelledToo
        exact Path.segments_injective
          ((segments?_eq_some_iff.1 spelledToo).2.trans (segments?_eq_some_iff.1 spelled).2.symm)
    rw [eq]
    simp only [same]
  rw [fragmentsFor, leaves, EffectNode.leavesBelow_eq_map, List.flatMap_map,
    List.flatMap_congr known]
  cases segments? : Path.segments? path with
  | none => simp [fragments_of_malformed segments?]
  | some segments =>
    rw [fragments_eq segments?, ← t.ordered.flatMap_places]
    simp only [Option.some.injEq]

end EffectTree

end ChatRules
