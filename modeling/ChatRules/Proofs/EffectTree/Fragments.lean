import ChatRules.EffectTree

/-!
# The fragments at a path

An effect tree is known by the fragments at its paths. To put fragments into a tree
appends them at one path, and to merge trees appends their fragments at every path; the
other paths keep what they have, also those that lead through the path or begin with it.

Results:

* `fragments_insert`, `fragments_merge`: what is at a path after a fragment is put in, and
  after a merge.
* `fragments_foldl_merge`: what is at a path after many merges.
* `insertAll_of_malformed`: the first malformed path of a list is the error of the list.
* `fragments_insertAll`: what is at a path after a list without malformed paths.
-/

namespace ChatRules

/-- Entries with a key are gathered from a dictionary by looking the key up. -/
theorem Dict.flatMap_ite_eq {α β : Type} {d : List (String × α)} (unique : (d.map (·.1)).Nodup)
    (key : String) (f : α → List β) :
    (d.flatMap fun e => if key = e.1 then f e.2 else []) = ((find? key d).map f).getD [] := by
  induction d with
  | nil => rfl
  | cons e rest ih =>
    obtain ⟨other, value⟩ := e
    obtain ⟨fresh, uniqueRest⟩ := List.nodup_cons.1 unique
    rw [List.flatMap_cons, ih uniqueRest]
    by_cases eq : key = other
    · subst eq
      simp [find?, find?_eq_none_of_not_mem fresh]
    · simp [find?, eq, Ne.symm eq]

namespace EffectNode

/-- The fragments of the node at a list of segments; none if there is no node. -/
def fragments (segments : List String) (t : EffectNode) : List String :=
  ((t.node? segments).map (·.values)).getD []

theorem fragments_nil (t : EffectNode) : t.fragments [] = t.values := rfl

theorem fragments_cons (segment : String) (rest : List String) (t : EffectNode) :
    t.fragments (segment :: rest) =
      ((Dict.find? segment t.children).map (·.fragments rest)).getD [] := by
  simp only [fragments, node?]
  cases Dict.find? segment t.children <;> rfl

theorem fragments_empty (segments : List String) : empty.fragments segments = [] := by
  cases segments <;> rfl

/-- Fragments that are put in stand at their own path, after those that were there. -/
theorem fragments_insertAt (values path other : List String) (t : EffectNode) :
    (insertAt values path t).fragments other =
      t.fragments other ++ if other = path then values else [] := by
  induction path generalizing t other with
  | nil =>
    obtain ⟨old, children⟩ := t
    cases other with
    | nil => simp [insertAt, fragments_nil]
    | cons segment rest => simp [insertAt, fragments_cons]
  | cons key below ih =>
    obtain ⟨old, children⟩ := t
    cases other with
    | nil => simp [insertAt, fragments_nil]
    | cons segment rest =>
      unfold insertAt
      rw [fragments_cons, fragments_cons, children_node, children_node]
      by_cases eq : segment = key
      · subst eq
        rw [Dict.find?_insert_self, Option.map_some, Option.getD_some, ih]
        cases Dict.find? segment children <;> simp [fragments_empty]
      · rw [Dict.find?_insert_of_ne eq]
        simp [eq]

/-- A merge has the fragments of both nodes, those of the first before the others. -/
theorem Ordered.fragments_merge {b : EffectNode} (hb : b.Ordered) (a : EffectNode)
    (segments : List String) :
    (a.merge b).fragments segments = a.fragments segments ++ b.fragments segments := by
  induction segments generalizing a b with
  | nil => simp [fragments_nil, values_merge]
  | cons segment rest ih =>
    rw [fragments_cons, fragments_cons, fragments_cons, hb.find?_merge]
    cases inB : Dict.find? segment b.children with
    | none => simp
    | some theirs =>
      cases Dict.find? segment a.children with
      | none => simp
      | some ours =>
        have below := ih (hb.find? inB) ours
        simpa using below

end EffectNode

namespace EffectTree

/-- The fragments exactly at a path; none if there is no node. -/
def fragments (path : String) (t : EffectTree) : List String := (t.get? path).getD []

theorem fragments_eq {path : String} {segments : List String}
    (wellFormed : Path.segments? path = some segments) (t : EffectTree) :
    t.fragments path = t.root.fragments segments := by
  simp only [fragments, get?, wellFormed, Option.bind_some, EffectNode.fragments]

theorem fragments_of_malformed {path : String} (malformed : Path.segments? path = none)
    (t : EffectTree) : t.fragments path = [] := by
  simp [fragments, get?, malformed]

theorem fragments_empty (path : String) : empty.fragments path = [] := by
  cases segments? : Path.segments? path with
  | none => exact fragments_of_malformed segments? empty
  | some segments => rw [fragments_eq segments?, empty, EffectNode.fragments_empty]

/-- A merge has the fragments of both trees at every path. -/
theorem fragments_merge (a b : EffectTree) (path : String) :
    (a.merge b).fragments path = a.fragments path ++ b.fragments path := by
  cases segments? : Path.segments? path with
  | none => simp [fragments_of_malformed segments?]
  | some segments =>
    rw [fragments_eq segments?, fragments_eq segments?, fragments_eq segments?]
    exact b.ordered.fragments_merge a.root segments

theorem fragments_foldl_merge (trees : List EffectTree) (start : EffectTree) (path : String) :
    (trees.foldl merge start).fragments path =
      start.fragments path ++ trees.flatMap (·.fragments path) := by
  induction trees generalizing start with
  | nil => simp
  | cons tree rest ih =>
    rw [List.foldl_cons, ih, fragments_merge, List.flatMap_cons, List.append_assoc]

/-! ## Putting fragments in -/

theorem insert_of_malformed {path : String} (malformed : Path.isWellFormed path = false)
    (values : List String) (t : EffectTree) :
    t.insert path values = .error (.malformedPath path) := by
  simp [insert, Path.segments?, malformed]

/-- At a well-formed path fragments can be put in, and they stand there after those that
    were there before. -/
theorem fragments_insert {path : String} (wellFormed : Path.isWellFormed path = true)
    (values : List String) (t : EffectTree) :
    ∃ after, t.insert path values = .ok after ∧
      ∀ other, after.fragments other =
        t.fragments other ++ if other = path then values else [] := by
  have segments? : Path.segments? path = some (Path.segments path) := by
    simp [Path.segments?, wellFormed]
  refine ⟨_, by simp only [insert, segments?]; rfl, fun other => ?_⟩
  by_cases otherFormed : Path.isWellFormed other = true
  · have otherSegments? : Path.segments? other = some (Path.segments other) := by
      simp [Path.segments?, otherFormed]
    have same : Path.segments other = Path.segments path ↔ other = path :=
      ⟨Path.segments_injective, congrArg _⟩
    rw [fragments_eq otherSegments?, fragments_eq otherSegments?]
    simp only [EffectNode.fragments_insertAt, same]
  · have malformed : Path.segments? other = none := by simp [Path.segments?, otherFormed]
    have ne : other ≠ path := by
      rintro rfl
      exact otherFormed wellFormed
    simp [fragments_of_malformed malformed, ne]

/-- The fragments that a list of paths has for a path. -/
def fragmentsFor (path : String) (entries : List (String × List String)) : List String :=
  entries.flatMap fun e => if path = e.1 then e.2 else []

theorem insertAll_of_malformed {entries : List (String × List String)} {e : String × List String}
    (first : entries.find? (fun e => !Path.isWellFormed e.1) = some e) (t : EffectTree) :
    insertAll entries t = .error (.malformedPath e.1) := by
  induction entries generalizing t with
  | nil => cases first
  | cons entry rest ih =>
    obtain ⟨path, values⟩ := entry
    unfold insertAll
    cases wellFormed : Path.isWellFormed path with
    | false =>
      rw [insert_of_malformed wellFormed]
      rw [List.find?_cons_of_pos (by simp [wellFormed])] at first
      cases first
      rfl
    | true =>
      obtain ⟨after, inserted, -⟩ := fragments_insert wellFormed values t
      rw [inserted]
      rw [List.find?_cons_of_neg (by simp [wellFormed])] at first
      exact ih first after

theorem fragments_insertAll {entries : List (String × List String)}
    (wellFormed : ∀ e ∈ entries, Path.isWellFormed e.1 = true) (t : EffectTree) :
    ∃ after, insertAll entries t = .ok after ∧
      ∀ path, after.fragments path = t.fragments path ++ fragmentsFor path entries := by
  induction entries generalizing t with
  | nil => exact ⟨t, rfl, by simp [fragmentsFor]⟩
  | cons entry rest ih =>
    obtain ⟨path, values⟩ := entry
    obtain ⟨first, others⟩ := List.forall_mem_cons.1 wellFormed
    obtain ⟨next, inserted, atNext⟩ := fragments_insert first values t
    obtain ⟨after, insertedAll, atAfter⟩ := ih others next
    refine ⟨after, ?_, fun path => ?_⟩
    · unfold insertAll
      rw [inserted]
      exact insertedAll
    · rw [atAfter, atNext, List.append_assoc]
      rfl

end EffectTree

end ChatRules
