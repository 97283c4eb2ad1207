import ChatRules.Proofs.Document.Saved
import ChatRules.Proofs.EffectTree.Leaves

/-!
# Effect trees as values

An effect tree is saved as a value: a leaf as the list of its fragments, any other node as an
object of its children, in which the fragments of the node itself stand under a key of their
own. A path may have this key as a segment. Then a child and the fragments of its parent stand
under one key, and the value no longer tells them apart. Without such a path it tells the
whole tree.

Results:

* `Json.eq_of_pretty_eq`: a value without numbers is known by its text.
* `EffectNode.Ordered.eq_of_sorted_toJson_eq`: a node without the key is known by its value.
* `toJson_faithful`: the value of a tree whose paths do not have the key.
* `toJson_reserved_segment`: trees whose paths have it.
-/

namespace ChatRules

/-! ## Values and their texts -/

namespace Json

theorem sorted_ofStrings (texts : List String) : (ofStrings texts).sorted = ofStrings texts := by
  rw [ofStrings, sorted, sortedItems_eq_map, List.map_map]
  rfl

theorem ofStrings_injective : Function.Injective ofStrings := by
  intro a b eq
  have strings : a.map Json.string = b.map Json.string := Json.array.inj eq
  exact List.map_injective_iff.2 (fun _ _ => Json.string.inj) strings

/-- What is left of an object when its fields are put in order, if no key is repeated. -/
theorem find?_sorted_object {fields : List (String × Json)} (unique : (fields.map (·.1)).Nodup)
    (key : String) :
    Dict.find? key (Dict.ofList (sortedFields fields)) = (Dict.find? key fields).map sorted := by
  have keys : ((fields.map fun f => (f.1, f.2.sorted)).map (·.1)).Nodup := by
    rwa [List.map_map]
  rw [sortedFields_eq_map, Dict.find?_ofList keys, Dict.find?_map]

end Json

theorem eq_of_option_map_eq_map {α β : Type} {f : α → β} {a? b? : Option α}
    (known : ∀ a ∈ a?, ∀ b ∈ b?, f a = f b → a = b) (eq : a?.map f = b?.map f) : a? = b? := by
  cases a? with
  | none => exact (Option.map_eq_none_iff.1 eq.symm).symm
  | some a =>
    cases b? with
    | none => cases eq
    | some b => rw [known a rfl b rfl (Option.some.inj eq)]

/-- A value without numbers is known by its text. -/
theorem Json.eq_of_pretty_eq {j k : Json} (noNumbers : j.numbers = []) (others : k.numbers = [])
    (eq : j.pretty = k.pretty) : j = k := by
  have readJ : Json.read j.pretty = ⟨Document.ofJson j, none⟩ :=
    read_pretty (by simp [noNumbers])
  have readK : Json.read k.pretty = ⟨Document.ofJson k, none⟩ := read_pretty (by simp [others])
  rw [eq, readK] at readJ
  exact (Document.ofJson_injective (congrArg Json.Text.root readJ)).symm

/-! ## Nodes -/

namespace EffectNode

/-- The key under which the fragments of a node stand beside its children. -/
def valuesKey : String := "$values"

/-- The fields of a node that is saved as an object. -/
def fields (t : EffectNode) : List (String × Json) :=
  (if t.values.isEmpty then [] else [(valuesKey, .ofStrings t.values)]) ++
    t.children.map fun e => (e.1, e.2.toJson)

theorem childrenJson_eq_map (children : List (String × EffectNode)) :
    childrenJson children = children.map fun e => (e.1, e.2.toJson) := by
  induction children with
  | nil => rfl
  | cons e rest ih => rw [childrenJson, ih, List.map_cons]

/-- A leaf is saved as the list of its fragments, any other node as an object. -/
theorem toJson_cases (t : EffectNode) :
    (t.children = [] ∧ t.toJson = .ofStrings t.values) ∨ t.toJson = .object t.fields := by
  obtain ⟨values, children⟩ := t
  unfold toJson
  split
  · rename_i leaf
    rw [Bool.and_eq_true, List.isEmpty_iff] at leaf
    exact .inl ⟨leaf.1, rfl⟩
  · right
    rw [childrenJson_eq_map]
    rfl

theorem numbers_ofStrings (texts : List String) : (Json.ofStrings texts).numbers = [] := by
  rw [Json.ofStrings, Json.numbers, Json.itemsNumbers_eq_flatMap, List.flatMap_map,
    List.flatMap_eq_nil_iff]
  intro text _
  rfl

theorem numbers_toJson (t : EffectNode) : t.toJson.numbers = [] := by
  induction t using induction with
  | node values children ih =>
    rcases (EffectNode.node values children).toJson_cases with ⟨-, eq⟩ | eq
    · rw [eq, numbers_ofStrings]
    · rw [eq, Json.numbers, Json.fieldsNumbers_eq_flatMap, List.flatMap_eq_nil_iff]
      intro f mem
      rcases List.mem_append.1 mem with own | child
      · split at own
        · cases own
        · rw [List.mem_singleton.1 own, numbers_ofStrings]
      · obtain ⟨e, below, rfl⟩ := List.mem_map.1 child
        exact ih e below

/-! ### Nodes without a key -/

/-- No child of the node, or of one below it, has the key. -/
inductive Avoids (key : String) : EffectNode → Prop where
  | node {values : List String} {children : List (String × EffectNode)}
    (own : ∀ e ∈ children, e.1 ≠ key) (below : ∀ e ∈ children, Avoids key e.2) :
    Avoids key (.node values children)

namespace Avoids

variable {key : String} {t : EffectNode}

theorem own (h : t.Avoids key) : ∀ e ∈ t.children, e.1 ≠ key := by
  cases h with
  | node own _ => exact own

theorem children (h : t.Avoids key) : ∀ e ∈ t.children, e.2.Avoids key := by
  cases h with
  | node _ below => exact below

theorem empty : Avoids key empty := .node (by simp) (by simp)

theorem insertChild {values : List String} {children : List (String × EffectNode)}
    (h : (EffectNode.node values children).Avoids key) {segment : String} (ne : segment ≠ key)
    {child : EffectNode} (hc : child.Avoids key) :
    (EffectNode.node values (Dict.insert segment child children)).Avoids key := by
  constructor
  · intro e mem
    rcases Dict.mem_insert mem with rfl | mem
    · exact ne
    · exact h.own e mem
  · intro e mem
    rcases Dict.mem_insert mem with rfl | mem
    · exact hc
    · exact h.children e mem

theorem insertAt (values : List String) {segments : List String} (free : key ∉ segments)
    (h : t.Avoids key) : (insertAt values segments t).Avoids key := by
  induction segments generalizing t with
  | nil =>
    obtain ⟨old, children⟩ := t
    exact .node h.own h.children
  | cons segment rest ih =>
    obtain ⟨old, children⟩ := t
    simp only [List.mem_cons, not_or] at free
    obtain ⟨ne, others⟩ := free
    refine h.insertChild (Ne.symm ne) (ih others ?_)
    cases found : Dict.find? segment children with
    | none => exact empty
    | some child => exact h.children _ (Dict.mem_of_find? found)

theorem mergeChildren {values : List String} {ours theirs : List (String × EffectNode)}
    (h : (EffectNode.node values ours).Avoids key)
    (merge : ∀ e ∈ theirs, ∀ mine : EffectNode, mine.Avoids key → (mine.merge e.2).Avoids key)
    (own : ∀ e ∈ theirs, e.1 ≠ key) (below : ∀ e ∈ theirs, e.2.Avoids key) :
    (EffectNode.node values (mergeChildren ours theirs)).Avoids key := by
  induction theirs generalizing ours with
  | nil => simpa [EffectNode.mergeChildren] using h
  | cons e rest ih =>
    obtain ⟨segment, their⟩ := e
    obtain ⟨mergeThis, mergeRest⟩ := List.forall_mem_cons.1 merge
    obtain ⟨ne, ownRest⟩ := List.forall_mem_cons.1 own
    obtain ⟨this, belowRest⟩ := List.forall_mem_cons.1 below
    unfold EffectNode.mergeChildren
    refine ih (h.insertChild ne ?_) mergeRest ownRest belowRest
    split
    · rename_i mine found
      exact mergeThis mine (h.children _ (Dict.mem_of_find? found))
    · exact this

theorem merge {b : EffectNode} (h : t.Avoids key) (hb : b.Avoids key) :
    (t.merge b).Avoids key := by
  induction b using induction generalizing t with
  | node values children ih =>
    obtain ⟨old, ours⟩ := t
    have start : (EffectNode.node (old ++ values) ours).Avoids key := .node h.own h.children
    unfold EffectNode.merge
    exact start.mergeChildren (fun e mem mine hm => ih e mem hm (hb.children e mem)) hb.own
      hb.children

end Avoids

section Faithful

variable {t : EffectNode}

theorem nodup_fields (ordered : t.Ordered) (free : t.Avoids valuesKey) :
    (t.fields.map (·.1)).Nodup := by
  have keys : ((t.children.map fun e => (e.1, e.2.toJson)).map (·.1)).Nodup := by
    rw [List.map_map]
    exact ordered.sorted.nodup
  unfold fields
  split
  · exact keys
  · rw [List.map_append, List.map_singleton, List.singleton_append, List.nodup_cons]
    refine ⟨?_, keys⟩
    rw [List.map_map, List.mem_map]
    rintro ⟨e, mem, eq⟩
    exact free.own e mem eq

theorem find?_fields_of_ne {key : String} (ne : key ≠ valuesKey) :
    Dict.find? key t.fields = (Dict.find? key t.children).map toJson := by
  rw [fields, Dict.find?_append, Dict.find?_map]
  split
  · rfl
  · simp [Dict.find?, Ne.symm ne]

theorem find?_children_valuesKey (free : t.Avoids valuesKey) :
    Dict.find? valuesKey t.children = none :=
  Dict.find?_eq_none_of_forall_ne free.own

theorem find?_fields_valuesKey (free : t.Avoids valuesKey) :
    Dict.find? valuesKey t.fields =
      if t.values.isEmpty then none else some (.ofStrings t.values) := by
  rw [fields, Dict.find?_append, Dict.find?_map, find?_children_valuesKey free]
  split <;> simp [Dict.find?]

/-- The fragments of a node are known by what stands under the key. -/
theorem eq_of_own_eq {values others : List String}
    (eq : Option.map Json.sorted (if values.isEmpty then none else some (.ofStrings values)) =
      Option.map Json.sorted (if others.isEmpty then none else some (.ofStrings others))) :
    values = others := by
  cases values with
  | nil =>
    cases others with
    | nil => rfl
    | cons => simp at eq
  | cons v vs =>
    cases others with
    | nil => simp at eq
    | cons w ws =>
      simp only [List.isEmpty_cons, Bool.false_eq_true, if_false, Option.map_some,
        Json.sorted_ofStrings] at eq
      exact Json.ofStrings_injective (Option.some.inj eq)

theorem hasUniqueKeys_ofStrings (texts : List String) :
    (Document.ofJson (.ofStrings texts)).hasUniqueKeys = true := by
  refine Document.hasUniqueKeys_array fun j mem => ?_
  obtain ⟨text, -, rfl⟩ := List.mem_map.1 mem
  rfl

/-- No object repeats a key. -/
theorem hasUniqueKeys_toJson (ordered : t.Ordered) (free : t.Avoids valuesKey) :
    (Document.ofJson t.toJson).hasUniqueKeys = true := by
  induction t using induction with
  | node values children ih =>
    rcases (EffectNode.node values children).toJson_cases with ⟨-, eq⟩ | eq
    · rw [eq]
      exact hasUniqueKeys_ofStrings values
    · rw [eq]
      refine Document.hasUniqueKeys_object (nodup_fields ordered free) fun f mem => ?_
      rcases List.mem_append.1 mem with own | child
      · split at own
        · cases own
        · rw [List.mem_singleton.1 own]
          exact hasUniqueKeys_ofStrings values
      · obtain ⟨e, below, rfl⟩ := List.mem_map.1 child
        exact ih e below (ordered.children e below) (free.children e below)

/-- **A node that avoids the key is known by its value**, in whatever order its fields stand. -/
theorem Ordered.eq_of_sorted_toJson_eq {a b : EffectNode} (ha : a.Ordered) (hb : b.Ordered)
    (freeA : a.Avoids valuesKey) (freeB : b.Avoids valuesKey)
    (eq : a.toJson.sorted = b.toJson.sorted) : a = b := by
  induction a using induction generalizing b with
  | node values children ih =>
    rcases (EffectNode.node values children).toJson_cases with ⟨leafA, jsonA⟩ | jsonA <;>
      rcases b.toJson_cases with ⟨leafB, jsonB⟩ | jsonB <;> rw [jsonA, jsonB] at eq
    · rw [Json.sorted_ofStrings, Json.sorted_ofStrings] at eq
      have same : (EffectNode.node values children).values = b.values :=
        Json.ofStrings_injective eq
      refine ha.ext hb same fun segment => ?_
      rw [leafA, leafB]
    · rw [Json.sorted_ofStrings] at eq
      cases eq
    · rw [Json.sorted_ofStrings] at eq
      cases eq
    · -- The key leads to the fragments of the node, every other field to a child.
      have fields (key : String) :
          (Dict.find? key (EffectNode.node values children).fields).map Json.sorted =
            (Dict.find? key b.fields).map Json.sorted := by
        rw [← Json.find?_sorted_object (nodup_fields ha freeA),
          ← Json.find?_sorted_object (nodup_fields hb freeB)]
        exact congrArg (Dict.find? key) (Json.object.inj eq)
      refine ha.ext hb ?_ fun segment => ?_
      · have own := fields valuesKey
        rw [find?_fields_valuesKey freeA, find?_fields_valuesKey freeB] at own
        exact eq_of_own_eq own
      · by_cases reserved : segment = valuesKey
        · rw [reserved, find?_children_valuesKey freeA, find?_children_valuesKey freeB]
        · have child := fields segment
          rw [find?_fields_of_ne reserved, find?_fields_of_ne reserved] at child
          rw [Option.map_map, Option.map_map] at child
          refine eq_of_option_map_eq_map (fun x foundA y foundB same => ?_) child
          have mem : (segment, x) ∈ children := Dict.mem_of_find? foundA
          have other : (segment, y) ∈ b.children := Dict.mem_of_find? foundB
          exact ih _ mem (ha.children _ mem) (hb.children _ other) (freeA.children _ mem)
            (freeB.children _ other) same

end Faithful

end EffectNode

/-! ## Trees -/

namespace EffectTree

/-- The trees that are built from paths of a kind: fragments are put at such paths, and trees
    are merged. -/
inductive Built (accepts : String → Prop) : EffectTree → Prop where
  | empty : Built accepts empty
  | insert {t after : EffectTree} {path : String} {values : List String} (h : Built accepts t)
    (accepted : accepts path) (inserted : t.insert path values = .ok after) : Built accepts after
  | merge {a b : EffectTree} (ha : Built accepts a) (hb : Built accepts b) :
    Built accepts (a.merge b)

namespace Built

variable {accepts : String → Prop} {entries : List (String × List String)} {t after : EffectTree}

theorem insertAll (h : t.Built accepts) (accepted : ∀ e ∈ entries, accepts e.1)
    (inserted : insertAll entries t = .ok after) : after.Built accepts := by
  induction entries generalizing t with
  | nil =>
    cases inserted
    exact h
  | cons e rest ih =>
    obtain ⟨this, others⟩ := List.forall_mem_cons.1 accepted
    unfold EffectTree.insertAll at inserted
    split at inserted
    · cases inserted
    · rename_i next first
      exact ih (h.insert this first) others inserted

theorem ofPaths (accepted : ∀ e ∈ entries, accepts e.1)
    (built : ofPaths entries = .ok after) : after.Built accepts :=
  empty.insertAll accepted built

/-- Where no path has a segment, no node has it as a key. -/
theorem avoids {key : String} (h : t.Built (key ∉ Path.segments ·)) : t.root.Avoids key := by
  induction h with
  | empty => exact EffectNode.Avoids.empty
  | @insert t after path values _ accepted inserted ih =>
    unfold EffectTree.insert Path.segments? at inserted
    split at inserted
    · rename_i segments spelled
      cases inserted
      obtain ⟨-, rfl⟩ := segments?_eq_some_iff.1 spelled
      exact ih.insertAt values accepted
    · cases inserted
  | merge _ _ ihA ihB => exact ihA.merge ihB

end Built

/-- Whether the key of the fragments is no segment of a path. -/
def Unreserved (path : String) : Prop := EffectNode.valuesKey ∉ Path.segments path

instance (path : String) : Decidable (Unreserved path) := inferInstanceAs (Decidable (¬ _))

/-- **The value of a tree loses nothing.** Two trees whose paths do not have the key of the
    fragments are equal, leaves and all, if their values are, in whatever order the fields stand,
    or if their texts are. The text is read back as the value, and no object in it repeats a
    key. -/
theorem toJson_faithful {a b : EffectTree} (ha : a.Built Unreserved) (hb : b.Built Unreserved) :
    (a.toJson.sorted = b.toJson.sorted → a = b) ∧ (a.toJson.pretty = b.toJson.pretty → a = b) ∧
      Json.read a.toJson.pretty = ⟨Document.ofJson a.toJson, none⟩ ∧
      (Document.ofJson a.toJson).hasUniqueKeys = true := by
  have values (eq : a.toJson.sorted = b.toJson.sorted) : a = b :=
    EffectTree.ext (a.ordered.eq_of_sorted_toJson_eq b.ordered ha.avoids hb.avoids eq)
  have numbers : ∀ n ∈ a.toJson.numbers, n.ReadsBack := by
    intro n mem
    rw [toJson, EffectNode.numbers_toJson] at mem
    cases mem
  refine ⟨values, fun eq => values (congrArg Json.sorted ?_), Json.read_pretty numbers,
    EffectNode.hasUniqueKeys_toJson a.ordered ha.avoids⟩
  exact Json.eq_of_pretty_eq a.root.numbers_toJson b.root.numbers_toJson eq

/-- Fragments at a node and below it, put there from two sides. -/
theorem toJson_faithful_leaf_and_branch :
    ∃ a b : EffectTree, a.Built Unreserved ∧ b.Built Unreserved ∧
      a.toJson = .object [("inject", .object [("$values", .ofStrings ["whole"]),
        ("pre", .ofStrings ["part"])])] ∧
      a.toJson.sorted = b.toJson.sorted ∧ a = b ∧
      Json.read a.toJson.pretty = ⟨Document.ofJson a.toJson, none⟩ ∧
      (Document.ofJson a.toJson).hasUniqueKeys = true := by
  have tree (entries : List (String × List String)) (ok : (ofPaths entries).isOk = true)
      (free : ∀ e ∈ entries, Unreserved e.1) :
      ((ofPaths entries).toOption.getD .empty).Built Unreserved := by
    cases built : ofPaths entries with
    | error e => simp [built, Except.isOk, Except.toBool] at ok
    | ok t => exact Built.ofPaths free built
  have whole := tree [("inject", ["whole"])] (by decide +kernel) (by decide +kernel)
  have part := tree [("inject.pre", ["part"])] (by decide +kernel) (by decide +kernel)
  have both := tree [("inject.pre", ["part"]), ("inject", ["whole"])] (by decide +kernel)
    (by decide +kernel)
  obtain ⟨known, -, read, unique⟩ := toJson_faithful (whole.merge part) both
  exact ⟨_, _, whole.merge part, both, by decide +kernel, by decide +kernel,
    known (by decide +kernel), read, unique⟩

/-- Trees whose paths have the key: one whose value is that of a tree with other leaves, and
    one whose value has the key twice. -/
theorem toJson_reserved_segment :
    (ofPaths [("a.$values", ["x"]), ("a.b", ["y"])]).toOption.map toJson =
      (ofPaths [("a", ["x"]), ("a.b", ["y"])]).toOption.map toJson ∧
    (ofPaths [("a.$values", ["x"]), ("a.b", ["y"])]).toOption.map leaves =
      some [("a.$values", ["x"]), ("a.b", ["y"])] ∧
    (ofPaths [("a", ["x"]), ("a.b", ["y"])]).toOption.map leaves =
      some [("a", ["x"]), ("a.b", ["y"])] ∧
    (ofPaths [("a", ["x"]), ("a.$values", ["y"])]).toOption.map
      (fun t => (Document.ofJson t.toJson).hasUniqueKeys) = some false := by
  decide +kernel

end EffectTree

end ChatRules
