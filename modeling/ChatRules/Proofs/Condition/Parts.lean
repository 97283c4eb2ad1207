import Mathlib.Data.List.Forall2
import ChatRules.Proofs.Condition.Copy
import ChatRules.Proofs.Document.Values

/-!
# Conditions and their parts

Every value is loaded as some condition: what is no node is kept as it stands. The node of an
object that joins or negates other values has the conditions of these values as its parts,
each of them loaded as it would be alone. So what is wrong with one of them is kept in its own
place.

Results:

* `loadedFrom_of_ofJson`, `exists_loadedFrom`: what a value is loaded as.
* `LoadedFrom.followsParts`: the node of an object and the conditions of its parts.
-/

namespace ChatRules.Condition

open Document

/-- The condition that a value is loaded as. If it is no node, it is the value, with the fields
    of every object in the order of their keys. -/
structure LoadedFrom (j : Json) (c : Condition) : Prop where
  loaded : ofJson j = some c
  kept : ∀ raw, c = .invalid raw → raw = j.sorted

theorem loadedFrom_of_ofJson {j : Json} (finite : (Document.ofJson j).IsFinite) {c : Condition}
    (h : ofJson j = some c) : LoadedFrom j c := by
  refine ⟨h, ?_⟩
  rintro raw rfl
  have value := toJson?_of_ofDocument_invalid h
  rw [Json.toJson?_ofJson_eq_sorted finite] at value
  exact (Option.some.inj value).symm

/-- Every value with finite numbers is loaded as some condition. -/
theorem exists_loadedFrom {j : Json} (finite : (Document.ofJson j).IsFinite) :
    ∃ c, LoadedFrom j c := by
  obtain ⟨c, h⟩ := exists_of_toJson? (Json.toJson?_ofJson_eq_sorted finite false)
  exact ⟨c, loadedFrom_of_ofJson finite h⟩

/-- A value that may be `null` is loaded as nothing then, and as some condition otherwise. -/
theorem exists_nullable? {j : Json} (finite : (Document.ofJson j).IsFinite) :
    ∃ c?, nullable? ofDocument (Document.ofJson j) = some c? ∧ (c? = none ↔ j = .null) ∧
      ∀ c ∈ c?, LoadedFrom j c := by
  by_cases null : j = .null
  · subst null
    exact ⟨none, rfl, by simp, by simp⟩
  · obtain ⟨c, h⟩ := exists_loadedFrom finite
    refine ⟨some c, nullable?_saved null h.loaded, by simp [null], ?_⟩
    rintro _ ⟨⟩
    exact h

/-- How the condition of an object comes from those of its parts. -/
structure FollowsParts (fields : List (String × Json)) (c : Condition) : Prop where
  and : ∀ items, Dict.find? "type" fields = some (.string "and") →
    Dict.find? "children" fields = some (.array items) →
      ∃ cs, c = .and cs ∧ List.Forall₂ LoadedFrom items cs
  or : ∀ items, Dict.find? "type" fields = some (.string "or") →
    Dict.find? "children" fields = some (.array items) →
      ∃ cs, c = .or cs ∧ List.Forall₂ LoadedFrom items cs
  not : ∀ child, Dict.find? "type" fields = some (.string "not") →
    Dict.find? "child" fields = some child → child ≠ .null →
      ∃ part, c = .not (some part) ∧ LoadedFrom child part

theorem exists_ofItems {items : List Json}
    (finite : ∀ j ∈ items, (Document.ofJson j).IsFinite) :
    ∃ cs, ofItems (ofJsonItems items) = some cs ∧ List.Forall₂ LoadedFrom items cs := by
  induction items with
  | nil => exact ⟨[], by rw [ofJsonItems, ofItems], .nil⟩
  | cons j rest ih =>
    obtain ⟨finiteFirst, finiteRest⟩ := List.forall_mem_cons.1 finite
    obtain ⟨c, first⟩ := exists_loadedFrom finiteFirst
    obtain ⟨cs, others, parts⟩ := ih finiteRest
    have found : ofDocument (Document.ofJson j) = some c := first.loaded
    exact ⟨c :: cs, by rw [ofJsonItems, ofItems, found, others], .cons first parts⟩

section

variable {fields : List (String × Json)} (unique : (fields.map (·.1)).Nodup)
include unique

theorem kindOfTable?_saved {word : String}
    (type : Dict.find? "type" fields = some (.string word)) :
    kindOfTable? (named (saved fields)) = Dict.find? word kinds := by
  have uniqueSaved : ((saved fields).map (·.1)).Nodup := by rwa [map_fst_saved]
  rw [kindOfTable?_named uniqueSaved, saved, Dict.find?_map, type]
  rfl

/-- The part of a saved object at a field beside its type. -/
theorem partIn_saved {α : Type} {name : String} (notType : name ≠ "type")
    (value? : Document → Option α) {j : Json} (found : Dict.find? name fields = some j) {a : α}
    (fits : value? (Document.ofJson j) = some a) :
    partIn name value? none (named (saved fields)) = some (some a) := by
  have uniqueSaved : ((saved fields).map (·.1)).Nodup := by rwa [map_fst_saved]
  rw [partIn_named value? notType uniqueSaved, saved, Dict.find?_map, found]
  simp [fits]

variable (finite : (Document.ofJson (.object fields)).IsFinite)
include finite

theorem exists_childrenIn {items : List Json}
    (found : Dict.find? "children" fields = some (.array items)) :
    ∃ cs, childrenIn none (named (saved fields)) = some (some cs) ∧
      List.Forall₂ LoadedFrom items cs := by
  have finiteItems := finite.of_mem_object (Dict.mem_of_find? found)
  obtain ⟨cs, loaded, parts⟩ := exists_ofItems fun j mem => finiteItems.of_mem_array mem
  have children : childrenOf (Document.ofJson (.array items)) = some cs := by
    rw [Document.ofJson, childrenOf, loaded]
  refine ⟨cs, ?_, parts⟩
  rw [childrenIn_eq_partIn, partIn_saved unique (by decide) childrenOf found children]

theorem exists_childIn {child : Json} (found : Dict.find? "child" fields = some child)
    (notNull : child ≠ .null) :
    ∃ part, childIn none (named (saved fields)) = some (some (some part)) ∧
      LoadedFrom child part := by
  obtain ⟨part, loadedFrom⟩ :=
    exists_loadedFrom (finite.of_mem_object (Dict.mem_of_find? found))
  have loaded : ofDocument (Document.ofJson child) = some part := loadedFrom.loaded
  have given : childOf (Document.ofJson child) = some (some part) := by
    rw [childOf_eq, isNull_ofJson notNull, loaded]
    rfl
  refine ⟨part, ?_, loadedFrom⟩
  rw [childIn_eq_partIn, partIn_saved unique (by decide) childOf found given]

/-- **The node of an object and its parts.** Whatever values stand under a node, it joins or
    negates the conditions that they are loaded as. -/
theorem LoadedFrom.followsParts {c : Condition} (h : LoadedFrom (.object fields) c) :
    FollowsParts fields c := by
  have loaded := h.loaded
  rw [ofJson, ofJson_object] at loaded
  refine ⟨fun items type found => ?_, fun items type found => ?_,
    fun child type found notNull => ?_⟩
  · obtain ⟨cs, children, parts⟩ := exists_childrenIn unique finite found
    have kind : kindOfTable? (named (saved fields)) = some .and := kindOfTable?_saved unique type
    simp only [ofDocument, kind, children, Option.map_some, Option.getD_some, Option.some_or,
      Option.some.injEq] at loaded
    exact ⟨cs, loaded.symm, parts⟩
  · obtain ⟨cs, children, parts⟩ := exists_childrenIn unique finite found
    have kind : kindOfTable? (named (saved fields)) = some .or := kindOfTable?_saved unique type
    simp only [ofDocument, kind, children, Option.map_some, Option.getD_some, Option.some_or,
      Option.some.injEq] at loaded
    exact ⟨cs, loaded.symm, parts⟩
  · obtain ⟨part, given, loadedFrom⟩ := exists_childIn unique finite found notNull
    have kind : kindOfTable? (named (saved fields)) = some .not := kindOfTable?_saved unique type
    simp only [ofDocument, kind, given, Option.map_some, Option.getD_some, Option.some_or,
      Option.some.injEq] at loaded
    exact ⟨part, loaded.symm, loadedFrom⟩

end

end ChatRules.Condition
