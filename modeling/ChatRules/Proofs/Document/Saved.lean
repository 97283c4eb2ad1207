import ChatRules.Loading
import ChatRules.Matching
import ChatRules.Proofs.Document.Copy
import ChatRules.Proofs.Json.Reading

/-!
# Saved values as documents

What is saved is a value, and the document of that value fits what was saved: lists and
dictionaries part by part, records by the names of their fields.

Results:

* `ofJson_injective`: a value is known by its document.
* `listOf?_saved`, `dictOf?_saved`: lists and dictionaries fit if their parts do.
* `record?_saved`: a record has the fields that were saved.
* `need?_saved`, `orElse?_saved`: what a field of a record comes to; `elim_saved`: one that
  may be left out.
* `Loader.ofJsonText_of_read`, `Loader.ofJsonText_pretty`: a value that fits is loaded from
  its texts.
-/

namespace ChatRules

theorem Json.find?_optional {α : Type} (key name : String) (encode : α → Json) (a? : Option α) :
    Dict.find? key (Json.optional name encode a?) = if name = key then a?.map encode else none := by
  cases a? <;> simp [Json.optional, Dict.find?]

theorem Json.sublist_optional {α : Type} (name : String) (encode : α → Json) (a? : Option α) :
    ((Json.optional name encode a?).map (·.1)).Sublist [name] := by
  cases a? <;> simp [Json.optional]

/-- A list is known by the images of its items if each item is known by its image. -/
theorem eq_of_map_eq_map {α β : Type} {f : α → β} {items others : List α}
    (known : ∀ a ∈ items, ∀ b, f a = f b → a = b) (eq : items.map f = others.map f) :
    items = others := by
  induction items generalizing others with
  | nil => exact (List.map_eq_nil_iff.1 eq.symm).symm
  | cons a rest ih =>
    cases others with
    | nil => cases eq
    | cons b others =>
      obtain ⟨head, tail⟩ := List.cons.inj eq
      obtain ⟨first, later⟩ := List.forall_mem_cons.1 known
      rw [first b head, ih later tail]

namespace Document

variable {α β : Type}

/-- The fields of a value as documents. -/
def saved (fields : List (String × Json)) : List (String × Document) :=
  fields.map fun f => (f.1, ofJson f.2)

theorem map_fst_saved (fields : List (String × Json)) :
    (saved fields).map (·.1) = fields.map (·.1) := by
  rw [saved, List.map_map]
  rfl

theorem ofJson_object (fields : List (String × Json)) :
    ofJson (.object fields) = .table (named (saved fields)) := by
  rw [ofJson, ofJsonFields_eq_named, saved]

theorem ofJsonItems_eq_map (items : List Json) : ofJsonItems items = items.map ofJson := by
  induction items with
  | nil => rfl
  | cons j rest ih => rw [ofJsonItems, ih, List.map_cons]

/-- A value is known by its document. -/
theorem ofJson_injective : Function.Injective ofJson := by
  intro j
  induction j using Json.induction with
  | null | bool | number | string =>
    intro k eq
    cases k <;> simp_all [ofJson]
  | array items ih =>
    intro k eq
    cases k with
    | array others =>
      have same : ofJsonItems items = ofJsonItems others := list.inj eq
      rw [ofJsonItems_eq_map, ofJsonItems_eq_map] at same
      rw [eq_of_map_eq_map (fun j mem _ => @ih j mem _) same]
    | _ => cases eq
  | object fields ih =>
    intro k eq
    cases k with
    | object others =>
      have same : named (saved fields) = named (saved others) := by
        rw [ofJson_object, ofJson_object] at eq
        exact table.inj eq
      rw [named, saved, named, saved, List.map_map, List.map_map] at same
      rw [eq_of_map_eq_map (fun f mem g eq => ?_) same]
      obtain ⟨key, value⟩ := Prod.mk.inj eq
      exact Prod.ext (Key.name.inj key) (ih f mem value)
    | _ => cases eq

theorem exists_of_mem_named_saved {fields : List (String × Json)} {f : Key × Document}
    (mem : f ∈ named (saved fields)) : ∃ g ∈ fields, f = (.name g.1, ofJson g.2) := by
  simp only [named, saved, List.map_map] at mem
  obtain ⟨g, field, rfl⟩ := List.mem_map.1 mem
  exact ⟨g, field, rfl⟩

theorem hasUniqueKeys_array {items : List Json}
    (parts : ∀ j ∈ items, (ofJson j).hasUniqueKeys = true) :
    (ofJson (.array items)).hasUniqueKeys = true := by
  rw [ofJson, ofJsonItems_eq_map]
  refine itemsUnique_iff.2 fun d mem => ?_
  obtain ⟨j, part, rfl⟩ := List.mem_map.1 mem
  exact parts j part

theorem hasUniqueKeys_object {fields : List (String × Json)} (unique : (fields.map (·.1)).Nodup)
    (parts : ∀ f ∈ fields, (ofJson f.2).hasUniqueKeys = true) :
    (ofJson (.object fields)).hasUniqueKeys = true := by
  have keys : (named (saved fields)).map (·.1) = (fields.map (·.1)).map Key.name := by
    simp [named, saved]
  rw [ofJson_object, hasUniqueKeys, keys, Bool.and_eq_true, decide_eq_true_eq]
  refine ⟨List.Pairwise.map _ (fun a b ne eq => ne (Key.name.inj eq)) unique,
    fieldsUnique_iff.2 fun f mem => ?_⟩
  obtain ⟨g, field, rfl⟩ := exists_of_mem_named_saved mem
  exact parts g field

/-- A free-form value repeats no key. -/
theorem hasUniqueKeys_ofJson {j : Json} (h : j.IsFreeForm) :
    (ofJson j).hasUniqueKeys = true := by
  induction h with
  | array _ ih => exact hasUniqueKeys_array ih
  | object sorted _ ih => exact hasUniqueKeys_object sorted.nodup ih
  | _ => rfl

/-- The numbers of a free-form value are finite. -/
theorem isFinite_ofJson {j : Json} (h : j.IsFreeForm) : (ofJson j).IsFinite := by
  induction h with
  | null => exact .scalar nofun
  | bool b => exact .scalar nofun
  | int i =>
    refine .scalar ?_
    rintro n ⟨⟩ x ⟨⟩
  | float finite =>
    refine .scalar ?_
    rintro n ⟨⟩ x ⟨⟩
    exact finite
  | string s => exact .scalar nofun
  | @array items _ ih =>
    rw [ofJson, ofJsonItems_eq_map]
    refine .list fun d mem => ?_
    obtain ⟨j, part, rfl⟩ := List.mem_map.1 mem
    exact ih j part
  | @object fields _ _ ih =>
    rw [ofJson_object]
    refine .table fun f mem => ?_
    obtain ⟨g, field, rfl⟩ := exists_of_mem_named_saved mem
    exact ih g field

theorem size?_saved {n : Nat} (fits : n < wordSize 64) : size? (ofJson (.ofNat n)) = some n := by
  have bound : (n : Int) < wordSize 64 := by exact_mod_cast fits
  simp [size?, ofJson, Json.ofNat, bound]

/-- A list fits if its items do. -/
theorem listOf?_saved {item? : Document → Option β} {encode : α → Json} {result : α → β}
    {items : List α} (back : ∀ a ∈ items, item? (ofJson (encode a)) = some (result a)) :
    listOf? item? (ofJson (.array (items.map encode))) = some (items.map result) := by
  simp only [ofJson, listOf?]
  induction items with
  | nil => rfl
  | cons a rest ih =>
    obtain ⟨first, others⟩ := List.forall_mem_cons.1 back
    rw [List.map_cons, ofJsonItems, List.mapM_cons, first, ih others]
    rfl

theorem listOf?_saved_self {item? : Document → Option α} {encode : α → Json} {items : List α}
    (back : ∀ a ∈ items, item? (ofJson (encode a)) = some a) :
    listOf? item? (ofJson (.array (items.map encode))) = some items := by
  have fits := @listOf?_saved _ _ item? encode id items back
  rwa [List.map_id] at fits

theorem texts?_saved (texts : List String) : texts? (ofJson (.ofStrings texts)) = some texts :=
  listOf?_saved_self fun _ _ => rfl

/-- A dictionary fits if its values do. -/
theorem dictOf?_saved {value? : Document → Option α} {encode : α → Json}
    {entries : List (String × α)} (sorted : Dict.Sorted entries)
    (back : ∀ e ∈ entries, value? (ofJson (encode e.2)) = some e.2) :
    dictOf? value? (ofJson (.object (entries.map fun e => (e.1, encode e.2)))) = some entries := by
  have pairs : (ofJsonFields (entries.map fun e => (e.1, encode e.2))).mapM (pair? value?) =
      some entries := by
    clear sorted
    induction entries with
    | nil => rfl
    | cons e rest ih =>
      obtain ⟨first, others⟩ := List.forall_mem_cons.1 back
      rw [List.map_cons, ofJsonFields, List.mapM_cons, pair?, first, ih others]
      rfl
  rw [ofJson, dictOf?, pairs, Option.map_some, sorted.ofList_eq]

theorem isNull_ofJson {j : Json} (ne : j ≠ .null) : (ofJson j).isNull = false := by
  cases j <;> first | rfl | exact absurd rfl ne

theorem nullable?_saved {value? : Document → Option β} {j : Json} {b : β} (ne : j ≠ .null)
    (back : value? (ofJson j) = some b) : nullable? value? (ofJson j) = some (some b) := by
  rw [nullable?, isNull_ofJson ne, back]
  rfl

/-! ## Records -/

/-- A record has the fields that were saved, if they are some of its own. -/
theorem record?_saved {names : List String} {fields : List (String × Json)}
    (part : (fields.map (·.1)).Sublist names) (unique : names.Nodup) :
    record? names (ofJson (.object fields)) = some (saved fields) := by
  have uniqueFields : ((saved fields).map (·.1)).Nodup := by
    rw [map_fst_saved]
    exact unique.sublist part
  have known : ∀ f ∈ saved fields, names.contains f.1 = true := by
    intro f mem
    obtain ⟨g, field, rfl⟩ := List.mem_map.1 mem
    exact List.contains_iff_mem.2 (part.subset (List.mem_map.2 ⟨g, field, rfl⟩))
  rw [ofJson_object, record?, fieldsOfTable?_named names uniqueFields,
    List.filter_eq_self.2 known]

theorem orElse?_saved (value? : Document → Option β) (other : β) (name : String)
    (fields : List (String × Json)) :
    orElse? value? other name (saved fields) =
      (Dict.find? name fields).elim (some other) fun j => value? (ofJson j) := by
  rw [orElse?, saved, Dict.find?_map]
  cases Dict.find? name fields <;> rfl

theorem need?_saved (value? : Document → Option β) (name : String)
    (fields : List (String × Json)) :
    need? value? name (saved fields) =
      (Dict.find? name fields).bind fun j => value? (ofJson j) := by
  rw [need?, saved, Dict.find?_map]
  cases Dict.find? name fields <;> rfl

section

variable (value? : Document → Option β) (encode : α → Json) {a? : Option α}
  (written : ∀ a ∈ a?, encode a ≠ .null)
include written

/-- What a field that may be left out comes to. -/
theorem elim_saved {result : α → β}
    (back : ∀ a ∈ a?, value? (ofJson (encode a)) = some (result a)) :
    ((a?.map encode).elim (some none) fun j => nullable? value? (ofJson j)) =
      some (a?.map result) := by
  cases a? with
  | none => rfl
  | some a => exact nullable?_saved (written a rfl) (back a rfl)

end

theorem elim_saved_self (value? : Document → Option α) (encode : α → Json) {a? : Option α}
    (written : ∀ a ∈ a?, encode a ≠ .null)
    (back : ∀ a ∈ a?, value? (ofJson (encode a)) = some a) :
    ((a?.map encode).elim (some none) fun j => nullable? value? (ofJson j)) = some a? := by
  have fits := @elim_saved _ _ value? encode a? written id back
  rwa [Option.map_id] at fits

theorem elim_saved_text (s? : Option String) :
    ((s?.map Json.string).elim (some none) fun j => nullable? text? (ofJson j)) = some s? :=
  elim_saved_self text? .string (fun _ _ => nofun) fun _ _ => rfl

end Document

theorem CompareOp.word?_saved (op : CompareOp) :
    Document.word? words true (Document.ofJson (.string op.sign)) = some op := by
  cases op <;> rfl

namespace Loader

variable {α : Type} (l : Loader α) {text : String} {j : Json} {a : α}

/-- What is loaded from a text fits a document without a fault, with nothing after it. -/
theorem fits_of_ofJsonText (h : l.ofJsonText text = .ok a) :
    (Json.read text).root.fault? Document.depthLimit = none ∧
      l.ofDocument (Json.read text).root = some a ∧ (Json.read text).trailing = none := by
  unfold ofJsonText at h
  dsimp only at h
  split at h
  · cases h
  · rename_i noFault
    unfold load at h
    split at h
    · cases h
    · rename_i noTrailing
      split at h
      · rename_i fit
        cases h
        refine ⟨noFault, fit, ?_⟩
        cases eq : (Json.read text).trailing with
        | none => rfl
        | some f =>
          rw [fit] at noTrailing
          exact absurd eq (noTrailing _ f rfl)
      · cases h

/-- A value that fits is loaded from every text that spells it. -/
theorem ofJsonText_of_read (read : Json.read text = ⟨Document.ofJson j, none⟩)
    (shallow : j.depth ≤ Document.depthLimit) (fit : l.ofDocument (Document.ofJson j) = some a) :
    l.ofJsonText text = .ok a := by
  simp only [ofJsonText, read, Json.fault?_ofJson shallow, load, fit]

/-- A value that fits is loaded from its text. -/
theorem ofJsonText_pretty (numbers : ∀ n ∈ j.numbers, n.ReadsBack)
    (shallow : j.depth ≤ Document.depthLimit) (fit : l.ofDocument (Document.ofJson j) = some a) :
    l.ofJsonText j.pretty = .ok a :=
  l.ofJsonText_of_read (Json.read_pretty numbers) shallow fit

end Loader

end ChatRules
