import ChatRules.Proofs.Document.Saved

/-!
# Documents that are values

A text that can be read to its end holds a value, so what is loaded from texts is loaded from
values. Such a value has finite numbers, and what is kept of it is the same value with the
fields of its objects in order. It is refused for its depth alone, and only if it is deeper
than allowed.

Results:

* `Document.IsOfText.exists_ofJson`: a text without a fault holds a value.
* `Json.toJson?_ofJson_eq_sorted`: what is kept of a value.
* `Json.fault?_ofJson_of_lt`: the fault of a value that is too deep.
* `Loader.exists_of_ofJsonText`: what is loaded from a text is loaded from its value.
-/

namespace ChatRules

open Document

/-! ## Values of texts -/

namespace Document

theorem exists_ofJsonItems {n : Nat} {items : List Document}
    (parts : ∀ d ∈ items, d.fault? n = none → ∃ j, d = ofJson j)
    (h : itemsFault? n items = none) : ∃ js, items = ofJsonItems js := by
  induction items with
  | nil => exact ⟨[], rfl⟩
  | cons d rest ih =>
    obtain ⟨first, others⟩ := List.forall_mem_cons.1 parts
    obtain ⟨noFault, noMore⟩ := Option.or_eq_none_iff.1 h
    obtain ⟨j, rfl⟩ := first noFault
    obtain ⟨js, rfl⟩ := ih others noMore
    exact ⟨j :: js, rfl⟩

theorem exists_ofJsonFields {n : Nat} {fields : List (Key × Document)}
    (keys : ∀ f ∈ fields, f.1.IsOfText)
    (parts : ∀ f ∈ fields, f.2.fault? n = none → ∃ j, f.2 = ofJson j)
    (h : fieldsFault? n fields = none) : ∃ fs, fields = ofJsonFields fs := by
  induction fields with
  | nil => exact ⟨[], rfl⟩
  | cons f rest ih =>
    obtain ⟨key, d⟩ := f
    obtain ⟨firstKey, otherKeys⟩ := List.forall_mem_cons.1 keys
    obtain ⟨first, others⟩ := List.forall_mem_cons.1 parts
    cases firstKey with
    | name name =>
      obtain ⟨noFault, noMore⟩ := Option.or_eq_none_iff.1 h
      obtain ⟨j, rfl⟩ := first noFault
      obtain ⟨fs, rfl⟩ := ih otherKeys others noMore
      exact ⟨(name, j) :: fs, rfl⟩
    | broken b => cases h

/-- A text without a fault holds a value. -/
theorem IsOfText.exists_ofJson {d : Document} (h : d.IsOfText) {n : Nat}
    (noFault : d.fault? n = none) : ∃ j, d = ofJson j := by
  induction h generalizing n with
  | @scalar value finite bounded =>
    cases value with
    | null => exact ⟨.null, rfl⟩
    | bool b => exact ⟨.bool b, rfl⟩
    | number x => exact ⟨.number x, rfl⟩
    | text s => exact ⟨.string s, rfl⟩
    | oversized => exact absurd rfl bounded
  | @list items _ ih =>
    cases n with
    | zero => cases noFault
    | succ n =>
      obtain ⟨js, rfl⟩ := exists_ofJsonItems (fun d mem => ih d mem) noFault
      exact ⟨.array js, rfl⟩
  | @table fields keys _ ih =>
    cases n with
    | zero => cases noFault
    | succ n =>
      obtain ⟨fs, rfl⟩ := exists_ofJsonFields keys (fun f mem => ih f mem) noFault
      exact ⟨.object fs, rfl⟩
  | broken b => cases noFault

theorem IsFinite.of_mem_array {items : List Json} (h : (ofJson (.array items)).IsFinite)
    {j : Json} (mem : j ∈ items) : (ofJson j).IsFinite := by
  rw [ofJson, ofJsonItems_eq_map] at h
  exact h.items _ (List.mem_map_of_mem mem)

theorem IsFinite.of_mem_object {fields : List (String × Json)}
    (h : (ofJson (.object fields)).IsFinite) {f : String × Json} (mem : f ∈ fields) :
    (ofJson f.2).IsFinite := by
  rw [ofJson_object] at h
  exact h.fields (.name f.1, ofJson f.2) (List.mem_map_of_mem (List.mem_map_of_mem mem))

end Document

namespace Json

/-! ## What is kept of a value -/

/-- **What is kept of a value** with finite numbers is the value, with the fields of every
    object in the order of their keys. -/
theorem toJson?_ofJson_eq_sorted {j : Json} (finite : (ofJson j).IsFinite) (spelled : Bool) :
    (ofJson j).toJson? spelled = some j.sorted := by
  induction j using Json.induction with
  | null => rfl
  | bool b => rfl
  | string s => rfl
  | number n =>
    cases n with
    | int i => rfl
    | float x =>
      cases finite with
      | scalar finite =>
        have isFinite : Decimal.isFinite x = true := finite _ rfl x rfl
        simp [ofJson, toJson?, scalarJson?, ofFloat, isFinite, sorted]
  | array items ih =>
    have parts := itemsJson?_ofJsonItems fun j mem => ih j mem (finite.of_mem_array mem)
    simp only [ofJson, toJson?, parts, Option.map_some, sorted, sortedItems_eq_map]
  | object fields ih =>
    have parts := @fieldsJson?_ofJsonFields sorted spelled fields fun f mem =>
      ih f mem (finite.of_mem_object mem)
    simp only [ofJson, toJson?, parts, Option.map_some, sorted, sortedFields_eq_map]

/-! ## Values that are too deep -/

theorem itemsFault?_eq_tooDeep {items : List Json} {n : Nat}
    (parts : ∀ j ∈ items, n < j.depth → (ofJson j).fault? n = some .tooDeep)
    (deep : n < itemsDepth items) : itemsFault? n (ofJsonItems items) = some .tooDeep := by
  induction items with
  | nil => exact absurd deep (Nat.not_lt_zero n)
  | cons j rest ih =>
    obtain ⟨first, others⟩ := List.forall_mem_cons.1 parts
    rw [ofJsonItems, itemsFault?]
    by_cases here : n < j.depth
    · rw [first here, Option.some_or]
    · have shallow := fault?_ofJson (Nat.not_lt.1 here)
      rw [itemsDepth] at deep
      rw [shallow, Option.none_or, ih others (by omega)]

theorem fieldsFault?_eq_tooDeep {fields : List (String × Json)} {n : Nat}
    (parts : ∀ f ∈ fields, n < f.2.depth → (ofJson f.2).fault? n = some .tooDeep)
    (deep : n < fieldsDepth fields) : fieldsFault? n (ofJsonFields fields) = some .tooDeep := by
  induction fields with
  | nil => exact absurd deep (Nat.not_lt_zero n)
  | cons f rest ih =>
    obtain ⟨key, j⟩ := f
    obtain ⟨first, others⟩ := List.forall_mem_cons.1 parts
    show ((ofJson j).fault? n).or (fieldsFault? n (ofJsonFields rest)) = some .tooDeep
    by_cases here : n < j.depth
    · rw [first here, Option.some_or]
    · have shallow := fault?_ofJson (Nat.not_lt.1 here)
      rw [fieldsDepth] at deep
      rw [shallow, Option.none_or, ih others (by omega)]

/-- The first fault of a value that is too deep is just that. -/
theorem fault?_ofJson_of_lt {j : Json} {n : Nat} (deep : n < j.depth) :
    (ofJson j).fault? n = some .tooDeep := by
  induction j using Json.induction generalizing n with
  | null => exact absurd deep (Nat.not_lt_zero n)
  | bool b => exact absurd deep (Nat.not_lt_zero n)
  | number x => exact absurd deep (Nat.not_lt_zero n)
  | string s => exact absurd deep (Nat.not_lt_zero n)
  | array items ih =>
    cases n with
    | zero => rfl
    | succ n =>
      exact itemsFault?_eq_tooDeep (fun j mem => ih j mem) (Nat.lt_of_succ_lt_succ deep)
  | object fields ih =>
    cases n with
    | zero => rfl
    | succ n =>
      exact fieldsFault?_eq_tooDeep (fun f mem => ih f mem) (Nat.lt_of_succ_lt_succ deep)

end Json

/-! ## Loading values -/

namespace Loader

variable {α : Type} (l : Loader α) {text : String} {a : α}

/-- What is loaded from a text is loaded from its value. -/
theorem exists_of_ofJsonText (h : l.ofJsonText text = .ok a) :
    ∃ j, Json.read text = ⟨ofJson j, none⟩ ∧ l.ofDocument (ofJson j) = some a := by
  obtain ⟨noFault, fit, trailing⟩ := fits_of_ofJsonText l h
  obtain ⟨j, root⟩ := (Json.isOfText_read text).exists_ofJson noFault
  generalize Json.read text = t at root fit trailing
  obtain ⟨_, _⟩ := t
  cases root
  cases trailing
  exact ⟨j, rfl, fit⟩

/-- A text whose value is too deep is refused for that. -/
theorem ofJsonText_of_lt {j : Json} {trailing : Option Fault}
    (read : Json.read text = ⟨ofJson j, trailing⟩) (deep : depthLimit < j.depth) :
    l.ofJsonText text = .error (.json .tooDeep) := by
  simp only [ofJsonText, read, Json.fault?_ofJson_of_lt deep]

end Loader

end ChatRules
