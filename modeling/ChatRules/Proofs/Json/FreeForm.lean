import ChatRules.Proofs.Json.Reading

/-!
# Free-form values

What a document becomes when it is kept as it stands: a value whose objects are
dictionaries and whose numbers are finite. Such a value is kept as it is when its
document is read again.

Results:

* `toJson?_ofJson`: a free-form value is the value of its document.
* `isFreeForm_of_toJson?`: the value of a document is free-form.
* `fault?_ofJson`: the document of a value has no fault but its depth.
-/

namespace ChatRules.Json

/-- A value whose objects are dictionaries and whose numbers are finite. -/
inductive IsFreeForm : Json → Prop
  | null : IsFreeForm .null
  | bool (b : Bool) : IsFreeForm (.bool b)
  | int (i : Int) : IsFreeForm (.number (.int i))
  | float {x : Float} (finite : Decimal.isFinite x = true) : IsFreeForm (.number (.float x))
  | string (s : String) : IsFreeForm (.string s)
  | array {items : List Json} (parts : ∀ j ∈ items, IsFreeForm j) : IsFreeForm (.array items)
  | object {fields : List (String × Json)} (sorted : Dict.Sorted fields)
    (parts : ∀ f ∈ fields, IsFreeForm f.2) : IsFreeForm (.object fields)

namespace IsFreeForm

variable {fields : List (String × Json)}

theorem ofFloat (x : Float) : IsFreeForm (.ofFloat x) := by
  unfold Json.ofFloat
  split
  · rename_i finite
    exact .float finite
  · exact .null

theorem sorted (h : IsFreeForm (.object fields)) : Dict.Sorted fields := by
  cases h
  assumption

theorem parts (h : IsFreeForm (.object fields)) : ∀ f ∈ fields, IsFreeForm f.2 := by
  cases h
  assumption

theorem of_find? (h : IsFreeForm (.object fields)) {key : String} {value : Json}
    (found : Dict.find? key fields = some value) : IsFreeForm value :=
  h.parts _ (Dict.mem_of_find? found)

theorem insert (h : IsFreeForm (.object fields)) (key : String) {value : Json}
    (free : IsFreeForm value) : IsFreeForm (.object (Dict.insert key value fields)) := by
  refine .object (h.sorted.insert key value) fun f mem => ?_
  rcases Dict.mem_insert mem with rfl | mem
  · exact free
  · exact h.parts f mem

theorem replace (h : IsFreeForm (.object fields)) (key : String) {value : Json}
    (free : IsFreeForm value) : IsFreeForm (.object (Dict.replace key value fields)) := by
  refine .object (h.sorted.replace key value) fun f mem => ?_
  rcases Dict.mem_replace mem with rfl | mem
  · exact free
  · exact h.parts f mem

end IsFreeForm

/-! ## Values of documents -/

theorem sortedItems_eq_map (items : List Json) : sortedItems items = items.map sorted := by
  induction items with
  | nil => rfl
  | cons j rest ih => rw [sortedItems, ih, List.map_cons]

theorem sortedFields_eq_map (fields : List (String × Json)) :
    sortedFields fields = fields.map fun f => (f.1, f.2.sorted) := by
  induction fields with
  | nil => rfl
  | cons f rest ih => rw [sortedFields, ih, List.map_cons]

section

variable {value : Json → Json} {spelled : Bool}

theorem itemsJson?_ofJsonItems {items : List Json}
    (parts : ∀ j ∈ items, (Document.ofJson j).toJson? spelled = some (value j)) :
    Document.itemsJson? spelled (Document.ofJsonItems items) = some (items.map value) := by
  induction items with
  | nil => rfl
  | cons j rest ih =>
    obtain ⟨first, others⟩ := List.forall_mem_cons.1 parts
    simp only [Document.ofJsonItems, Document.itemsJson?, first, ih others, List.map_cons]

theorem fieldsJson?_ofJsonFields {fields : List (String × Json)}
    (parts : ∀ f ∈ fields, (Document.ofJson f.2).toJson? spelled = some (value f.2)) :
    Document.fieldsJson? spelled (Document.ofJsonFields fields) =
      some (fields.map fun f => (f.1, value f.2)) := by
  induction fields with
  | nil => rfl
  | cons f rest ih =>
    obtain ⟨first, others⟩ := List.forall_mem_cons.1 parts
    simp only [Document.ofJsonFields, Document.fieldsJson?, Document.keyText?, first, ih others,
      List.map_cons]

end

/-- **A free-form value is the value of its document.** -/
theorem toJson?_ofJson {j : Json} (h : j.IsFreeForm) (spelled : Bool) :
    (Document.ofJson j).toJson? spelled = some j := by
  induction h with
  | null => rfl
  | bool b => rfl
  | int i => rfl
  | float finite =>
    simp [Document.ofJson, Document.toJson?, Document.scalarJson?, Json.ofFloat, finite]
  | string s => rfl
  | @array items _ ih =>
    have parts : Document.itemsJson? spelled (Document.ofJsonItems items) = some (items.map id) :=
      itemsJson?_ofJsonItems ih
    simp [Document.ofJson, Document.toJson?, parts]
  | @object fields sorted _ ih =>
    have parts : Document.fieldsJson? spelled (Document.ofJsonFields fields) =
        some (fields.map fun f => (f.1, id f.2)) := fieldsJson?_ofJsonFields ih
    simp [Document.ofJson, Document.toJson?, parts, sorted.ofList_eq]

theorem isFreeForm_of_itemsJson? {spelled : Bool} {items : List Document} {values : List Json}
    (parts : ∀ d ∈ items, ∀ j, d.toJson? spelled = some j → j.IsFreeForm)
    (h : Document.itemsJson? spelled items = some values) : ∀ j ∈ values, j.IsFreeForm := by
  induction items generalizing values with
  | nil =>
    cases h
    simp
  | cons d rest ih =>
    obtain ⟨first, others⟩ := List.forall_mem_cons.1 parts
    unfold Document.itemsJson? at h
    split at h
    · rename_i j js value values
      cases h
      exact List.forall_mem_cons.2 ⟨first j value, ih others values⟩
    · cases h

theorem isFreeForm_of_fieldsJson? {spelled : Bool} {fields : List (Key × Document)}
    {values : List (String × Json)}
    (parts : ∀ f ∈ fields, ∀ j, f.2.toJson? spelled = some j → j.IsFreeForm)
    (h : Document.fieldsJson? spelled fields = some values) : ∀ f ∈ values, f.2.IsFreeForm := by
  induction fields generalizing values with
  | nil =>
    cases h
    simp
  | cons f rest ih =>
    obtain ⟨first, others⟩ := List.forall_mem_cons.1 parts
    unfold Document.fieldsJson? at h
    split at h
    · rename_i k j fs _ value values
      cases h
      exact List.forall_mem_cons.2 ⟨first j value, ih others values⟩
    · cases h

/-- **The value of a document is free-form.** -/
theorem isFreeForm_of_toJson? {d : Document} {spelled : Bool} {j : Json}
    (h : d.toJson? spelled = some j) : j.IsFreeForm := by
  induction d using Document.induction generalizing j with
  | scalar value spelling =>
    unfold Document.toJson? Document.scalarJson? at h
    split at h <;> cases h
    · exact .null
    · exact .bool _
    · exact .int _
    · exact .ofFloat _
    · exact .string _
  | list items ih =>
    unfold Document.toJson? at h
    obtain ⟨values, eq, rfl⟩ := Option.map_eq_some_iff.1 h
    exact .array (isFreeForm_of_itemsJson? (fun d mem j => @ih d mem j) eq)
  | table fields ih =>
    unfold Document.toJson? at h
    obtain ⟨values, eq, rfl⟩ := Option.map_eq_some_iff.1 h
    have parts := isFreeForm_of_fieldsJson? (fun f mem j => @ih f mem j) eq
    exact .object (Dict.sorted_ofList values) fun f mem => parts f (Dict.mem_of_mem_ofList mem)
  | tagged inner _ => cases h
  | broken b => cases h

/-! ## Depth -/

mutual

/-- How deep lists and objects are nested in a value. -/
def depth : Json → Nat
  | .array items => itemsDepth items + 1
  | .object fields => fieldsDepth fields + 1
  | .null | .bool _ | .number _ | .string _ => 0

/-- The greatest depth of items. -/
def itemsDepth : List Json → Nat
  | [] => 0
  | j :: rest => max j.depth (itemsDepth rest)

/-- The greatest depth of fields. -/
def fieldsDepth : List (String × Json) → Nat
  | [] => 0
  | (_, j) :: rest => max j.depth (fieldsDepth rest)

end

theorem itemsDepth_le_iff {items : List Json} {n : Nat} :
    itemsDepth items ≤ n ↔ ∀ j ∈ items, j.depth ≤ n := by
  induction items with
  | nil => simp [itemsDepth]
  | cons j rest ih => simp only [itemsDepth, Nat.max_le, ih, List.forall_mem_cons]

theorem fieldsDepth_le_iff {fields : List (String × Json)} {n : Nat} :
    fieldsDepth fields ≤ n ↔ ∀ f ∈ fields, f.2.depth ≤ n := by
  induction fields with
  | nil => simp [fieldsDepth]
  | cons f rest ih => simp only [fieldsDepth, Nat.max_le, ih, List.forall_mem_cons]

theorem itemsFault?_ofJsonItems {items : List Json} {n : Nat}
    (parts : ∀ j ∈ items, (Document.ofJson j).fault? n = none) :
    Document.itemsFault? n (Document.ofJsonItems items) = none := by
  induction items with
  | nil => rfl
  | cons j rest ih =>
    obtain ⟨first, others⟩ := List.forall_mem_cons.1 parts
    simp only [Document.ofJsonItems, Document.itemsFault?, first, ih others, Option.or_none]

theorem fieldsFault?_ofJsonFields {fields : List (String × Json)} {n : Nat}
    (parts : ∀ f ∈ fields, (Document.ofJson f.2).fault? n = none) :
    Document.fieldsFault? n (Document.ofJsonFields fields) = none := by
  induction fields with
  | nil => rfl
  | cons f rest ih =>
    obtain ⟨first, others⟩ := List.forall_mem_cons.1 parts
    simp only [Document.ofJsonFields, Document.fieldsFault?, first, ih others, Option.or_none]

/-- The document of a value has no fault, if it is not too deep. -/
theorem fault?_ofJson {j : Json} {n : Nat} (shallow : j.depth ≤ n) :
    (Document.ofJson j).fault? n = none := by
  induction j using induction generalizing n with
  | null => rfl
  | bool b => rfl
  | number x => rfl
  | string s => rfl
  | array items ih =>
    obtain ⟨n, rfl⟩ : ∃ m, n = m + 1 := ⟨n - 1, by simp [depth] at shallow; omega⟩
    have below := itemsDepth_le_iff.1 (Nat.le_of_succ_le_succ shallow)
    exact itemsFault?_ofJsonItems fun j mem => ih j mem (below j mem)
  | object fields ih =>
    obtain ⟨n, rfl⟩ : ∃ m, n = m + 1 := ⟨n - 1, by simp [depth] at shallow; omega⟩
    have below := fieldsDepth_le_iff.1 (Nat.le_of_succ_le_succ shallow)
    exact fieldsFault?_ofJsonFields fun f mem => ih f mem (below f mem)

end ChatRules.Json
