import ChatRules.Proofs.Condition.Loaded
import ChatRules.Proofs.Document.Copy

/-!
# Conditions of copies

A condition is found in a document by the names of its fields and by what stands at them.
So where no key is repeated, a document and its copy have the same condition.

Results:

* `kindOfTable?_named`, `partIn_named`: what a table says, by the names of its fields.
* `sameConditions_copy`: the condition of a copy.
-/

namespace ChatRules.Condition

open Document

/-! ## Tables by the names of their fields -/

section

variable {fields : List (String × Document)}

theorem isTypeKey_eq (key : Key) : isTypeKey key = (key == .name "type") := by
  cases key with
  | name s => rw [Bool.eq_iff_iff]; simp [isTypeKey]
  | _ => rfl

theorem kindOfTable?_named (unique : (fields.map (·.1)).Nodup) :
    kindOfTable? (named fields) = (Dict.find? "type" fields).elim none kindOfType? := by
  simp only [kindOfTable?, isTypeKey_eq, filter_named unique]
  cases Dict.find? "type" fields <;> rfl

section

variable {α : Type} {name : String} (value? : Document → Option α)

/-- Fields without the one for the part change nothing about what was seen. -/
theorem partIn_of_find?_eq_none (seen : Option α) (none : Dict.find? name fields = none) :
    partIn name value? seen (named fields) = some seen := by
  induction fields with
  | nil => rfl
  | cons f rest ih =>
    obtain ⟨other, d⟩ := f
    unfold Dict.find? at none
    split at none
    · cases none
    · rename_i ne
      simp [named_cons, partIn, fieldOfKey?, ne, ih none]

theorem partIn_named (notType : name ≠ "type") (unique : (fields.map (·.1)).Nodup) :
    partIn name value? none (named fields) =
      (Dict.find? name fields).elim (some none) fun d => (value? d).map some := by
  induction fields with
  | nil => rfl
  | cons f rest ih =>
    obtain ⟨other, d⟩ := f
    obtain ⟨absent, others⟩ := List.nodup_cons.1 unique
    by_cases isPart : other = name
    · subst isPart
      have none := Dict.find?_eq_none_of_not_mem absent
      simp only [named_cons, partIn, isTypeKey, fieldOfKey?, Dict.find?]
      cases given : value? d with
      | none => simp [given, notType]
      | some a => simp [given, notType, partIn_of_find?_eq_none value? (some a) none]
    · simp [named_cons, partIn, fieldOfKey?, Dict.find?, isPart, ih others]

end

theorem filter_not_isTypeKey_named (fields : List (String × Document)) :
    (named fields).filter (fun f => !isTypeKey f.1) =
      named (fields.filter fun f => f.1 != "type") := by
  rw [named, named, List.filter_map]
  rfl

end

/-- What is made of a part, if it is there, is the same where the parts say the same. -/
theorem elim_congr {α : Type} {same : Document → Document → Prop} {d? e? : Option Document}
    (h : Option.Rel same d? e?) (absent : α) {f : Document → α}
    (congr : ∀ d e, same d e → f e = f d) : e?.elim absent f = d?.elim absent f := by
  cases h with
  | none => rfl
  | some h => exact congr _ _ h

/-! ## Leaves -/

/-- Fields that fit the same at every name. -/
def FieldsResemble (fields others : List (String × Document)) : Prop :=
  ∀ name, Option.Rel (fun d e => e.Resembles d) (Dict.find? name fields) (Dict.find? name others)

section

variable {fields others : List (String × Document)} (same : FieldsResemble fields others)
  {α : Type} {value? : Document → Option α}
  (fits : ∀ d e : Document, e.Resembles d → value? e = value? d)
include same fits

theorem need?_congr (name : String) : need? value? name others = need? value? name fields := by
  have found := same name
  unfold need?
  generalize Dict.find? name fields = d? at found ⊢
  generalize Dict.find? name others = e? at found ⊢
  cases found with
  | some resembles => exact fits _ _ resembles
  | none => rfl

theorem orElse?_congr (other : α) (name : String) :
    orElse? value? other name others = orElse? value? other name fields := by
  have found := same name
  unfold orElse?
  generalize Dict.find? name fields = d? at found ⊢
  generalize Dict.find? name others = e? at found ⊢
  cases found with
  | some resembles => exact fits _ _ resembles
  | none => rfl

end

theorem ofFields?_congr {fields others : List (String × Document)}
    (same : FieldsResemble fields others) (kind : ReasonKind) :
    Test.ofFields? kind others = Test.ofFields? kind fields := by
  have mode : Test.modeField? others = Test.modeField? fields :=
    orElse?_congr same (fun _ _ h => h.word _ _) _ _
  have text := need?_congr same (fun _ _ h => h.text)
  have texts := need?_congr same (fun _ _ h => h.texts)
  have flags := orElse?_congr same (fun _ _ h => h.text) "" "flags"
  have window := orElse?_congr same (fun _ _ h => h.size) 10 "window"
  have least := orElse?_congr same (fun _ _ h => h.size) 1 "min"
  have op := orElse?_congr same (fun _ _ h => h.word CompareOp.words true) .greaterEqual "op"
  have value := need?_congr same (fun _ _ h => h.float)
  cases kind <;> simp only [Test.ofFields?, mode, text, texts, flags, window, least, op, value]

theorem checkOf?_congr {fields? others? : Option (List (String × Document))}
    (same : Option.Rel FieldsResemble fields? others?) (kind : ReasonKind) :
    checkOf? kind others? = checkOf? kind fields? := by
  cases same with
  | none => rfl
  | some same =>
    have source := need?_congr same (fun _ _ h => h.text) "source"
    simp only [checkOf?, Option.bind_eq_bind, Option.bind_some, source, ofFields?_congr same]

theorem FieldsResemble.filter {fields others : List (String × Document)}
    (same : FieldsResemble fields others) (p : String → Bool) :
    FieldsResemble (fields.filter fun f => p f.1) (others.filter fun f => p f.1) := by
  intro key
  rw [Dict.find?_filter, Dict.find?_filter]
  split
  · exact same key
  · exact .none

/-- The leaf of a table is that of another one with fields that fit the same. -/
theorem checkOf?_named {ns ms : List (String × Document)} (same : FieldsResemble ns ms)
    (uniqueNs : (ns.map (·.1)).Nodup) (uniqueMs : (ms.map (·.1)).Nodup) (kind : ReasonKind) :
    checkOf? kind (fieldsOfTable? (Test.fieldNames kind)
        ((named ms).filter fun f => !isTypeKey f.1)) =
      checkOf? kind (fieldsOfTable? (Test.fieldNames kind)
        ((named ns).filter fun f => !isTypeKey f.1)) := by
  have rest {fields : List (String × Document)} (unique : (fields.map (·.1)).Nodup) :
      ((fields.filter fun f => f.1 != "type").map (·.1)).Nodup :=
    unique.sublist (List.filter_sublist.map _)
  rw [filter_not_isTypeKey_named, filter_not_isTypeKey_named,
    fieldsOfTable?_named _ (rest uniqueNs), fieldsOfTable?_named _ (rest uniqueMs)]
  exact checkOf?_congr (.some ((same.filter (· != "type")).filter
    (Test.fieldNames kind).contains)) kind

/-! ## Copies -/

theorem kindOfType?_copy {e d : Document} (h : e.IsCopyOf d) (finite : d.IsFinite) :
    kindOfType? e = kindOfType? d := by
  rcases h.cases finite with ⟨value, spelling, rfl, rfl⟩ | ⟨_, _, rfl, _, rfl⟩ |
    ⟨_, _, rfl, _, rfl⟩
  · cases value with
    | number n => cases n <;> rfl
    | _ => rfl
  · rfl
  · rfl

theorem rawOf?_copy {e d : Document} (h : e.IsCopyOf d) : rawOf? e = rawOf? d := by
  obtain ⟨j, value, rfl⟩ := h
  rw [rawOf?, rawOf?, value, Json.toJson?_ofJson (Json.isFreeForm_of_toJson? value)]

/-- What a document says about conditions, its copy says too. -/
structure SameConditions (e d : Document) : Prop where
  condition : ofDocument e = ofDocument d
  children : childrenOf e = childrenOf d
  child : childOf e = childOf d

theorem sameConditions_of_eq {e d : Document} (isNull : e.isNull = d.isNull)
    (condition : ofDocument e = ofDocument d) (children : childrenOf e = childrenOf d) :
    SameConditions e d :=
  ⟨condition, children, by rw [childOf_eq, childOf_eq, isNull, condition]⟩

/-- The items of a list and their copies, as fields. -/
theorem fieldsOfItems?_copy {items : List Document} {js : List Json}
    (h : itemsJson? false items = some js) (finite : ∀ d ∈ items, d.IsFinite)
    (unique : ∀ d ∈ items, d.hasUniqueKeys = true) (names : List String) :
    Option.Rel FieldsResemble (fieldsOfItems? names items)
      (fieldsOfItems? names (ofJsonItems js)) := by
  induction items generalizing js names with
  | nil =>
    cases h
    cases names <;> exact .some fun _ => .none
  | cons d rest ih =>
    obtain ⟨finiteFirst, finiteRest⟩ := List.forall_mem_cons.1 finite
    obtain ⟨uniqueFirst, uniqueRest⟩ := List.forall_mem_cons.1 unique
    obtain ⟨j, others, rfl, copy, more⟩ := exists_of_itemsJson?_cons h
    cases names with
    | nil => exact .none
    | cons name names =>
      have parts := ih more finiteRest uniqueRest names
      simp only [fieldsOfItems?, ofJsonItems]
      generalize fieldsOfItems? names rest = fields? at parts ⊢
      generalize fieldsOfItems? names (ofJsonItems others) = copies? at parts ⊢
      cases parts with
      | none => exact .none
      | some same =>
        refine .some fun key => ?_
        simp only [Dict.find?]
        split
        · exact .some (resembles_copy copy finiteFirst uniqueFirst)
        · exact same key

theorem ofItems_copy {items : List Document} {js : List Json}
    (h : itemsJson? false items = some js)
    (same : ∀ d ∈ items, ∀ e : Document, e.IsCopyOf d → SameConditions e d) :
    ofItems (ofJsonItems js) = ofItems items := by
  induction items generalizing js with
  | nil =>
    cases h
    rfl
  | cons d rest ih =>
    obtain ⟨sameFirst, sameRest⟩ := List.forall_mem_cons.1 same
    obtain ⟨j, others, rfl, copy, more⟩ := exists_of_itemsJson?_cons h
    rw [ofJsonItems, ofItems, ofItems, ih more sameRest, (sameFirst _ copy).condition]

theorem ofDocument_copy_list {items : List Document} {js : List Json}
    (h : itemsJson? false items = some js) (finite : ∀ d ∈ items, d.IsFinite)
    (unique : ∀ d ∈ items, d.hasUniqueKeys = true)
    (same : ∀ d ∈ items, ∀ e : Document, e.IsCopyOf d → SameConditions e d) :
    ofDocument (.list (ofJsonItems js)) = ofDocument (.list items) := by
  have raw : rawOf? (.list (ofJsonItems js)) = rawOf? (.list items) :=
    rawOf?_copy ⟨.array js, by simp [toJson?, h], rfl⟩
  rcases items with _ | ⟨type, _ | ⟨first, rest⟩⟩
  · cases h
    rfl
  · -- The list has only the type.
    obtain ⟨j, others, rfl, copy, more⟩ := exists_of_itemsJson?_cons h
    cases more
    have kind := kindOfType?_copy copy (finite type List.mem_cons_self)
    simp only [ofJsonItems, ofDocument] at raw ⊢
    rw [kind, raw]
  · obtain ⟨j, others, rfl, copy, more⟩ := exists_of_itemsJson?_cons h
    have kind := kindOfType?_copy copy (finite type List.mem_cons_self)
    have check (kind : ReasonKind) := checkOf?_congr
      (fieldsOfItems?_copy more (List.forall_mem_cons.1 finite).2
        (List.forall_mem_cons.1 unique).2 (Test.fieldNames kind)) kind
    obtain ⟨k, last, rfl, copyFirst, restValues⟩ := exists_of_itemsJson?_cons more
    have sameFirst := same first (by simp) _ copyFirst
    have empty : (ofJsonItems last).isEmpty = rest.isEmpty := by
      cases rest with
      | nil =>
        cases restValues
        rfl
      | cons d rest =>
        obtain ⟨j, others, rfl, -, -⟩ := exists_of_itemsJson?_cons restValues
        rfl
    simp only [ofJsonItems, ofDocument] at raw check ⊢
    rw [kind, raw, sameFirst.children, sameFirst.child, empty]
    cases kindOfType? type with
    | none => rfl
    | some kind => cases kind <;> simp only [check]

theorem ofDocument_copy_table {fields : List (Key × Document)} {values : List (String × Json)}
    (h : fieldsJson? false fields = some values) (finite : ∀ f ∈ fields, f.2.IsFinite)
    (unique : (fields.map (·.1)).Nodup) (uniqueParts : ∀ f ∈ fields, f.2.hasUniqueKeys = true)
    (same : ∀ f ∈ fields, ∀ e : Document, e.IsCopyOf f.2 → SameConditions e f.2) :
    ofDocument (.table (ofJsonFields (Dict.ofList values))) = ofDocument (.table fields) := by
  have raw : rawOf? (.table (ofJsonFields (Dict.ofList values))) = rawOf? (.table fields) :=
    rawOf?_copy ⟨.object (Dict.ofList values), by simp [toJson?, h], rfl⟩
  obtain ⟨ns, ms, rfl, copied, uniqueNames, uniqueCopies, -, found⟩ :=
    exists_named_copy unique h
  have conditions := rel_find?_of_copy (R := fun d e => SameConditions e d) found same
  have resemble : FieldsResemble ns ms := rel_find?_of_copy found fun f mem e copy =>
    resembles_copy copy (finite f mem) (uniqueParts f mem)
  have kinds := rel_find?_of_copy (R := fun d e => kindOfType? e = kindOfType? d) found
    fun f mem e copy => kindOfType?_copy copy (finite f mem)
  have kind : kindOfTable? (named ms) = kindOfTable? (named ns) := by
    rw [kindOfTable?_named uniqueNames, kindOfTable?_named uniqueCopies]
    exact elim_congr (kinds "type") none fun _ _ same => same
  have children : childrenIn none (named ms) = childrenIn none (named ns) := by
    rw [childrenIn_eq_partIn, childrenIn_eq_partIn, partIn_named _ (by decide) uniqueNames,
      partIn_named _ (by decide) uniqueCopies]
    exact elim_congr (conditions "children") _ fun _ _ same => by rw [same.children]
  have child : childIn none (named ms) = childIn none (named ns) := by
    rw [childIn_eq_partIn, childIn_eq_partIn, partIn_named _ (by decide) uniqueNames,
      partIn_named _ (by decide) uniqueCopies]
    exact elim_congr (conditions "child") _ fun _ _ same => by rw [same.child]
  have check := checkOf?_named resemble uniqueNames uniqueCopies
  rw [copied] at raw ⊢
  simp only [ofDocument, kind, raw, children, child, check]

/-- **The condition of a copy** is that of the document, if no key is repeated. -/
theorem sameConditions_copy {e d : Document} (h : e.IsCopyOf d) (finite : d.IsFinite)
    (unique : d.hasUniqueKeys = true) : SameConditions e d := by
  induction d using Document.induction generalizing e with
  | scalar value spelling =>
    have resembles := resembles_copy h finite unique
    rcases h.cases finite with ⟨_, _, -, rfl⟩ | ⟨_, _, ⟨⟩, _⟩ | ⟨_, _, ⟨⟩, _⟩
    refine sameConditions_of_eq resembles.isNull ?_ (by simp [childrenOf])
    rw [ofDocument_scalar, ofDocument_scalar, rawOf?_copy h]
  | list items ih =>
    have resembles := resembles_copy h finite unique
    rcases h.cases finite with ⟨_, _, ⟨⟩, _⟩ | ⟨_, js, ⟨⟩, values, rfl⟩ | ⟨_, _, ⟨⟩, _⟩
    have uniqueItems := itemsUnique_iff.1 unique
    have same : ∀ d ∈ items, ∀ e : Document, e.IsCopyOf d → SameConditions e d :=
      fun d mem e copy => @ih d mem e copy (finite.items d mem) (uniqueItems d mem)
    exact sameConditions_of_eq rfl (ofDocument_copy_list values finite.items uniqueItems same)
      (by simpa [childrenOf] using ofItems_copy values same)
  | table fields ih =>
    have resembles := resembles_copy h finite unique
    rcases h.cases finite with ⟨_, _, ⟨⟩, _⟩ | ⟨_, _, ⟨⟩, _⟩ | ⟨_, values, ⟨⟩, value, rfl⟩
    simp only [hasUniqueKeys, Bool.and_eq_true, decide_eq_true_eq] at unique
    have uniqueFields := fieldsUnique_iff.1 unique.2
    have same : ∀ f ∈ fields, ∀ e : Document, e.IsCopyOf f.2 → SameConditions e f.2 :=
      fun f mem e copy => @ih f mem e copy (finite.fields f mem) (uniqueFields f mem)
    exact sameConditions_of_eq rfl
      (ofDocument_copy_table value finite.fields unique.1 uniqueFields same) (by simp [childrenOf])
  | tagged inner _ =>
    obtain ⟨_, ⟨⟩, _⟩ := h
  | broken b =>
    obtain ⟨_, ⟨⟩, _⟩ := h

end ChatRules.Condition
