import ChatRules.Document.Fit
import ChatRules.Proofs.Json.Finite
import ChatRules.Proofs.Json.FreeForm

/-!
# Documents and their copies

What is kept as it stands is a value, and when it is read again, its document is a copy of
the one that it came from: spellings are gone, and the fields of a table stand in the
order of their keys. Of several fields with one key only the last is left. Where no key is
repeated, everything that fits a document to a record finds the same in its copy.

Results:

* `exists_named_copy`: the fields of a table and those of its copy, by their names.
* `Resembles`, `resembles_copy`: a copy fits what the document fits.
-/

namespace ChatRules.Document

mutual

/-- Whether no table of the document repeats a key. -/
def hasUniqueKeys : Document → Bool
  | .scalar _ _ | .broken _ => true
  | .tagged inner => inner.hasUniqueKeys
  | .list items => itemsUnique items
  | .table fields => decide (fields.map (·.1)).Nodup && fieldsUnique fields

/-- Whether no table of the items repeats a key. -/
def itemsUnique : List Document → Bool
  | [] => true
  | d :: rest => d.hasUniqueKeys && itemsUnique rest

/-- Whether no table below the fields repeats a key. -/
def fieldsUnique : List (Key × Document) → Bool
  | [] => true
  | (_, d) :: rest => d.hasUniqueKeys && fieldsUnique rest

end

theorem itemsUnique_iff {items : List Document} :
    itemsUnique items = true ↔ ∀ d ∈ items, d.hasUniqueKeys = true := by
  induction items with
  | nil => simp [itemsUnique]
  | cons d rest ih => simp [itemsUnique, ih]

theorem fieldsUnique_iff {fields : List (Key × Document)} :
    fieldsUnique fields = true ↔ ∀ f ∈ fields, f.2.hasUniqueKeys = true := by
  induction fields with
  | nil => simp [fieldsUnique]
  | cons f rest ih => simp [fieldsUnique, ih]

theorem hasUniqueKeys_parts {d : Document} (unique : d.hasUniqueKeys = true) :
    ∀ e ∈ d.parts, e.hasUniqueKeys = true := by
  cases d with
  | list items => exact itemsUnique_iff.1 unique
  | table fields =>
    intro e mem
    obtain ⟨f, field, rfl⟩ := List.mem_map.1 mem
    simp only [hasUniqueKeys, Bool.and_eq_true] at unique
    exact fieldsUnique_iff.1 unique.2 f field
  | scalar value spelling => exact nofun
  | tagged inner => exact nofun
  | broken b => exact nofun

/-! ## Fields by their names -/

/-- Fields whose keys are names. -/
def named (fields : List (String × Document)) : List (Key × Document) :=
  fields.map fun f => (.name f.1, f.2)

theorem ofJsonFields_eq_named (fields : List (String × Json)) :
    ofJsonFields fields = named (fields.map fun f => (f.1, ofJson f.2)) := by
  induction fields with
  | nil => rfl
  | cons f rest ih => simp [ofJsonFields, named, ih]

theorem named_cons (name : String) (d : Document) (rest : List (String × Document)) :
    named ((name, d) :: rest) = (.name name, d) :: named rest := rfl

/-- The fields with a name, in a table that repeats no name. -/
theorem filter_named {name : String} {fields : List (String × Document)}
    (unique : (fields.map (·.1)).Nodup) :
    (named fields).filter (fun f => f.1 == .name name) =
      ((Dict.find? name fields).map fun d => (Key.name name, d)).toList := by
  induction fields with
  | nil => rfl
  | cons f rest ih =>
    obtain ⟨other, d⟩ := f
    obtain ⟨absent, others⟩ := List.nodup_cons.1 unique
    rw [named_cons, List.filter_cons, ih others]
    by_cases eq : other = name
    · subst eq
      simp [Dict.find?, Dict.find?_eq_none_of_not_mem absent]
    · simp [Dict.find?, eq]

/-- The fields of a record in a table that repeats no name. -/
theorem fieldsOfTable?_named (names : List String) {fields : List (String × Document)}
    (unique : (fields.map (·.1)).Nodup) :
    fieldsOfTable? names (named fields) = some (fields.filter fun f => names.contains f.1) := by
  induction fields with
  | nil => rfl
  | cons f rest ih =>
    obtain ⟨name, d⟩ := f
    obtain ⟨absent, others⟩ := List.nodup_cons.1 unique
    have none : Dict.find? name (rest.filter fun f => names.contains f.1) = none := by
      rw [Dict.find?_filter names.contains, Dict.find?_eq_none_of_not_mem absent, ite_self]
    rw [named_cons, fieldsOfTable?, ih others]
    cases known : names.contains name with
    | true =>
      rw [List.filter_cons_of_pos (by exact known)]
      simp only [fieldOfKey?, known, if_true, Dict.has, none]
      rfl
    | false =>
      rw [List.filter_cons_of_neg (by rw [known]; decide)]
      simp only [fieldOfKey?, known, if_false, Bool.false_eq_true]

theorem nodup_of_nodup_named {fields : List (String × Document)}
    (unique : ((named fields).map (·.1)).Nodup) : (fields.map (·.1)).Nodup := by
  have keys : (named fields).map (·.1) = (fields.map (·.1)).map Key.name := by simp [named]
  rw [keys] at unique
  exact List.Pairwise.of_map Key.name (fun a b ne eq => ne (congrArg Key.name eq)) unique

/-- A document that is read from the value of another one. -/
def IsCopyOf (e d : Document) : Prop := ∃ j, d.toJson? false = some j ∧ e = ofJson j

/-- Fields that have values have names, and the values stand at these names. -/
theorem exists_named_of_fieldsJson? {fields : List (Key × Document)}
    {values : List (String × Json)} (h : fieldsJson? false fields = some values) :
    ∃ ns, fields = named ns ∧ ns.map (·.1) = values.map (·.1) ∧
      ∀ key, Option.Rel (fun d j => d.toJson? false = some j) (Dict.find? key ns)
        (Dict.find? key values) := by
  induction fields generalizing values with
  | nil =>
    cases h
    exact ⟨[], rfl, rfl, fun _ => .none⟩
  | cons f rest ih =>
    obtain ⟨k, d⟩ := f
    unfold fieldsJson? at h
    split at h
    · rename_i name j others keyText value more
      cases h
      obtain ⟨ns, rfl, names, found⟩ := ih more
      have key : k = .name name := by
        cases k <;> simp_all [keyText?]
      subst key
      refine ⟨(name, d) :: ns, rfl, by simp [names], fun key => ?_⟩
      simp only [Dict.find?]
      split
      · exact .some value
      · exact found key
    · cases h

/-- The fields of a table and those of its copy have the same names, with documents at them
    of which one is a copy of the other. -/
theorem exists_named_copy {fields : List (Key × Document)} {values : List (String × Json)}
    (unique : (fields.map (·.1)).Nodup) (h : fieldsJson? false fields = some values) :
    ∃ ns ms, fields = named ns ∧ ofJsonFields (Dict.ofList values) = named ms ∧
      (ns.map (·.1)).Nodup ∧ (ms.map (·.1)).Nodup ∧ ms.length = ns.length ∧
      ∀ key, Option.Rel (fun d e => e.IsCopyOf d) (Dict.find? key ns) (Dict.find? key ms) := by
  obtain ⟨ns, rfl, names, found⟩ := exists_named_of_fieldsJson? h
  have uniqueNames := nodup_of_nodup_named unique
  have uniqueValues : (values.map (·.1)).Nodup := names ▸ uniqueNames
  refine ⟨ns, (Dict.ofList values).map fun f => (f.1, ofJson f.2), rfl,
    ofJsonFields_eq_named _, uniqueNames, ?_, ?_, fun key => ?_⟩
  · rw [List.map_map]
    exact (Dict.sorted_ofList values).nodup
  · rw [List.length_map, Dict.length_ofList uniqueValues]
    simpa using (congrArg List.length names).symm
  · rw [Dict.find?_map, Dict.find?_ofList uniqueValues]
    have value := found key
    revert value
    generalize Dict.find? key ns = d?
    generalize Dict.find? key values = j?
    rintro ⟨⟩
    · exact .some ⟨_, ‹_›, rfl⟩
    · exact .none

/-- What holds of documents and their copies, holds of what stands at a name. -/
theorem rel_find?_of_copy {R : Document → Document → Prop} {ns ms : List (String × Document)}
    (found : ∀ key, Option.Rel (fun d e => e.IsCopyOf d) (Dict.find? key ns) (Dict.find? key ms))
    (h : ∀ f ∈ named ns, ∀ e : Document, e.IsCopyOf f.2 → R f.2 e) (key : String) :
    Option.Rel R (Dict.find? key ns) (Dict.find? key ms) := by
  have copy := found key
  have field (d : Document) (eq : Dict.find? key ns = some d) : (Key.name key, d) ∈ named ns :=
    List.mem_map.2 ⟨_, Dict.mem_of_find? eq, rfl⟩
  generalize Dict.find? key ns = d? at copy field ⊢
  generalize Dict.find? key ms = e? at copy ⊢
  cases copy with
  | none => exact .none
  | some copy => exact .some (h _ (field _ rfl) _ copy)

/-! ## What fits a document and its copy -/

/-- A document that fits texts, numbers and words just as another one does. -/
structure Resembles (e d : Document) : Prop where
  isNull : e.isNull = d.isNull
  text : e.text? = d.text?
  texts : e.texts? = d.texts?
  size : e.size? = d.size?
  float : e.float? = d.float?
  word : ∀ {α : Type} (words : List (String × α)) (braces : Bool),
    e.word? words braces = d.word? words braces

variable {e d : Document}

/-- The copy of a document has its form. -/
theorem IsCopyOf.cases (h : e.IsCopyOf d) (finite : d.IsFinite) :
    (∃ value spelling, d = .scalar value spelling ∧ e = .scalar value none) ∨
      (∃ items js, d = .list items ∧ itemsJson? false items = some js ∧
        e = .list (ofJsonItems js)) ∨
      (∃ fields values, d = .table fields ∧ fieldsJson? false fields = some values ∧
        e = .table (ofJsonFields (Dict.ofList values))) := by
  obtain ⟨j, value, rfl⟩ := h
  cases d with
  | scalar scalar spelling =>
    refine .inl ⟨scalar, spelling, rfl, ?_⟩
    cases finite with
    | scalar finite =>
      unfold toJson? scalarJson? at value
      split at value <;> cases value
      · rfl
      · rfl
      · rfl
      · rename_i x
        rw [Json.ofFloat, if_pos (finite _ rfl x rfl)]
        rfl
      · rfl
  | list items =>
    obtain ⟨js, values, rfl⟩ := Option.map_eq_some_iff.1 value
    exact .inr (.inl ⟨items, js, rfl, values, rfl⟩)
  | table fields =>
    obtain ⟨values, eq, rfl⟩ := Option.map_eq_some_iff.1 value
    exact .inr (.inr ⟨fields, values, rfl, eq, rfl⟩)
  | tagged inner => cases value
  | broken b => cases value

theorem IsCopyOf.text?_eq (h : e.IsCopyOf d) (finite : d.IsFinite) : e.text? = d.text? := by
  rcases h.cases finite with ⟨value, spelling, rfl, rfl⟩ | ⟨_, _, rfl, _, rfl⟩ |
    ⟨_, _, rfl, _, rfl⟩
  · cases value <;> rfl
  · rfl
  · rfl

theorem exists_of_itemsJson?_cons {d : Document} {rest : List Document} {js : List Json}
    (h : itemsJson? false (d :: rest) = some js) :
    ∃ j others, js = j :: others ∧ (ofJson j).IsCopyOf d ∧
      itemsJson? false rest = some others := by
  unfold itemsJson? at h
  split at h
  · rename_i j others value more
    cases h
    exact ⟨j, others, rfl, ⟨j, value, rfl⟩, more⟩
  · cases h

/-- The items of a list and those of its copy, one by one. -/
theorem mapM_copy {α : Type} {item? : Document → Option α} {items : List Document}
    {js : List Json} (h : itemsJson? false items = some js)
    (same : ∀ d ∈ items, ∀ e : Document, e.IsCopyOf d → item? e = item? d) :
    (ofJsonItems js).mapM item? = items.mapM item? := by
  induction items generalizing js with
  | nil =>
    cases h
    rfl
  | cons d rest ih =>
    obtain ⟨sameFirst, sameRest⟩ := List.forall_mem_cons.1 same
    obtain ⟨j, others, rfl, copy, more⟩ := exists_of_itemsJson?_cons h
    rw [ofJsonItems, List.mapM_cons, List.mapM_cons, ih more sameRest, sameFirst _ copy]

theorem isNothing_table (braces : Bool) (fields : List (Key × Document)) :
    isNothing braces (.table fields) = (fields.isEmpty && braces) := by
  cases fields <;> simp [isNothing]

theorem IsCopyOf.isNothing_eq (h : e.IsCopyOf d) (finite : d.IsFinite)
    (unique : d.hasUniqueKeys = true) (braces : Bool) :
    e.isNothing braces = d.isNothing braces := by
  rcases h.cases finite with ⟨value, spelling, rfl, rfl⟩ | ⟨_, _, rfl, _, rfl⟩ |
    ⟨fields, values, rfl, eq, rfl⟩
  · cases value <;> rfl
  · rfl
  · simp only [hasUniqueKeys, Bool.and_eq_true, decide_eq_true_eq] at unique
    obtain ⟨ns, ms, rfl, copied, -, -, length, -⟩ := exists_named_copy unique.1 eq
    rw [copied, isNothing_table, isNothing_table]
    cases ns <;> cases ms <;> simp_all [named]

theorem word?_table {α : Type} (words : List (String × α)) (braces : Bool)
    (fields : List (String × Document)) :
    word? words braces (.table (named fields)) =
      match fields with
      | [(name, d)] => if d.isNothing braces then Dict.find? name words else none
      | _ => none := by
  match fields with
  | [] => rfl
  | [_] => rfl
  | _ :: _ :: _ => rfl

/-- **A copy fits what the document fits.** -/
theorem resembles_copy (h : e.IsCopyOf d) (finite : d.IsFinite)
    (unique : d.hasUniqueKeys = true) : e.Resembles d := by
  have text := h.text?_eq finite
  rcases h.cases finite with ⟨value, spelling, rfl, rfl⟩ | ⟨items, js, rfl, eq, rfl⟩ |
    ⟨fields, values, rfl, eq, rfl⟩
  · cases value with
    | number n => cases n <;> constructor <;> intros <;> rfl
    | _ => constructor <;> intros <;> rfl
  · refine ⟨rfl, text, ?_, rfl, rfl, fun _ _ => rfl⟩
    exact mapM_copy eq fun d mem e copy => copy.text?_eq (finite.items d mem)
  · refine ⟨rfl, text, rfl, rfl, rfl, fun words braces => ?_⟩
    simp only [hasUniqueKeys, Bool.and_eq_true, decide_eq_true_eq] at unique
    obtain ⟨ns, ms, rfl, copied, -, -, length, found⟩ := exists_named_copy unique.1 eq
    rw [copied, word?_table, word?_table]
    match ns, ms, length with
    | [], [], _ => rfl
    | _ :: _ :: _, _ :: _ :: _, _ => rfl
    | [(name, d)], [(other, e)], _ =>
      -- The only field of the one is found by its name in the other.
      have value := found name
      simp only [Dict.find?, if_true] at value
      split at value
      · rename_i same
        subst same
        cases value with
        | some copy =>
          have fields := finite.fields
          simp only [named, List.map_cons, List.map_nil, List.forall_mem_cons] at fields
          have uniqueValue : d.hasUniqueKeys = true :=
            fieldsUnique_iff.1 unique.2 _ List.mem_cons_self
          simp only [copy.isNothing_eq fields.1 uniqueValue]
      · cases value

end ChatRules.Document
