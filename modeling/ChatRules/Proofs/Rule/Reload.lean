import ChatRules.Proofs.Condition.Reload
import ChatRules.Proofs.Decimal.Order
import ChatRules.Proofs.Document.Record
import ChatRules.Rule.Encoding

/-!
# Saving and loading rules

A set of rules that was loaded is saved with the list of its rules, and loaded from there
once more. Every field of a rule is then what it was, also a priority that is no number,
and so is a condition whose document repeats no key. A node that was kept because it
repeats a key is saved without the repetition, and may be a condition when it is loaded.

Numbers are read back as far as their texts do so (`Number.ReadsBack`).

Results:

* `Rule.ofDocument_saved`: what a saved rule comes to.
* `Rule.ofDocument_eq_some_iff`: what a document says of a rule, field by field.
* `RuleSet.ofDocument_saved`: and a saved set of them.
* `RuleSet.reload`: what a loaded set is when it was saved and is loaded again.
* `RuleSet.reload_repeated_type`: a node that becomes a condition.
-/

namespace ChatRules

open Document

/-! ## Saved parts of rules -/

/-- A priority as a text has it: a number is the double with its value, and what is kept as it
    stands is a free-form value other than a number. -/
def Priority.IsLoaded : Priority → Prop
  | .number x => .ofFloat x.toFloat = x
  | .malformed raw => raw.IsFreeForm ∧ float? (Document.ofJson raw) = none

theorem Priority.ofDocument_saved {p : Priority} (h : p.IsLoaded) :
    ofDocument (Document.ofJson p.toJson) = some p := by
  cases p with
  | number x => exact congrArg (fun x => some (Priority.number x)) h
  | malformed raw =>
    obtain ⟨free, noNumber⟩ := h
    rw [toJson, ofDocument, noNumber, Json.toJson?_ofJson free]
    rfl

theorem Fragments.ofDocument_saved (f : Fragments) :
    ofDocument (Document.ofJson f.toJson) = some f := by
  cases f with
  | one text => rfl
  | many texts =>
    rw [toJson, ofDocument, texts?_saved]
    rfl

namespace Write

theorem sublist_fields (w : Write) : (w.fields.map (·.1)).Sublist fieldNames := by
  simp only [fields, List.map_append]
  exact ((((Json.sublist_optional "path" _ _).append (Json.sublist_optional "targetId" _ _)).append
    (List.Sublist.refl ["op"])).append (Json.sublist_optional "value" _ _)).append
    (Json.sublist_optional "text" _ _)

theorem word?_saved (op : WriteOp) :
    word? WriteOp.words false (Document.ofJson (.string op.word)) = some op := by
  cases op <;> rfl

theorem ofDocument_saved (w : Write) : ofDocument (Document.ofJson w.toJson) = some w := by
  have record : record? fieldNames (Document.ofJson w.toJson) = some (saved w.fields) :=
    record?_saved w.sublist_fields (by decide)
  simp only [ofDocument, record, orElse?_saved, fields, Dict.find?_append, Json.find?_optional,
    Dict.find?, String.reduceEq, if_true, if_false, Option.or_none, Option.none_or,
    Option.elim_some, elim_saved_text, word?_saved, Option.bind_eq_bind, Option.bind_some,
    Option.pure_def]

end Write

namespace Rule

/-- A rule as a text has it. -/
structure IsLoaded (r : Rule) : Prop where
  priority : r.priority.IsLoaded
  condition : ∀ c ∈ r.condition, c.IsLoaded
  written : ∀ c ∈ r.condition, c ≠ .invalid .null
  effects : ∀ es ∈ r.effects, Dict.Sorted es

/-- What a rule is when it was saved and is loaded. -/
def reread (r : Rule) : Rule := { r with condition := r.condition.map Condition.reread }

theorem sublist_fields (r : Rule) : (r.fields.map (·.1)).Sublist fieldNames := by
  simp only [fields, List.map_append]
  exact (((((((List.Sublist.refl ["id"]).append (Json.sublist_optional "label" _ _)).append
    (List.Sublist.refl ["moduleId", "priority", "targets"])).append
    (Json.sublist_optional "when" _ _)).append (Json.sublist_optional "effects" _ _)).append
    (Json.sublist_optional "write" _ _)).append (Json.sublist_optional "description" _ _))

/-- **What a saved rule comes to.** -/
theorem ofDocument_saved {r : Rule} (h : r.IsLoaded) :
    ofDocument (Document.ofJson r.toJson) = some r.reread := by
  have record : record? fieldNames (Document.ofJson r.toJson) = some (saved r.fields) :=
    record?_saved r.sublist_fields (by decide)
  have condition : ((r.condition.map Condition.toJson).elim (some none) fun j =>
      nullable? Condition.ofDocument (Document.ofJson j)) =
        some (r.condition.map Condition.reread) :=
    elim_saved _ _ (fun c mem => Condition.toJson_ne_null (h.written c mem))
      fun c mem => Condition.ofJson_toJson (h.condition c mem)
  have effects := elim_saved_self (dictOf? Fragments.ofDocument)
    (fun es => .object (es.map fun e => (e.1, e.2.toJson))) (fun _ _ => nofun)
    fun es mem => dictOf?_saved (h.effects es mem) fun e _ => Fragments.ofDocument_saved e.2
  have write := @elim_saved_self _ Write.ofDocument Write.toJson r.write (fun _ _ => nofun)
    fun w _ => w.ofDocument_saved
  have text (s : String) : text? (Document.ofJson (.string s)) = some s := rfl
  simp only [ofDocument, record, orElse?_saved, fields, Dict.find?_append, Json.find?_optional,
    Dict.find?, String.reduceEq, if_true, if_false, Option.or_none, Option.none_or,
    Option.elim_some, text, elim_saved_text, Priority.ofDocument_saved h.priority, texts?_saved,
    condition, effects, write, Option.bind_eq_bind, Option.bind_some, Option.pure_def, reread]

end Rule

/-! ## Loaded rules -/

theorem Priority.isLoaded_of_ofDocument {d : Document} {p : Priority}
    (h : ofDocument d = some p) : p.IsLoaded := by
  unfold ofDocument at h
  split at h
  · rename_i v _
    cases h
    exact congrArg Double.ofFloat (Double.toFloat_ofFloat v)
  · rename_i noNumber
    obtain ⟨raw, value, rfl⟩ := Option.map_eq_some_iff.1 h
    refine ⟨Json.isFreeForm_of_toJson? value, ?_⟩
    cases raw with
    | number n =>
      -- The value of a document is a number only if the document is one.
      cases d with
      | scalar scalar spelling =>
        cases scalar with
        | number n => cases noNumber
        | _ => cases value
      | list items => obtain ⟨_, _, ⟨⟩⟩ := Option.map_eq_some_iff.1 value
      | table fields => obtain ⟨_, _, ⟨⟩⟩ := Option.map_eq_some_iff.1 value
      | tagged inner => cases value
      | broken b => cases value
    | _ => rfl

namespace Rule

variable {d : Document} {r : Rule}

/-- What the fields of a document say of a rule. -/
structure Reads (fields : List (String × Document)) (r : Rule) : Prop where
  id : orElse? text? "" "id" fields = some r.id
  label : orElse? (nullable? text?) none "label" fields = some r.label
  moduleId : orElse? text? defaultModule "moduleId" fields = some r.moduleId
  priority : orElse? Priority.ofDocument (.number 0) "priority" fields = some r.priority
  targets : orElse? texts? [] "targets" fields = some r.targets
  condition : orElse? (nullable? Condition.ofDocument) none "when" fields = some r.condition
  effects : orElse? (nullable? (dictOf? Fragments.ofDocument)) none "effects" fields =
    some r.effects
  write : orElse? (nullable? Write.ofDocument) none "write" fields = some r.write
  description : orElse? (nullable? text?) none "description" fields = some r.description

/-- A document is a rule by what its fields say. -/
theorem ofDocument_eq_some_iff :
    ofDocument d = some r ↔ ∃ fields, record? fieldNames d = some fields ∧ Reads fields r := by
  constructor
  · intro h
    simp only [ofDocument, Option.pure_def, Option.bind_eq_bind, Option.bind_eq_some_iff,
      Option.some.injEq] at h
    obtain ⟨fields, record, _, id, _, label, _, moduleId, _, priority, _, targets, _, condition,
      _, effects, _, write, _, description, rfl⟩ := h
    exact ⟨fields, record,
      ⟨id, label, moduleId, priority, targets, condition, effects, write, description⟩⟩
  · rintro ⟨fields, record, h⟩
    simp only [ofDocument, record, h.id, h.label, h.moduleId, h.priority, h.targets, h.condition,
      h.effects, h.write, h.description, Option.pure_def, Option.bind_eq_bind, Option.bind_some]

/-- The condition of a rule comes from a part of the document. -/
theorem exists_of_condition (h : ofDocument d = some r) :
    ∀ c ∈ r.condition, ∃ e ∈ d.parts, e.isNull = false ∧ Condition.ofDocument e = some c := by
  intro c mem
  obtain ⟨fields, record, reads⟩ := ofDocument_eq_some_iff.1 h
  obtain ⟨e, found, notNull, eq⟩ := exists_of_nullable? reads.condition c mem
  exact ⟨e, mem_parts_of_record? record found, notNull, eq⟩

/-- **What the rules of a text hold.** -/
theorem isLoaded_of_ofDocument (finite : d.IsFinite) (h : ofDocument d = some r) :
    r.IsLoaded := by
  obtain ⟨fields, record, reads⟩ := ofDocument_eq_some_iff.1 h
  have priority := reads.priority
  refine ⟨?_, fun c mem => ?_, fun c mem => ?_, fun es mem => ?_⟩
  · unfold orElse? at priority
    split at priority
    · exact Priority.isLoaded_of_ofDocument priority
    · rw [← Option.some.inj priority]
      exact congrArg Double.ofFloat (Double.toFloat_ofFloat 0)
  · obtain ⟨e, part, -, eq⟩ := exists_of_condition h c mem
    exact Condition.isLoaded_of_ofDocument (finite.parts e part) eq
  · obtain ⟨e, part, notNull, eq⟩ := exists_of_condition h c mem
    exact Condition.ne_null_of_ofDocument (finite.parts e part) notNull eq
  · obtain ⟨e, -, -, eq⟩ := exists_of_nullable? reads.effects es mem
    exact sorted_of_dictOf? eq

/-- A rule of a document that repeats no key is loaded as it was. -/
theorem reread_eq_self (finite : d.IsFinite) (unique : d.hasUniqueKeys = true)
    (h : ofDocument d = some r) : r.reread = r := by
  have condition : r.condition.map Condition.reread = r.condition := by
    cases eq : r.condition with
    | none => rfl
    | some c =>
      obtain ⟨e, part, -, found⟩ := exists_of_condition h c eq
      rw [Option.map_some, Condition.reread_eq_self (finite.parts e part)
        (hasUniqueKeys_parts unique e part) found]
  rw [reread, condition]

theorem reread_reread (h : r.IsLoaded) : r.reread.reread = r.reread := by
  have condition : (r.condition.map Condition.reread).map Condition.reread =
      r.condition.map Condition.reread := by
    cases eq : r.condition with
    | none => rfl
    | some c => rw [Option.map_some, Option.map_some, Condition.reread_reread (h.condition c eq)]
  simp only [reread, condition]

end Rule

/-! ## Sets of rules -/

namespace RuleSet

/-- What a set is when it was saved and is loaded. -/
def reread (s : RuleSet) : RuleSet := ⟨s.rules.map Rule.reread⟩

variable {d : Document} {s : RuleSet}

/-- The rules of a set come from documents under its own. -/
theorem exists_of_ofDocument (h : ofDocument d = some s) :
    ∀ r ∈ s.rules, ∃ e, e.IsUnder d ∧ Rule.ofDocument e = some r := by
  intro r mem
  unfold ofDocument at h
  rcases Option.or_eq_some_iff.1 h with listed | ⟨-, record⟩
  · obtain ⟨rules, list, rfl⟩ := Option.map_eq_some_iff.1 listed
    obtain ⟨e, part, eq⟩ := exists_of_listOf? list r mem
    exact ⟨e, .inl part, eq⟩
  · simp only [Option.pure_def, Option.bind_eq_bind, Option.bind_eq_some_iff,
      Option.some.injEq] at record
    obtain ⟨fields, record, rules, list, rfl⟩ := record
    unfold orElse? at list
    split at list
    · rename_i i found
      obtain ⟨e, part, eq⟩ := exists_of_listOf? list r mem
      exact ⟨e, .inr ⟨i, mem_parts_of_record? record found, part⟩, eq⟩
    · cases list
      cases mem

theorem ofDocument_saved (loaded : ∀ r ∈ s.rules, r.IsLoaded) :
    ofDocument (Document.ofJson s.toJson) = some s.reread := by
  have record : record? ["rules"] (Document.ofJson s.toJson) = some (saved s.fields) :=
    record?_saved (List.Sublist.refl ["rules"]) (by decide)
  have list := listOf?_saved fun r mem => Rule.ofDocument_saved (loaded r mem)
  have noList : listOf? Rule.ofDocument (Document.ofJson s.toJson) = none := rfl
  simp only [ofDocument, noList, record, orElse?_saved, fields, Dict.find?, if_true,
    Option.elim_some, list, Option.map_none, Option.none_or, Option.bind_eq_bind,
    Option.bind_some, Option.pure_def, reread]

theorem isLoaded_of_ofJsonText {text : String} (h : loader.ofJsonText text = .ok s) :
    ∀ r ∈ s.rules, r.IsLoaded := by
  intro r mem
  obtain ⟨e, under, eq⟩ := exists_of_ofDocument (loader.fits_of_ofJsonText h).2.1 r mem
  exact Rule.isLoaded_of_ofDocument (under.of_parts (fun d h => h.parts) (Json.isFinite_read text))
    eq

/-- The set of a text that repeats no key is loaded as it was. -/
theorem reread_eq_self {text : String} (h : loader.ofJsonText text = .ok s)
    (unique : (Json.read text).root.hasUniqueKeys = true) : s.reread = s := by
  have rules : ∀ r ∈ s.rules, r.reread = r := by
    intro r mem
    obtain ⟨e, under, eq⟩ := exists_of_ofDocument (loader.fits_of_ofJsonText h).2.1 r mem
    obtain ⟨finite, unique⟩ := under.of_parts
      (Q := fun d => d.IsFinite ∧ d.hasUniqueKeys = true)
      (fun d q e part => ⟨q.1.parts e part, hasUniqueKeys_parts q.2 e part⟩)
      ⟨Json.isFinite_read text, unique⟩
    exact Rule.reread_eq_self finite unique eq
  rw [reread, List.map_congr_left rules, List.map_id']

theorem reread_reread (loaded : ∀ r ∈ s.rules, r.IsLoaded) : s.reread.reread = s.reread := by
  simp only [reread, List.map_map]
  congr 1
  exact List.map_congr_left fun r mem => Rule.reread_reread (loaded r mem)

/-- A list of one rule, which has a word for its priority, and a condition. -/
theorem ofDocument_single {priority : String} {c : Condition} (notNull : d.isNull = false)
    (condition : Condition.ofDocument d = some c) :
    ofDocument (.list [.table [(.name "priority", .scalar (.text priority) none),
      (.name "when", d)]]) =
        some ⟨[{ priority := .malformed (.string priority), condition := some c }]⟩ := by
  have record : record? Rule.fieldNames (.table [(.name "priority", .scalar (.text priority) none),
      (.name "when", d)]) =
        some [("priority", .scalar (.text priority) none), ("when", d)] := rfl
  simp [ofDocument, listOf?, Rule.ofDocument, record, orElse?, nullable?, Dict.find?, notNull,
    condition, Priority.ofDocument, float?, toJson?, scalarJson?]

/-- **Saving and loading a set of rules.** Every set that a text is loaded as can be saved
    and is loaded again, as far as the texts of its numbers read back and if it is not too
    deep. Its rules have the fields that they had, with the conditions reread. This is the
    same set if the text repeats no key, and in any case it is a set that saving and loading
    does not change. -/
theorem reload {text : String} (loaded : loader.ofJsonText text = .ok s)
    (numbers : ∀ n ∈ s.toJson.numbers, n.ReadsBack) (shallow : s.toJson.depth ≤ depthLimit) :
    loader.ofJsonText s.toText = .ok s.reread ∧ s.reread.reread = s.reread ∧
      ((Json.read text).root.hasUniqueKeys = true → s.reread = s) := by
  have rules := isLoaded_of_ofJsonText loaded
  exact ⟨loader.ofJsonText_pretty numbers shallow (ofDocument_saved rules), reread_reread rules,
    reread_eq_self loaded⟩

/-- A rule whose priority is no number, with a condition of no known type under one that is
    written as a list. -/
theorem reload_malformed :
    let written : Json := .array [.object [("priority", .string "high"),
      ("when", .array [.string "not", .object [("type", .string "odd")]])]]
    let s : RuleSet := ⟨[{
      priority := .malformed (.string "high")
      condition := some (.not (some (.invalid (.object [("type", .string "odd")])))) }]⟩
    loader.ofJsonText written.pretty = .ok s ∧ s.toJson.numbers = [] ∧
      s.toJson.depth ≤ depthLimit ∧ (Json.read written.pretty).root.hasUniqueKeys = true ∧
      loader.ofJsonText s.toText = .ok s := by
  intro written s
  have writtenNumbers : written.numbers = [] := by decide +kernel
  have readsBack : ∀ n ∈ written.numbers, n.ReadsBack := by simp [writtenNumbers]
  have odd : Condition.ofDocument (.table [(.name "type", .scalar (.text "odd") none)]) =
      some (.invalid (.object [("type", .string "odd")])) :=
    Condition.ofDocument_of_kindOfTable?_eq_none rfl
  have child : Condition.childOf (.table [(.name "type", .scalar (.text "odd") none)]) =
      some (some (.invalid (.object [("type", .string "odd")]))) := by
    rw [Condition.childOf_eq, odd]
    rfl
  have condition : Condition.ofDocument (.list [.scalar (.text "not") none,
      .table [(.name "type", .scalar (.text "odd") none)]]) =
        some (.not (some (.invalid (.object [("type", .string "odd")])))) := by
    have kind : Condition.kindOfType? (.scalar (.text "not") none) = some .not := rfl
    simp [Condition.ofDocument, kind, child]
  have loaded : loader.ofJsonText written.pretty = .ok s :=
    loader.ofJsonText_pretty readsBack (by decide +kernel) (ofDocument_single rfl condition)
  have numbers : s.toJson.numbers = [] := by decide +kernel
  have shallow : s.toJson.depth ≤ depthLimit := by decide +kernel
  have unique : (Json.read written.pretty).root.hasUniqueKeys = true := by
    rw [Json.read_pretty readsBack]
    decide +kernel
  obtain ⟨again, -, same⟩ := reload loaded (by simp [numbers]) shallow
  rw [same unique] at again
  exact ⟨loaded, numbers, shallow, unique, again⟩

/-- A node that repeats its type is kept, with the last of the two; when it was saved and is
    loaded, it is a condition. -/
theorem reload_repeated_type :
    let written : Json := .array [.object [("priority", .string "high"),
      ("when", .object [("type", .string "and"), ("type", .string "and")])]]
    let s (c : Condition) : RuleSet :=
      ⟨[{ priority := .malformed (.string "high"), condition := some c }]⟩
    let kept := s (.invalid (.object [("type", .string "and")]))
    loader.ofJsonText written.pretty = .ok kept ∧
      loader.ofJsonText kept.toText = .ok (s (.and [])) ∧ s (.and []) ≠ kept := by
  intro written s kept
  have writtenNumbers : written.numbers = [] := by decide +kernel
  have keptNumbers : kept.toJson.numbers = [] := by decide +kernel
  have repeated : Condition.ofJson (.object [("type", .string "and"), ("type", .string "and")]) =
      some (.invalid (.object [("type", .string "and")])) :=
    Condition.ofDocument_of_kindOfTable?_eq_none rfl
  have once : Condition.ofJson (.object [("type", .string "and")]) = some (.and []) := by
    have kind : Condition.kindOfTable? [(.name "type", .scalar (.text "and") none)] =
        some .and := rfl
    simp [Condition.ofJson, Document.ofJson, ofJsonFields, Condition.ofDocument, kind,
      Condition.childrenIn, Condition.isTypeKey]
  have loaded : loader.ofJsonText written.pretty = .ok kept :=
    loader.ofJsonText_pretty (by simp [writtenNumbers]) (by decide +kernel)
      (ofDocument_single rfl repeated)
  have reread : kept.reread = s (.and []) := by
    simp [kept, s, RuleSet.reread, Rule.reread, Condition.reread, once]
  refine ⟨loaded, ?_, by simp [s, kept]⟩
  rw [← reread]
  exact loader.ofJsonText_pretty (by simp [keptNumbers]) (by decide +kernel)
    (ofDocument_saved (isLoaded_of_ofJsonText loaded))

end RuleSet

end ChatRules
