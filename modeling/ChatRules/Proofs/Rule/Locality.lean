import ChatRules.Proofs.Condition.Parts
import ChatRules.Proofs.Document.Change
import ChatRules.Proofs.Rule.Reload

/-!
# Loading is local

In a document of rules that is loaded, the condition of any rule may be replaced by any value.
The document is loaded again, with the condition of that rule as the only difference, and the
condition is what the value is loaded as: nothing for `null`, and otherwise a node or the value
itself. The only bound is the depth to which a text is read.

The rules of a document are its items, or those of its field `rules`, and a document or a rule
may also be written as the list of its fields.

Results:

* `Rule.ofDocument_setWhen`: a rule with another value for its condition.
* `RuleSet.ofDocument_setWhenAt`: a set of rules with another value for one condition.
* `RuleSet.loading_local`: what is loaded from the changed text.
* `RuleSet.loading_deep`: a value that makes the text too deep.
-/

namespace ChatRules

open Document

/-! ## Rules with another condition -/

namespace Rule

/-- What stands for the first fields of a rule in a list that leaves them out. -/
def blanks : List Json :=
  [.string "", .null, .string defaultModule, .number (.float 0), .array [], .null]

/-- The document of a rule with another value for its condition. A list that ends before the
    condition is filled up to there. -/
def setWhen (v : Json) : Json → Json
  | .object fields => .object (Dict.set "when" v fields)
  | .array items => .array ((items ++ blanks.drop items.length).set 5 v)
  | j => j

/-- The first fields of a rule that has nothing to say. -/
def blankFields : List (String × Document) := fieldNames.zip (blanks.map ofJson)

theorem nodup_blankFields : (blankFields.map (·.1)).Nodup := by decide

theorem reads_blankFields : Reads blankFields {} := by
  constructor <;> rfl

theorem fieldsOfItems?_blanks (n : Nat) :
    fieldsOfItems? (fieldNames.drop n) ((blanks.map ofJson).drop n) =
      some (blankFields.drop n) := by
  match n with
  | 0 | 1 | 2 | 3 | 4 | 5 => rfl
  | n + 6 =>
    have noItems : (blanks.map ofJson).drop (n + 6) = [] :=
      List.drop_eq_nil_of_le (by simp [blanks])
    have noFields : blankFields.drop (n + 6) = [] :=
      List.drop_eq_nil_of_le (by simp [blankFields, blanks, fieldNames])
    rw [noItems, noFields]
    cases fieldNames.drop (n + 6) <;> rfl

section

variable {fields : List (String × Document)} {r : Rule}

/-- A rule says the same when it is filled up. -/
theorem Reads.append_blanks (h : Reads fields r) (n : Nat) :
    Reads (fields ++ blankFields.drop n) r := by
  have same {α : Type} (value? : Document → Option α) (other : α) {name : String}
      (blank : orElse? value? other name blankFields = some other) :
      orElse? value? other name (fields ++ blankFields.drop n) =
        orElse? value? other name fields :=
    orElse?_append_drop value? other nodup_blankFields blank fields n
  have blank := reads_blankFields
  exact
    { id := (same _ _ blank.id).trans h.id
      label := (same _ _ blank.label).trans h.label
      moduleId := (same _ _ blank.moduleId).trans h.moduleId
      priority := (same _ _ blank.priority).trans h.priority
      targets := (same _ _ blank.targets).trans h.targets
      condition := (same _ _ blank.condition).trans h.condition
      effects := (same _ _ blank.effects).trans h.effects
      write := (same _ _ blank.write).trans h.write
      description := (same _ _ blank.description).trans h.description }

/-- A rule with another value for its condition says the same beside it. -/
theorem Reads.set_when (h : Reads fields r) {d : Document} {c? : Option Condition}
    (condition : nullable? Condition.ofDocument d = some c?) :
    Reads (Dict.set "when" d fields) { r with condition := c? } := by
  have same {α : Type} (value? : Document → Option α) (other : α) {name : String}
      (ne : name ≠ "when") : orElse? value? other name (Dict.set "when" d fields) =
        orElse? value? other name fields :=
    orElse?_set_of_ne value? other ne d fields
  exact
    { id := (same _ _ (by decide)).trans h.id
      label := (same _ _ (by decide)).trans h.label
      moduleId := (same _ _ (by decide)).trans h.moduleId
      priority := (same _ _ (by decide)).trans h.priority
      targets := (same _ _ (by decide)).trans h.targets
      condition := (orElse?_set_self _ _ "when" d fields).trans condition
      effects := (same _ _ (by decide)).trans h.effects
      write := (same _ _ (by decide)).trans h.write
      description := (same _ _ (by decide)).trans h.description }

end

/-- The fields of a rule whose condition is replaced. -/
theorem record?_setWhen {v j : Json} {fields : List (String × Document)} {r : Rule}
    (record : record? fieldNames (ofJson j) = some fields) (h : Reads fields r) :
    ∃ others, Reads others r ∧
      record? fieldNames (ofJson (setWhen v j)) = some (Dict.set "when" (ofJson v) others) := by
  cases j with
  | object fs =>
    exact ⟨fields, h, record?_set (by decide) record v⟩
  | array items =>
    refine ⟨_, h.append_blanks items.length, ?_⟩
    rw [ofJson, ofJsonItems_eq_map, record?] at record
    have filled := fieldsOfItems?_append record (fieldsOfItems?_blanks _)
    rw [List.length_map] at filled
    rw [setWhen, ofJson, ofJsonItems_eq_map, record?, List.map_set, List.map_append,
      List.map_drop]
    exact fieldsOfItems?_set (by decide) rfl (by simp [blanks]; omega) filled
  | _ => cases record

/-- **A rule with another value for its condition** is loaded as it was, with what the value is
    loaded as for its condition. -/
theorem ofDocument_setWhen {v j : Json} {r : Rule} {c? : Option Condition}
    (h : ofDocument (ofJson j) = some r)
    (condition : nullable? Condition.ofDocument (ofJson v) = some c?) :
    ofDocument (ofJson (setWhen v j)) = some { r with condition := c? } := by
  obtain ⟨fields, record, reads⟩ := ofDocument_eq_some_iff.1 h
  obtain ⟨others, same, changed⟩ := record?_setWhen record reads
  exact ofDocument_eq_some_iff.2 ⟨_, changed, same.set_when condition⟩

/-- An empty list is a rule that has nothing to say. -/
theorem ofDocument_of_listOf?_nil {d : Document} (h : listOf? ofDocument d = some []) :
    ofDocument d = some {} := by
  cases d with
  | list items =>
    cases items with
    | nil => rfl
    | cons first rest =>
      simp [listOf?, List.mapM_cons, Option.bind_eq_some_iff] at h
  | _ => cases h

/-- A list that begins with a rule is no rule. -/
theorem ofDocument_eq_none_of_listOf? {d : Document} {r : Rule} {rules : List Rule}
    (h : listOf? ofDocument d = some (r :: rules)) : ofDocument d = none := by
  refine Option.eq_none_iff_forall_ne_some.2 fun whole isRule => ?_
  obtain ⟨fields, record, reads⟩ := ofDocument_eq_some_iff.1 isRule
  cases d with
  | list items =>
    cases items with
    | nil => cases h
    | cons first rest =>
      simp only [listOf?, List.mapM_cons, Option.bind_eq_bind, Option.bind_eq_some_iff,
        Option.pure_def, Option.some.injEq, List.cons.injEq] at h
      obtain ⟨r, firstRule, -⟩ := h
      obtain ⟨_, firstRecord, -⟩ := ofDocument_eq_some_iff.1 firstRule
      obtain ⟨others, -, rfl⟩ := Option.map_eq_some_iff.1 record
      -- The first field would be the name, but a rule is no text.
      have name : text? first = some whole.id := by simpa [orElse?, Dict.find?] using reads.id
      cases first with
      | scalar value spelling => cases firstRecord
      | _ => cases name
  | _ => cases h

end Rule

/-! ## Sets of rules with another condition -/

namespace RuleSet

/-- The document of a set of rules with another value for the condition of the rule at a place,
    counted from 0. -/
def setWhenAt (i : Nat) (v : Json) (doc : Json) : Json :=
  let change := Json.modifyItem i (Rule.setWhen v)
  if (listOf? Rule.ofDocument (ofJson doc)).isSome then change doc
  else
    match doc with
    | .object fields =>
      match Dict.find? "rules" fields with
      | some rules => .object (Dict.set "rules" (change rules) fields)
      | none => .object fields
    | .array [rules] => .array [change rules]
    | doc => doc

theorem ofDocument_of_record? {d : Document} {taken : List (String × Document)} {rules : List Rule}
    (noList : listOf? Rule.ofDocument d = none) (record : record? ["rules"] d = some taken)
    (list : orElse? (listOf? Rule.ofDocument) [] "rules" taken = some rules) :
    ofDocument d = some ⟨rules⟩ := by
  simp only [ofDocument, noList, record, list, Option.map_none, Option.none_or,
    Option.bind_eq_bind, Option.bind_some, Option.pure_def]

variable {v : Json} {c? : Option Condition}
  (condition : nullable? Condition.ofDocument (ofJson v) = some c?)
include condition

theorem listOf?_setWhen {rules : Json} {rs : List Rule}
    (h : listOf? Rule.ofDocument (ofJson rules) = some rs) (i : Nat) :
    listOf? Rule.ofDocument (ofJson (rules.modifyItem i (Rule.setWhen v))) =
      some (rs.modify i fun r => { r with condition := c? }) :=
  listOf?_modifyItem (fun _ _ isRule => Rule.ofDocument_setWhen isRule condition) h i

/-- The rules of an object with another value for one condition. -/
theorem ofDocument_setWhen_object {fields : List (String × Json)} {taken : List (String × Document)}
    {rs : List Rule} (record : record? ["rules"] (ofJson (.object fields)) = some taken)
    {rules : Json} (found : Dict.find? "rules" fields = some rules)
    (list : orElse? (listOf? Rule.ofDocument) [] "rules" taken = some rs) (i : Nat) :
    ofDocument (ofJson (.object
        (Dict.set "rules" (rules.modifyItem i (Rule.setWhen v)) fields))) =
      some ⟨rs.modify i fun r => { r with condition := c? }⟩ := by
  have here : Dict.find? "rules" taken = some (ofJson rules) := by
    rw [find?_of_record?_object (by decide) record, found, Option.map_some]
  have listed : listOf? Rule.ofDocument (ofJson rules) = some rs := by rwa [orElse?, here] at list
  refine ofDocument_of_record? rfl (record?_set (by decide) record _) ?_
  rw [orElse?_set_self, listOf?_setWhen condition listed]

/-- The rules of a list in a list, with another value for one condition. -/
theorem ofDocument_setWhen_array {rules : Json} {rs : List Rule}
    (noRule : Rule.ofDocument (ofJson rules) = none)
    (listed : listOf? Rule.ofDocument (ofJson rules) = some rs) (i : Nat) :
    ofDocument (ofJson (.array [rules.modifyItem i (Rule.setWhen v)])) =
      some ⟨rs.modify i fun r => { r with condition := c? }⟩ := by
  have changed := listOf?_setWhen condition listed i
  -- The inner list is not empty, as an empty list is a rule; so it stays no rule.
  have noRule : Rule.ofDocument (ofJson (rules.modifyItem i (Rule.setWhen v))) = none := by
    cases rs with
    | nil =>
      rw [Rule.ofDocument_of_listOf?_nil listed] at noRule
      cases noRule
    | cons r others =>
      cases i <;> exact Rule.ofDocument_eq_none_of_listOf? changed
  refine ofDocument_of_record? ?_ rfl ?_
  · simp [ofJson, ofJsonItems, listOf?, noRule]
  · simpa [orElse?, Dict.find?] using changed

/-- **A set of rules with another value for one condition.** -/
theorem ofDocument_setWhenAt {doc : Json} {s : RuleSet} (h : ofDocument (ofJson doc) = some s)
    (i : Nat) : ofDocument (ofJson (setWhenAt i v doc)) =
      some ⟨s.rules.modify i fun r => { r with condition := c? }⟩ := by
  have whole := h
  unfold setWhenAt
  cases listed : listOf? Rule.ofDocument (ofJson doc) with
  | some rules =>
    simp only [ofDocument, listed, Option.map_some, Option.some_or, Option.some.injEq] at h
    subst h
    simp [ofDocument, listOf?_setWhen condition listed]
  | none =>
    simp only [ofDocument, listed, Option.map_none, Option.none_or, Option.pure_def,
      Option.bind_eq_bind, Option.bind_eq_some_iff, Option.some.injEq] at h
    obtain ⟨taken, record, rules, list, rfl⟩ := h
    cases doc with
    | object fields =>
      cases found : Dict.find? "rules" fields with
      | some rules => simp [found, ofDocument_setWhen_object condition record found list]
      | none =>
        have absent : Dict.find? "rules" taken = none := by
          rw [find?_of_record?_object (by decide) record, found, Option.map_none]
        rw [orElse?, absent] at list
        cases list
        simpa [found] using whole
    | array items =>
      rcases items with _ | ⟨rules, _ | ⟨second, rest⟩⟩
      · cases listed
      · cases record
        have noRule : Rule.ofDocument (ofJson rules) = none := by
          refine Option.eq_none_iff_forall_ne_some.2 ?_
          simpa [ofJson, ofJsonItems, listOf?] using listed
        simpa using ofDocument_setWhen_array condition noRule list i
      · cases record
    | _ => cases record

omit condition

/-- **Loading is local.** In a document of rules that is loaded, the value of any condition may
    be replaced, as far as the document is not too deep then. It is loaded again, as the same
    rules but for this condition, which is what the new value is loaded as. And that depends on
    the parts of the value one by one: under an object that joins or negates other values,
    each of them is loaded as it would be alone. -/
theorem loading_local {text : String} {s : RuleSet} (loaded : loader.ofJsonText text = .ok s) :
    (∃ doc, Json.read text = ⟨ofJson doc, none⟩ ∧
      ∀ (i : Nat) (v : Json), (ofJson v).IsFinite → (setWhenAt i v doc).depth ≤ depthLimit →
        ∀ changed, Json.read changed = ⟨ofJson (setWhenAt i v doc), none⟩ →
          ∃ c?, loader.ofJsonText changed =
              .ok ⟨s.rules.modify i fun r => { r with condition := c? }⟩ ∧
            (c? = none ↔ v = .null) ∧ ∀ c ∈ c?, Condition.LoadedFrom v c) ∧
      ∀ fields c, (ofJson (.object fields)).IsFinite → (fields.map (·.1)).Nodup →
        Condition.LoadedFrom (.object fields) c → Condition.FollowsParts fields c := by
  refine ⟨?_, fun fields c finite unique h => h.followsParts unique finite⟩
  obtain ⟨doc, read, fit⟩ := loader.exists_of_ofJsonText loaded
  refine ⟨doc, read, fun i v finite shallow changed spelled => ?_⟩
  obtain ⟨c?, condition, null, kept⟩ := Condition.exists_nullable? finite
  have again := ofDocument_setWhenAt condition fit i
  exact ⟨c?, loader.ofJsonText_of_read spelled shallow again, null, kept⟩

/-- A node with a text and a negated node of no known type under it, in the second of two
    rules. -/
theorem loading_local_of_two :
    let odd : Json := .object [("type", .string "odd")]
    let not : Json := .object [("type", .string "not"), ("child", odd)]
    let v : Json := .object [("type", .string "and"), ("children", .array [.string "x", not])]
    let doc : Json := .array [.object [("id", .string "a")], .object [("id", .string "b")]]
    let node : Condition := .and [.invalid (.string "x"), .not (some (.invalid odd))]
    loader.ofJsonText doc.pretty = .ok ⟨[{ id := "a" }, { id := "b" }]⟩ ∧
      (setWhenAt 1 v doc).depth ≤ depthLimit ∧
      loader.ofJsonText (setWhenAt 1 v doc).pretty =
        .ok ⟨[{ id := "a" }, { id := "b", condition := some node }]⟩ := by
  intro odd not v doc node
  have finite (j : Json) (noNumbers : j.numbers = []) : (ofJson j).IsFinite := by
    have h := Json.isFinite_read j.pretty
    rwa [Json.read_pretty (by simp [noNumbers])] at h
  have noNumbers : doc.numbers = [] := by decide +kernel
  have spelled : Json.read doc.pretty = ⟨ofJson doc, none⟩ := Json.read_pretty (by simp [noNumbers])
  have loaded : loader.ofJsonText doc.pretty = .ok ⟨[{ id := "a" }, { id := "b" }]⟩ :=
    loader.ofJsonText_of_read spelled (by decide +kernel) rfl
  have shallow : (setWhenAt 1 v doc).depth ≤ depthLimit := by decide +kernel
  have noMore : (setWhenAt 1 v doc).numbers = [] := by decide +kernel
  obtain ⟨⟨given, read, change⟩, parts⟩ := loading_local loaded
  have same : given = doc := by
    rw [spelled] at read
    exact ofJson_injective (congrArg Json.Text.root read).symm
  subst same
  obtain ⟨c?, again, null, kept⟩ := change 1 v (finite v (by decide +kernel)) shallow _
    (Json.read_pretty (by simp [noMore]))
  cases c? with
  | none => exact absurd (null.1 rfl) (by simp [v])
  | some c =>
    have follows := parts _ c (finite v (by decide +kernel)) (by decide) (kept c rfl)
    obtain ⟨cs, rfl, children⟩ := follows.and _ rfl rfl
    rcases children with _ | ⟨first, _ | ⟨second, ⟨⟩⟩⟩
    have negated := parts _ _ (finite not (by decide +kernel)) (by decide) second
    obtain ⟨part, rfl, child⟩ := negated.not _ rfl rfl (by simp [odd])
    have text := (Condition.ofDocument_scalar _ _).symm.trans first.loaded
    have noNode := (Condition.ofDocument_of_kindOfTable?_eq_none rfl).symm.trans child.loaded
    cases text
    cases noNode
    exact ⟨loaded, shallow, again⟩

/-- Lists in lists. -/
def nested : Nat → Json
  | 0 => .null
  | n + 1 => .array [nested n]

theorem depth_nested (n : Nat) : (nested n).depth = n := by
  induction n with
  | zero => rfl
  | succ n ih => simp [nested, Json.depth, Json.itemsDepth, ih]

theorem numbers_nested (n : Nat) : (nested n).numbers = [] := by
  induction n with
  | zero => rfl
  | succ n ih => simp [nested, Json.numbers, Json.itemsNumbers, ih]

/-- The condition of the only rule cannot be replaced by lists that are nested 126 deep, as
    the text is too deep then. -/
theorem loading_deep :
    let doc : Json := .array [.object []]
    loader.ofJsonText doc.pretty = .ok ⟨[{}]⟩ ∧
      loader.ofJsonText (setWhenAt 0 (nested 126) doc).pretty = .error (.json .tooDeep) := by
  intro doc
  have changed : setWhenAt 0 (nested 126) doc = .array [.object [("when", nested 126)]] := rfl
  have noNumbers : doc.numbers = [] := by decide +kernel
  have noMore : (setWhenAt 0 (nested 126) doc).numbers = [] := by
    simp [changed, Json.numbers, Json.itemsNumbers, Json.fieldsNumbers, numbers_nested]
  have deep : depthLimit < (setWhenAt 0 (nested 126) doc).depth := by
    simp [changed, Json.depth, Json.itemsDepth, Json.fieldsDepth, depth_nested, depthLimit]
  exact ⟨loader.ofJsonText_pretty (by simp [noNumbers]) (by decide +kernel) rfl,
    loader.ofJsonText_of_lt (Json.read_pretty (by simp [noMore])) deep⟩

end RuleSet

end ChatRules
