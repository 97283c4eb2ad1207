import ChatRules.Proofs.Condition.Copy
import ChatRules.Proofs.Condition.Loaded
import ChatRules.Proofs.Document.Saved

/-!
# Saving and loading a condition

A condition is saved as an object of its type, and what is no condition as the value that
was kept. When it is loaded again, everything that has a type is what it was. A kept value
is looked at once more: where a key was repeated it may have become a condition, since only
the last of the repeated fields was kept. After that nothing changes any more.

Results:

* `ofJson_toJson`: what a saved condition is loaded as.
* `reread_eq_self`: this is the condition, if the document repeats no key.
* `reread_reread`: to save and load it once more changes nothing.
-/

namespace ChatRules

open Document

namespace Test

theorem word?_name (mode : MatchMode) :
    word? MatchMode.words true (Document.ofJson (.string mode.name)) = some mode := by
  cases mode <;> rfl

/-- The saved fields of a test make the test. -/
theorem ofFields?_saved (source : String) {test : Test} (fits : test.Fits) :
    ofFields? test.kind (saved (("source", .string source) :: test.fieldsJson)) = some test := by
  have text (s : String) : text? (Document.ofJson (.string s)) = some s := rfl
  have float (x : Float) : float? (Document.ofJson (.number (.float x))) = some x := rfl
  cases test with
  | countInWindow terms window least mode =>
    simp [ofFields?, kind, modeField?, saved, fieldsJson, need?, orElse?, Dict.find?, word?_name,
      texts?_saved, size?_saved fits.1, size?_saved fits.2]
  | _ =>
    simp [ofFields?, kind, modeField?, saved, fieldsJson, need?, orElse?, Dict.find?, word?_name,
      CompareOp.word?_saved, texts?_saved, text, float]

end Test

namespace Condition

mutual

/-- What a condition is when it was saved and is loaded. -/
def reread : Condition → Condition
  | .check source test => .check source test
  | .and children => .and (rereadAll children)
  | .or children => .or (rereadAll children)
  | .not child => .not (rereadOption child)
  | .invalid raw => (ofJson raw).getD (.invalid raw)

/-- What several conditions are. -/
def rereadAll : List Condition → List Condition
  | [] => []
  | c :: rest => c.reread :: rereadAll rest

/-- What a condition is that may be absent. -/
def rereadOption : Option Condition → Option Condition
  | none => none
  | some c => some c.reread

end

theorem rereadAll_eq_map (children : List Condition) :
    rereadAll children = children.map reread := by
  induction children with
  | nil => rfl
  | cons c rest ih => rw [rereadAll, ih, List.map_cons]

/-! ## Saved leaves -/

theorem ofDocument_check {fields : List (Key × Document)} {source : String} {test : Test}
    (kind : kindOfTable? fields = some test.kind)
    (leaf : checkOf? test.kind (fieldsOfTable? (Test.fieldNames test.kind)
      (fields.filter fun f => !isTypeKey f.1)) = some (.check source test)) :
    ofDocument (.table fields) = some (.check source test) := by
  rw [ofDocument]
  cases test <;> simp only [Test.kind] at kind leaf <;> simp only [kind, leaf, Option.some_or]

/-- A saved leaf is loaded as it was. -/
theorem ofDocument_saved_check (source : String) {test : Test} (fits : test.Fits) :
    ofDocument (Document.ofJson (toJson (.check source test))) = some (.check source test) := by
  have unique : ((saved (("type", .string test.kind.word) :: ("source", .string source) ::
      test.fieldsJson)).map (·.1)).Nodup := by
    rw [map_fst_saved]
    cases test <;> simp [Test.fieldsJson]
  rw [toJson, ofJson_object]
  refine ofDocument_check ?_ ?_
  · rw [kindOfTable?_named unique]
    cases test <;> rfl
  · have others : fieldsOfTable? (Test.fieldNames test.kind)
        (named ((saved (("type", .string test.kind.word) :: ("source", .string source) ::
          test.fieldsJson)).filter fun f => f.1 != "type")) =
          some (saved (("source", .string source) :: test.fieldsJson)) := by
      rw [fieldsOfTable?_named _ (unique.sublist (List.filter_sublist.map _))]
      cases test <;> rfl
    rw [filter_not_isTypeKey_named, others]
    simp only [checkOf?, Option.bind_eq_bind, Option.bind_some,
      Test.ofFields?_saved source fits]
    rfl

/-! ## Saved conditions -/

theorem ofItems_saved {children : List Condition}
    (parts : ∀ c ∈ children, ofDocument (Document.ofJson c.toJson) = some c.reread) :
    ofItems (ofJsonItems (childrenJson children)) = some (rereadAll children) := by
  induction children with
  | nil => simp [childrenJson, ofJsonItems, ofItems, rereadAll]
  | cons c rest ih =>
    obtain ⟨first, others⟩ := List.forall_mem_cons.1 parts
    rw [childrenJson, ofJsonItems, ofItems, first, ih others, rereadAll]

theorem toJson_ne_null {c : Condition} (ne : c ≠ .invalid .null) : c.toJson ≠ .null := by
  cases c with
  | invalid raw =>
    rintro rfl
    exact ne rfl
  | _ => simp [toJson]

/-- A free-form value comes to a condition, be it only by being kept. -/
theorem exists_ofJson {raw : Json} (free : raw.IsFreeForm) : ∃ c, ofJson raw = some c :=
  exists_of_toJson? (Json.toJson?_ofJson free false)

/-- **What a saved condition is loaded as.** -/
theorem ofJson_toJson {c : Condition} (h : c.IsLoaded) : ofJson c.toJson = some c.reread := by
  induction h with
  | check source fits =>
    rw [reread]
    exact ofDocument_saved_check source fits
  | @and children _ ih =>
    have kind : kindOfTable? [(.name "type", .scalar (.text "and") none),
        (.name "children", .list (ofJsonItems (childrenJson children)))] = some .and := rfl
    simp [ofJson, toJson, Document.ofJson, ofJsonFields, ofDocument, kind, childrenIn, isTypeKey,
      fieldOfKey?, childrenOf, ofItems_saved ih, reread]
  | @or children _ ih =>
    have kind : kindOfTable? [(.name "type", .scalar (.text "or") none),
        (.name "children", .list (ofJsonItems (childrenJson children)))] = some .or := rfl
    simp [ofJson, toJson, Document.ofJson, ofJsonFields, ofDocument, kind, childrenIn, isTypeKey,
      fieldOfKey?, childrenOf, ofItems_saved ih, reread]
  | @not child _ written ih =>
    cases child with
    | none =>
      have kind : kindOfTable? [(.name "type", .scalar (.text "not") none)] = some .not := rfl
      simp [ofJson, toJson, childField, Document.ofJson, ofJsonFields, ofDocument, kind, childIn,
        isTypeKey, reread, rereadOption]
    | some c =>
      have kind : kindOfTable? [(.name "type", .scalar (.text "not") none),
          (.name "child", Document.ofJson c.toJson)] = some .not := rfl
      have part : childOf (Document.ofJson c.toJson) = some (some c.reread) := by
        have loaded : ofDocument (Document.ofJson c.toJson) = some c.reread := ih c rfl
        rw [childOf_eq, isNull_ofJson (toJson_ne_null fun eq => written (congrArg some eq)), loaded]
        rfl
      simp [ofJson, toJson, childField, Document.ofJson, ofJsonFields, ofDocument, kind, childIn,
        isTypeKey, fieldOfKey?, part, reread, rereadOption]
  | invalid free =>
    obtain ⟨c, eq⟩ := exists_ofJson free
    rw [toJson, reread, eq]
    rfl

/-! ## When nothing changes -/

theorem rereadAll_eq_self {children : List Condition} (parts : ∀ c ∈ children, c.reread = c) :
    rereadAll children = children := by
  induction children with
  | nil => rfl
  | cons c rest ih =>
    obtain ⟨first, others⟩ := List.forall_mem_cons.1 parts
    rw [rereadAll, first, ih others]

/-- **The condition of a document that repeats no key** is loaded as it was. -/
theorem reread_eq_self {d : Document} (finite : d.IsFinite) (unique : d.hasUniqueKeys = true)
    {c : Condition} (h : ofDocument d = some c) : c.reread = c := by
  refine ofDocument_induction (Q := fun d => d.IsFinite ∧ d.hasUniqueKeys = true)
    (P := fun c => c.reread = c)
    (fun d q e mem => ⟨q.1.parts e mem, hasUniqueKeys_parts q.2 e mem⟩) ?_ ?_ ?_ ?_ ?_
    ⟨finite, unique⟩ h
  · intro source test _
    rw [reread]
  · intro cs parts
    rw [reread, rereadAll_eq_self parts]
  · intro cs parts
    rw [reread, rereadAll_eq_self parts]
  · intro c? part
    cases c? with
    | none => rw [reread, rereadOption]
    | some c => rw [reread, rereadOption, (part c rfl).1]
  · intro d j q eq
    have copy : (Document.ofJson j).IsCopyOf d := ⟨j, toJson?_of_ofDocument_invalid eq, rfl⟩
    rw [reread, ofJson, (sameConditions_copy copy q.1 q.2).condition, eq]
    rfl

/-- To save and load a condition once more changes nothing. -/
theorem reread_reread {c : Condition} (h : c.IsLoaded) : c.reread.reread = c.reread := by
  induction h with
  | check source fits => simp only [reread]
  | and _ ih =>
    rw [reread, reread, rereadAll_eq_self]
    simpa [rereadAll_eq_map] using ih
  | or _ ih =>
    rw [reread, reread, rereadAll_eq_self]
    simpa [rereadAll_eq_map] using ih
  | @not child _ _ ih =>
    cases child with
    | none => simp only [reread, rereadOption]
    | some c => simp only [reread, rereadOption, ih c rfl]
  | invalid free =>
    obtain ⟨c, eq⟩ := exists_ofJson free
    rw [reread, eq]
    exact reread_eq_self (isFinite_ofJson free) (hasUniqueKeys_ofJson free) eq

end Condition

end ChatRules
