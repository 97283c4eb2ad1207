import ChatRules.Document.Decode
import ChatRules.Document.Fit
import ChatRules.Proofs.Json.Finite
import ChatRules.Proofs.Json.FreeForm

/-!
# What records hold

A record is decoded field by field, from a table or from a list. What each of its fields
keeps holds of the record. Where a document is fitted to a record instead, what stands at
its fields are parts of the document.

Results:

* `decodeRecord_induction`: what the fields keep, a decoded record keeps.
* `isFreeForm_of_decodeDict`: a dictionary of free-form values is in order.
* `mem_parts_of_record?`, `exists_of_listOf?`: where fields and items come from.
-/

namespace ChatRules.Document

theorem map_eq_ok_iff {α β : Type} {f : α → β} {x : Decoded α} {b : β} :
    x.map f = .ok b ↔ ∃ a, x = .ok a ∧ f a = b := by
  cases x <;> simp [Except.map]

section

variable {σ : Type} {shape : Shape σ} {P : σ → Prop}
  (step : ∀ f ∈ shape.fields, ∀ d draft result, f.2 d draft = .ok result → P draft → P result)
include step

theorem takeFields_induction {seen : List String} {fields : List (Key × Document)}
    {draft result : σ} (done : takeFields shape seen fields draft = .ok result) (h : P draft) :
    P result := by
  induction fields generalizing seen draft with
  | nil =>
    cases done
    exact h
  | cons f rest ih =>
    unfold takeFields at done
    split at done
    · cases done
    · split at done
      · split at done
        · cases done
        · exact ih done h
      · rename_i take found
        split at done
        · cases done
        · split at done
          · cases done
          · rename_i next taken
            exact ih done (step _ (Dict.mem_of_find? found) _ _ _ taken h)

theorem takeItems_induction {length : Nat}
    {fields : List (String × (Document → σ → Decoded σ))} (part : ∀ f ∈ fields, f ∈ shape.fields)
    {items : List Document} {draft result : σ}
    (done : takeItems shape length fields items draft = .ok result) (h : P draft) : P result := by
  induction fields generalizing items draft with
  | nil =>
    cases items with
    | nil =>
      cases done
      exact h
    | cons d rest => cases done
  | cons f fields ih =>
    obtain ⟨first, others⟩ := List.forall_mem_cons.1 part
    cases items with
    | nil =>
      cases done
      exact h
    | cons d rest =>
      unfold takeItems at done
      split at done
      · cases done
      · rename_i next taken
        exact ih others done (step f first _ _ _ taken h)

/-- What every field of a record keeps, the record keeps. -/
theorem decodeRecord_induction {origin : Origin} {draft result : σ} {d : Document}
    (done : decodeRecord origin shape draft d = .ok result) (h : P draft) : P result := by
  unfold decodeRecord at done
  split at done
  · cases done
    exact h
  · split at done
    · exact takeFields_induction step done h
    · split at done
      · exact takeItems_induction step (fun f mem => mem) done h
      · cases done
    · cases done

end

/-! ## Parts of records -/

theorem isFreeForm_of_decodeJson {depth : Nat} {spelled : Bool} {d : Document} {j : Json}
    (h : decodeJson depth spelled d = .ok j) : j.IsFreeForm := by
  unfold decodeJson at h
  split at h
  · cases h
  · split at h
    · rename_i value
      cases h
      exact Json.isFreeForm_of_toJson? value
    · cases h

theorem forall_of_decodeEntries {α : Type} {decode : Document → Decoded α} {Q : α → Prop}
    (value : ∀ d a, decode d = .ok a → Q a) {fields : List (Key × Document)}
    {entries : List (String × α)} (h : decodeEntries decode fields = .ok entries) :
    ∀ e ∈ entries, Q e.2 := by
  induction fields generalizing entries with
  | nil =>
    cases h
    simp
  | cons f rest ih =>
    unfold decodeEntries at h
    split at h
    · cases h
    · split at h
      · cases h
      · rename_i a decoded
        split at h
        · cases h
        · rename_i others restEntries
          cases h
          exact List.forall_mem_cons.2 ⟨value _ a decoded, ih restEntries⟩

/-- A dictionary of free-form values is in order. -/
theorem isFreeForm_of_decodeDict {depth : Nat} {spelled : Bool} {d : Document}
    {entries : List (String × Json)} (h : decodeDict (decodeJson depth spelled) d = .ok entries) :
    (Json.object entries).IsFreeForm := by
  unfold decodeDict at h
  split at h
  · cases h
    exact .object List.Pairwise.nil (by simp)
  · split at h
    · split at h
      · cases h
      · rename_i raw decoded
        cases h
        have free := forall_of_decodeEntries (fun d j => isFreeForm_of_decodeJson) decoded
        exact .object (Dict.sorted_ofList raw) fun f mem => free f (Dict.mem_of_mem_ofList mem)
    · cases h

theorem lt_of_decodeNat {bound : Nat} {expected : String} {d : Document} {n : Nat}
    (h : decodeNat bound expected d = .ok n) : n < bound := by
  unfold decodeNat at h
  split at h
  · split at h
    · cases h
      omega
    · cases h
  · cases h

/-! ## Fitted records -/

theorem isNull_of_toJson?_null {d : Document} (finite : d.IsFinite)
    (h : d.toJson? false = some .null) : d.isNull = true := by
  cases d with
  | scalar value spelling =>
    unfold toJson? scalarJson? at h
    split at h
    · rfl
    · cases h
    · cases h
    · -- Only what is no number becomes `null`, and a text has no such thing.
      rename_i x
      cases finite with
      | scalar finite =>
        rw [Json.ofFloat, if_pos (finite _ rfl x rfl)] at h
        cases h
    · cases h
    · cases h
  | list items =>
    obtain ⟨_, _, ⟨⟩⟩ := Option.map_eq_some_iff.1 h
  | table fields =>
    obtain ⟨_, _, ⟨⟩⟩ := Option.map_eq_some_iff.1 h
  | tagged inner => cases h
  | broken b => cases h

theorem lt_of_size? {d : Document} {n : Nat} (h : size? d = some n) : n < wordSize 64 := by
  unfold size? at h
  split at h
  · split at h
    · cases h
      omega
    · cases h
  · cases h

theorem lt_of_orElse?_size? {other : Nat} (fits : other < wordSize 64) {name : String}
    {fields : List (String × Document)} {n : Nat}
    (h : orElse? size? other name fields = some n) : n < wordSize 64 := by
  unfold orElse? at h
  split at h
  · exact lt_of_size? h
  · cases h
    exact fits

theorem sorted_of_dictOf? {α : Type} {value? : Document → Option α} {d : Document}
    {entries : List (String × α)} (h : dictOf? value? d = some entries) : Dict.Sorted entries := by
  unfold dictOf? at h
  split at h
  · obtain ⟨_, _, rfl⟩ := Option.map_eq_some_iff.1 h
    exact Dict.sorted_ofList _
  · cases h

theorem mem_of_fieldsOfTable? {names : List String} {fields : List (Key × Document)}
    {taken : List (String × Document)} (h : fieldsOfTable? names fields = some taken) :
    ∀ f ∈ taken, ∃ g ∈ fields, g.2 = f.2 := by
  induction fields generalizing taken with
  | nil =>
    cases h
    simp
  | cons g rest ih =>
    obtain ⟨key, d⟩ := g
    have below {taken} (h : fieldsOfTable? names rest = some taken) :
        ∀ f ∈ taken, ∃ g ∈ (key, d) :: rest, g.2 = f.2 := fun f mem =>
      (ih h f mem).imp fun g part => ⟨List.mem_cons_of_mem _ part.1, part.2⟩
    unfold fieldsOfTable? at h
    split at h
    · rename_i name others _ more
      split at h
      · cases h
      · cases h
        exact List.forall_mem_cons.2 ⟨⟨_, List.mem_cons_self, rfl⟩, below more⟩
    · rename_i others _ more
      cases h
      exact below more
    · cases h

theorem mem_of_fieldsOfItems? {names : List String} {items : List Document}
    {taken : List (String × Document)} (h : fieldsOfItems? names items = some taken) :
    ∀ f ∈ taken, f.2 ∈ items := by
  induction items generalizing names taken with
  | nil =>
    simp only [fieldsOfItems?, Option.some.injEq] at h
    simp [← h]
  | cons d rest ih =>
    cases names with
    | nil => cases h
    | cons name names =>
      obtain ⟨others, more, rfl⟩ := Option.map_eq_some_iff.1 h
      exact List.forall_mem_cons.2
        ⟨List.mem_cons_self, fun f mem => List.mem_cons_of_mem d (ih more f mem)⟩

/-- What stands at the fields of a record are parts of its document. -/
theorem mem_parts_of_record? {names : List String} {d e : Document} {name : String}
    {fields : List (String × Document)} (h : record? names d = some fields)
    (found : Dict.find? name fields = some e) : e ∈ d.parts := by
  have mem := Dict.mem_of_find? found
  cases d with
  | table table =>
    obtain ⟨g, part, eq⟩ := mem_of_fieldsOfTable? h _ mem
    exact List.mem_map.2 ⟨g, part, eq⟩
  | list items => exact mem_of_fieldsOfItems? h _ mem
  | scalar value spelling => cases h
  | tagged inner => cases h
  | broken b => cases h

theorem exists_of_nullable? {α : Type} {value? : Document → Option α} {name : String}
    {fields : List (String × Document)} {a? : Option α}
    (h : orElse? (nullable? value?) none name fields = some a?) :
    ∀ a ∈ a?, ∃ e, Dict.find? name fields = some e ∧ e.isNull = false ∧ value? e = some a := by
  rintro a rfl
  unfold orElse? at h
  split at h
  · rename_i e found
    unfold nullable? at h
    split at h
    · cases h
    · rename_i notNull
      obtain ⟨_, eq, ⟨⟩⟩ := Option.map_eq_some_iff.1 h
      exact ⟨e, found, by simpa using notNull, eq⟩
  · cases h

theorem exists_of_listOf? {α : Type} {item? : Document → Option α} {d : Document} {as : List α}
    (h : listOf? item? d = some as) : ∀ a ∈ as, ∃ e ∈ d.parts, item? e = some a := by
  unfold listOf? at h
  split at h
  · rename_i items
    show ∀ a ∈ as, ∃ e ∈ items, item? e = some a
    induction items generalizing as with
    | nil =>
      cases h
      simp
    | cons d rest ih =>
      simp only [List.mapM_cons, Option.bind_eq_bind, Option.bind_eq_some_iff, Option.pure_def,
        Option.some.injEq] at h
      obtain ⟨first, value, others, more, rfl⟩ := h
      refine List.forall_mem_cons.2 ⟨⟨d, List.mem_cons_self, value⟩, fun a mem => ?_⟩
      obtain ⟨e, part, eq⟩ := ih more a mem
      exact ⟨e, List.mem_cons_of_mem d part, eq⟩
  · cases h

end ChatRules.Document
