import ChatRules.Json.Read

/-!
# Documents of texts

The document of a JSON text has no tags and no whole numbers of more than 64 bits, and its keys
are names. A number that is out of range is a fault of the text, so every number in the document
is finite.

Results:

* `isFinite_readNumeral`: a number that is read is finite.
* `isOfText_read`: what the document of a text holds.
* `isFinite_read`: its numbers are finite.
-/

namespace ChatRules

/-- A number that is whole or a finite double. -/
def Number.IsFinite (n : Number) : Prop := ∀ x, n = .float x → Decimal.isFinite x = true

/-- A document whose numbers are finite. -/
inductive Document.IsFinite : Document → Prop
  | scalar {value : Scalar} {spelling : Option String}
    (finite : ∀ n, value = .number n → n.IsFinite) : IsFinite (.scalar value spelling)
  | list {items : List Document} (parts : ∀ d ∈ items, IsFinite d) : IsFinite (.list items)
  | table {fields : List (Key × Document)} (parts : ∀ f ∈ fields, IsFinite f.2) :
    IsFinite (.table fields)
  | tagged {inner : Document} (part : IsFinite inner) : IsFinite (.tagged inner)
  | broken (b : Break) : IsFinite (.broken b)

/-- A key of a JSON text. -/
inductive Key.IsOfText : Key → Prop
  | name (s : String) : IsOfText (.name s)
  | broken (b : Break) : IsOfText (.broken b)

/-- A document of a JSON text, or of a part of one. -/
inductive Document.IsOfText : Document → Prop
  | scalar {value : Scalar} (finite : ∀ n, value = .number n → n.IsFinite)
    (bounded : value ≠ .oversized) : IsOfText (.scalar value none)
  | list {items : List Document} (parts : ∀ d ∈ items, IsOfText d) : IsOfText (.list items)
  | table {fields : List (Key × Document)} (keys : ∀ f ∈ fields, f.1.IsOfText)
    (parts : ∀ f ∈ fields, IsOfText f.2) : IsOfText (.table fields)
  | broken (b : Break) : IsOfText (.broken b)

theorem Document.IsOfText.isFinite {d : Document} (h : d.IsOfText) : d.IsFinite := by
  induction h with
  | scalar finite bounded => exact .scalar finite
  | list _ ih => exact .list ih
  | table _ _ ih => exact .table ih
  | broken b => exact .broken b

namespace Document

/-- The documents directly below one. -/
def parts : Document → List Document
  | .list items => items
  | .table fields => fields.map (·.2)
  | .scalar _ _ | .tagged _ | .broken _ => []

/-- What passes from the parts of documents to the documents holds of all. -/
theorem induction_parts {P : Document → Prop} (step : ∀ d, (∀ e ∈ d.parts, P e) → P d)
    (d : Document) : P d := by
  induction d using Document.induction with
  | scalar value spelling => exact step _ nofun
  | list items ih => exact step _ ih
  | table fields ih =>
    refine step _ fun e mem => ?_
    obtain ⟨f, field, rfl⟩ := List.mem_map.1 mem
    exact ih f field
  | tagged inner _ => exact step _ nofun
  | broken b => exact step _ nofun

/-- A document one or two levels under another one. -/
def IsUnder (e d : Document) : Prop := e ∈ d.parts ∨ ∃ i ∈ d.parts, e ∈ i.parts

/-- What documents pass to their parts, they pass to the documents under them. -/
theorem IsUnder.of_parts {Q : Document → Prop} (parts : ∀ d, Q d → ∀ e ∈ d.parts, Q e)
    {e d : Document} (under : e.IsUnder d) (q : Q d) : Q e := by
  rcases under with part | ⟨i, mem, part⟩
  · exact parts d q e part
  · exact parts i (parts d q i mem) e part

theorem IsFinite.items {items : List Document} (h : IsFinite (.list items)) :
    ∀ d ∈ items, d.IsFinite := by
  cases h
  assumption

theorem IsFinite.fields {fields : List (Key × Document)} (h : IsFinite (.table fields)) :
    ∀ f ∈ fields, f.2.IsFinite := by
  cases h
  assumption

theorem IsFinite.parts {d : Document} (h : d.IsFinite) : ∀ e ∈ d.parts, e.IsFinite := by
  cases d with
  | list items => exact h.items
  | table fields =>
    intro e mem
    obtain ⟨f, field, rfl⟩ := List.mem_map.1 mem
    exact h.fields f field
  | scalar value spelling => exact nofun
  | tagged inner => exact nofun
  | broken b => exact nofun

end Document

namespace Json

/-! ## Numbers -/

/-- What a numeral comes to is finite, if it is a number. -/
def Numeral.IsFinite (x : Numeral) : Prop := ∀ n, x = .value n → n.IsFinite

theorem Numeral.isFinite_fault (b : Break) : IsFinite (.fault b) := nofun

theorem Numeral.isFinite_int (i : Int) : IsFinite (.value (.int i)) := by
  rintro n ⟨⟩ x ⟨⟩

theorem Numeral.isFinite_ofFloat (x : Float) : IsFinite (.ofFloat x) := by
  unfold Numeral.ofFloat
  split
  · rename_i finite
    rintro n ⟨⟩ x ⟨⟩
    exact finite
  · exact isFinite_fault _

theorem Numeral.isFinite_ofScale (negative : Bool) (s : Significand) (exponent : Int) :
    IsFinite (.ofScale negative s exponent) := by
  unfold Numeral.ofScale
  split
  · exact isFinite_ofFloat _
  · exact isFinite_fault _

theorem Numeral.isFinite_ofWhole (negative : Bool) (value : Nat) :
    IsFinite (.ofWhole negative value) := by
  unfold Numeral.ofWhole
  split
  · exact isFinite_int _
  · split
    · exact isFinite_ofFloat _
    · exact isFinite_int _

section

variable (negative : Bool) (s : Significand) (text : List Char)

theorem isFinite_readExponentDigits (down : Bool) :
    (readExponentDigits negative s down text).1.IsFinite := by
  unfold readExponentDigits
  split
  · exact Numeral.isFinite_fault _
  · split
    · exact Numeral.isFinite_fault _
    · dsimp only
      split
      · split
        · exact Numeral.isFinite_ofFloat _
        · exact Numeral.isFinite_fault _
      · exact Numeral.isFinite_ofScale _ _ _

theorem isFinite_readExponent : (readExponent negative s text).1.IsFinite := by
  unfold readExponent
  split <;> exact isFinite_readExponentDigits _ _ _ _

theorem isFinite_readEnd : (readEnd negative s text).1.IsFinite := by
  unfold readEnd
  split
  · exact isFinite_readExponent _ _ _
  · exact isFinite_readExponent _ _ _
  · exact Numeral.isFinite_ofScale _ _ _

theorem isFinite_readFraction : (readFraction negative s text).1.IsFinite := by
  unfold readFraction
  dsimp only
  split
  · split <;> exact Numeral.isFinite_fault _
  · exact isFinite_readEnd _ _ _

theorem isFinite_readAfterWhole : (readAfterWhole negative s text).1.IsFinite := by
  unfold readAfterWhole
  split
  · exact isFinite_readFraction _ _ _
  · exact isFinite_readExponent _ _ _
  · exact isFinite_readExponent _ _ _
  · split
    · exact isFinite_readEnd _ _ _
    · exact Numeral.isFinite_ofWhole _ _

/-- A number that is read is finite. -/
theorem isFinite_readNumeral : (readNumeral negative text).1.IsFinite := by
  unfold readNumeral
  split
  · exact Numeral.isFinite_fault _
  · dsimp only
    split
    · exact Numeral.isFinite_fault _
    · exact isFinite_readAfterWhole _ _ _

end

/-! ## Documents -/

theorem isOfText_numeralReading {x : Numeral × Option (List Char)} (h : x.1.IsFinite) :
    (numeralReading x).1.IsOfText := by
  unfold numeralReading
  split
  · refine .scalar ?_ nofun
    rintro n ⟨⟩
    exact h _ rfl
  · exact .broken _

theorem isOfText_readWord (letters : List Char) {value : Scalar}
    (whole : Document.IsOfText (.scalar value none)) (text : List Char) :
    (readWord letters value text).1.IsOfText := by
  induction letters generalizing text with
  | nil => exact whole
  | cons l letters ih =>
    cases text with
    | nil => exact .broken _
    | cons c rest =>
      unfold readWord
      split
      · exact ih rest
      · exact .broken _

/-- A field of a text, or of a part of one. -/
def IsFieldOfText (f : Key × Document) : Prop := f.1.IsOfText ∧ f.2.IsOfText

/-- Everything that is read with some fuel is of a text. -/
structure ReadsText (fuel : Nat) : Prop where
  value : ∀ text, (readValue fuel text).1.IsOfText
  items : ∀ first text, ∀ d ∈ (readItems fuel first text).1, d.IsOfText
  itemsWith : ∀ text, ∀ d ∈ (itemsWith fuel text).1, d.IsOfText
  fields : ∀ first text, ∀ f ∈ (readFields fuel first text).1, IsFieldOfText f
  fieldsWith : ∀ text, ∀ f ∈ (fieldsWith fuel text).1, IsFieldOfText f

theorem isOfText_null : Document.IsOfText (.scalar .null none) := .scalar nofun nofun

theorem isOfText_bool (b : Bool) : Document.IsOfText (.scalar (.bool b) none) :=
  .scalar nofun nofun

theorem forall_isOfText_broken (b : Break) : ∀ d ∈ [Document.broken b], d.IsOfText := by
  simpa using Document.IsOfText.broken b

theorem forall_isFieldOfText {key : Key} (ofKey : key.IsOfText) {d : Document}
    (ofValue : d.IsOfText) : ∀ f ∈ [(key, d)], IsFieldOfText f := by
  intro f mem
  rw [List.mem_singleton.1 mem]
  exact ⟨ofKey, ofValue⟩

theorem readsText_zero : ReadsText 0 where
  value text := by
    rw [readValue]
    exact .broken _
  items first text := by
    rw [readItems]
    exact forall_isOfText_broken _
  itemsWith text := by
    rw [Json.itemsWith]
    simp
  fields first text := by
    rw [readFields]
    exact forall_isFieldOfText (.broken _) isOfText_null
  fieldsWith text := by
    rw [Json.fieldsWith]
    simp

section

variable {fuel : Nat} (h : ReadsText fuel)
include h

theorem ReadsText.succ_value (text : List Char) : (readValue (fuel + 1) text).1.IsOfText := by
  cases text with
  | nil => exact .broken _
  | cons c rest =>
    have listed := h.items true (skipBlanks rest)
    have named := h.fields true (skipBlanks rest)
    unfold readValue
    repeat' split
    · exact isOfText_readWord _ isOfText_null _
    · exact isOfText_readWord _ (isOfText_bool true) _
    · exact isOfText_readWord _ (isOfText_bool false) _
    · exact isOfText_numeralReading (isFinite_readNumeral _ _)
    · exact isOfText_numeralReading (isFinite_readNumeral _ _)
    · exact .scalar nofun nofun
    · exact .broken _
    · rename_i eq
      rw [eq] at listed
      exact .list listed
    · rename_i eq
      rw [eq] at named
      exact .table (fun f mem => (named f mem).1) fun f mem => (named f mem).2
    · exact .broken _

theorem ReadsText.succ_items (first : Bool) (text : List Char) :
    ∀ d ∈ (readItems (fuel + 1) first text).1, d.IsOfText := by
  cases text with
  | nil => exact forall_isOfText_broken _
  | cons c rest =>
    unfold readItems
    dsimp only
    repeat' split
    · simp
    · exact h.itemsWith _
    · exact forall_isOfText_broken _
    · exact forall_isOfText_broken _
    · exact h.itemsWith _
    · exact forall_isOfText_broken _

theorem ReadsText.succ_itemsWith (text : List Char) :
    ∀ d ∈ (Json.itemsWith (fuel + 1) text).1, d.IsOfText := by
  have first := h.value text
  unfold Json.itemsWith
  split
  · rename_i d eq
    rw [eq] at first
    simpa using first
  · rename_i d rest eq
    have others := h.items false (skipBlanks rest)
    rw [eq] at first
    split
    rename_i items after more
    rw [more] at others
    exact List.forall_mem_cons.2 ⟨first, others⟩

theorem ReadsText.succ_fields (first : Bool) (text : List Char) :
    ∀ f ∈ (readFields (fuel + 1) first text).1, IsFieldOfText f := by
  have broken (b : Break) : ∀ f ∈ [(Key.broken b, Document.scalar .null none)], IsFieldOfText f :=
    forall_isFieldOfText (.broken b) isOfText_null
  cases text with
  | nil => exact broken _
  | cons c rest =>
    unfold readFields
    dsimp only
    repeat' split
    · simp
    · exact h.fieldsWith _
    · exact broken _
    · exact broken _
    · exact h.fieldsWith _
    · exact broken _
    · exact broken _
    · exact broken _

theorem ReadsText.succ_fieldsWith (text : List Char) :
    ∀ f ∈ (Json.fieldsWith (fuel + 1) text).1, IsFieldOfText f := by
  unfold Json.fieldsWith
  dsimp only
  -- The key is a name, or what is wrong with it, whatever follows.
  split
  · exact forall_isFieldOfText (by split <;> constructor) isOfText_null
  · split
    · rename_i value _
      have first := h.value (skipBlanks value)
      split
      · rename_i d eq
        rw [eq] at first
        exact forall_isFieldOfText (by split <;> constructor) first
      · rename_i d rest eq
        have others := h.fields false (skipBlanks rest)
        rw [eq] at first
        exact List.forall_mem_cons.2 ⟨⟨by split <;> constructor, first⟩, others⟩
    · exact forall_isFieldOfText (by split <;> constructor) (.broken _)
    · exact forall_isFieldOfText (by split <;> constructor) (.broken _)

end

theorem readsText_succ {fuel : Nat} (h : ReadsText fuel) : ReadsText (fuel + 1) :=
  ⟨h.succ_value, h.succ_items, h.succ_itemsWith, h.succ_fields, h.succ_fieldsWith⟩

theorem readsText (fuel : Nat) : ReadsText fuel := by
  induction fuel with
  | zero => exact readsText_zero
  | succ fuel ih => exact readsText_succ ih

/-- **What the document of a text holds.** -/
theorem isOfText_read (text : String) : (read text).root.IsOfText := by
  have value := (readsText (3 * text.toList.length + 3)).value (skipBlanks text.toList)
  unfold read
  dsimp only
  split
  · rename_i root eq
    rwa [eq] at value
  · rename_i root rest eq
    rwa [eq] at value

/-- The numbers of a text are finite. -/
theorem isFinite_read (text : String) : (read text).root.IsFinite := (isOfText_read text).isFinite

end Json

end ChatRules
