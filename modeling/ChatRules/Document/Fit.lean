import ChatRules.Decimal.Read
import ChatRules.Document.Basic
import ChatRules.Word

/-!
# Fitting documents to records

The lenient way to read a document: a value fits what is wanted or it does not,
and no reason is kept. A scalar counts by its value, not by its spelling, so a
number is no text. A record may be a table or the list of its fields.

Results:

* `fieldsOfItems?_length`: a list that fits has no more items than the record has
  fields.
-/

namespace ChatRules.Document

/-- A text. -/
def text? : Document → Option String
  | .scalar (.text s) _ => some s
  | _ => none

/-- A whole number of 64 bits, from 0 on. -/
def size? : Document → Option Nat
  | .scalar (.number (.int i)) _ => if 0 ≤ i ∧ i < wordSize 64 then some i.toNat else none
  | _ => none

/-- A number. -/
def float? : Document → Option Float
  | .scalar (.number n) _ => some n.toFloat
  | _ => none

/-- A truth value. -/
def bool? : Document → Option Bool
  | .scalar (.bool b) _ => some b
  | _ => none

/-- A list whose items all fit. -/
def listOf? {α : Type} (item? : Document → Option α) : Document → Option (List α)
  | .list items => items.mapM item?
  | _ => none

/-- A list of texts. -/
def texts? : Document → Option (List String) := listOf? text?

/-- A field with a name, whose value fits. -/
def pair? {α : Type} (value? : Document → Option α) : Key × Document → Option (String × α)
  | (.name s, d) => (value? d).map (s, ·)
  | _ => none

/-- A dictionary whose values all fit. Of several fields with one key the last counts. -/
def dictOf? {α : Type} (value? : Document → Option α) : Document → Option (List (String × α))
  | .table fields => (fields.mapM (pair? value?)).map Dict.ofList
  | _ => none

/-- A value that may be `null`. -/
def nullable? {α : Type} (value? : Document → Option α) (d : Document) : Option (Option α) :=
  if d.isNull then some none else (value? d).map some

/-- Whether the document stands for nothing at all: `null` or, where `braces` allow it, a
    table without fields. -/
def isNothing (braces : Bool) : Document → Bool
  | .scalar .null _ => true
  | .table [] => braces
  | _ => false

/-- One of a list of words. A table whose only field is the word, with nothing at it,
    counts as the word. -/
def word? {α : Type} (words : List (String × α)) (braces : Bool) : Document → Option α
  | .scalar (.text s) _ => Dict.find? s words
  | .table [(.name s, d)] => if d.isNothing braces then Dict.find? s words else none
  | _ => none

/-- What a key says in a record: one of its fields by name or by number, or nothing. A key
    that is neither a text nor a number from 0 on does not fit. -/
def fieldOfKey? (names : List String) : Key → Option (Option String)
  | .name s => some (if names.contains s then some s else none)
  | .index n _ => some names[n]?
  | .scalar _ | .compound | .broken _ => none

/-- The fields of a table that a record has, each at most once. -/
def fieldsOfTable? (names : List String) : List (Key × Document) → Option (List (String × Document))
  | [] => some []
  | (key, d) :: rest =>
    match fieldOfKey? names key, fieldsOfTable? names rest with
    | some (some name), some fields =>
      if Dict.has name fields then none else some ((name, d) :: fields)
    | some none, some fields => some fields
    | _, _ => none

/-- The items of a list as the first fields of a record. -/
def fieldsOfItems? : List String → List Document → Option (List (String × Document))
  | _, [] => some []
  | [], _ :: _ => none
  | name :: names, d :: rest => (fieldsOfItems? names rest).map ((name, d) :: ·)

/-- The fields of a record, given as a table or as a list. -/
def record? (names : List String) : Document → Option (List (String × Document))
  | .table fields => fieldsOfTable? names fields
  | .list items => fieldsOfItems? names items
  | _ => none

/-- The value of a field that has to be there. -/
def need? {α : Type} (value? : Document → Option α) (name : String)
    (fields : List (String × Document)) : Option α :=
  (Dict.find? name fields).bind value?

/-- The value of a field, or another one if the field is not there. -/
def orElse? {α : Type} (value? : Document → Option α) (other : α) (name : String)
    (fields : List (String × Document)) : Option α :=
  match Dict.find? name fields with
  | some d => value? d
  | none => some other

theorem fieldsOfItems?_length {names : List String} {items : List Document}
    {fields : List (String × Document)} (h : fieldsOfItems? names items = some fields) :
    items.length ≤ names.length := by
  induction names generalizing items fields with
  | nil =>
    cases items with
    | nil => simp
    | cons => simp [fieldsOfItems?] at h
  | cons name names ih =>
    cases items with
    | nil => simp
    | cons d rest =>
      simp only [fieldsOfItems?, Option.map_eq_some_iff] at h
      obtain ⟨fs, h, _⟩ := h
      simpa using ih h

end ChatRules.Document
