import ChatRules.Document.Basic
import ChatRules.Text.Quoted
import ChatRules.Word

/-!
# Decoding documents

A decoder goes through a document in reading order and stops at the first thing
that does not fit: a fault of the text, a value of the wrong kind, a field that
is missing or there twice.

The decoders of this module read a scalar without quotes by its spelling where a
text is wanted.
-/

namespace ChatRules

/-- Why a document does not decode. -/
inductive DecodeError where
  | fault (f : Fault)
  | wrongType (found expected : String)
  | wrongValue (found expected : String)
  | wrongLength (length : Nat) (expected : String)
  | unknownWord (word : String) (known : List String)
  | missingField (name : String)
  | duplicateField (name : String)
deriving DecidableEq

/-- A list of choices in a sentence. -/
def choices : List String → String
  | [] => "there are no variants"
  | [a] => "`" ++ a ++ "`"
  | [a, b] => "`" ++ a ++ "` or `" ++ b ++ "`"
  | names => "one of " ++ ", ".intercalate (names.map fun a => "`" ++ a ++ "`")

/-- The sentence for a decoding error. -/
def DecodeError.message : DecodeError → String
  | .fault f => f.message
  | .wrongType found expected => "invalid type: " ++ found ++ ", expected " ++ expected
  | .wrongValue found expected => "invalid value: " ++ found ++ ", expected " ++ expected
  | .wrongLength n expected => "invalid length " ++ toString n ++ ", expected " ++ expected
  | .unknownWord word known =>
    "unknown variant `" ++ word ++ "`, expected " ++ choices known
  | .missingField name => "missing field `" ++ name ++ "`"
  | .duplicateField name => "duplicate field `" ++ name ++ "`"

/-- What a document decodes to. -/
abbrev Decoded (α : Type) := Except DecodeError α

namespace Document

/-- A number, as an error names it. -/
def numberFound : Number → String
  | .int i => "integer `" ++ toString i ++ "`"
  | .float x => "floating point `" ++ Decimal.Spelling.json.write x ++ "`"

/-- A scalar, as an error names it. -/
def scalarFound : Scalar → String
  | .null => "null"
  | .bool true => "boolean `true`"
  | .bool false => "boolean `false`"
  | .number n => numberFound n
  | .text s => "string " ++ Text.quoted s
  | .oversized => "integer"

/-- The error of a document that stands where something else is expected. -/
def mismatch (expected : String) : Document → DecodeError
  | .scalar value _ => .wrongType (scalarFound value) expected
  | .list _ => .wrongType "sequence" expected
  | .table _ => .wrongType "map" expected
  | .tagged _ => .wrongType "enum" expected
  | .broken b => .fault b.read

/-- The document under its tags. -/
def untagged : Document → Document
  | .tagged inner => inner.untagged
  | d => d

/-- Whether the document is the empty scalar, which stands for an empty list and an
    empty table alike. -/
def isVoid : Document → Bool
  | .scalar .null (some "") => true
  | _ => false

/-- A text. -/
def decodeText (d : Document) : Decoded String :=
  match d.untagged with
  | .scalar _ (some spelling) => .ok spelling
  | .scalar (.text s) none => .ok s
  | d => .error (d.mismatch "a string")

/-- A truth value. -/
def decodeBool (d : Document) : Decoded Bool :=
  match d.untagged with
  | .scalar (.bool b) _ => .ok b
  | d => .error (d.mismatch "a boolean")

/-- A whole number from 0 on, below a bound. -/
def decodeNat (bound : Nat) (expected : String) (d : Document) : Decoded Nat :=
  match d.untagged with
  | .scalar (.number (.int i)) _ =>
    if 0 ≤ i ∧ i < bound then .ok i.toNat
    else .error (.wrongValue (numberFound (.int i)) expected)
  | d => .error (d.mismatch expected)

/-- A whole number of 64 bits. -/
def decodeWord64 : Document → Decoded Nat := decodeNat (wordSize 64) "u64"

/-- A size, which has 64 bits too. -/
def decodeSize : Document → Decoded Nat := decodeNat (wordSize 64) "usize"

/-- A whole number of 32 bits. -/
def decodeWord32 : Document → Decoded Nat := decodeNat (wordSize 32) "u32"

/-- Every item of a list, in order. -/
def decodeItems {α : Type} (decode : Document → Decoded α) : List Document → Decoded (List α)
  | [] => .ok []
  | d :: rest =>
    match decode d with
    | .error e => .error e
    | .ok a =>
      match decodeItems decode rest with
      | .error e => .error e
      | .ok as => .ok (a :: as)

/-- A list. -/
def decodeList {α : Type} (decode : Document → Decoded α) (d : Document) : Decoded (List α) :=
  if d.isVoid then .ok []
  else
    match d.untagged with
    | .list items => decodeItems decode items
    | d => .error (d.mismatch "a sequence")

/-- A list of texts. -/
def decodeTexts : Document → Decoded (List String) := decodeList decodeText

/-- A value that may be `null`. -/
def decodeOption {α : Type} (decode : Document → Decoded α) (d : Document) :
    Decoded (Option α) :=
  if d.isNull then .ok none else (decode d).map some

/-- The name that a key gives to a field. -/
def keyName : Key → Decoded String
  | .name s | .index _ s | .scalar s => .ok s
  | .compound => .error (.wrongType "map" "a string")
  | .broken b => .error (.fault b.read)

/-- Every field of a dictionary, in order. -/
def decodeEntries {α : Type} (decode : Document → Decoded α) :
    List (Key × Document) → Decoded (List (String × α))
  | [] => .ok []
  | (key, d) :: rest =>
    match keyName key with
    | .error e => .error e
    | .ok name =>
      match decode d with
      | .error e => .error e
      | .ok a =>
        match decodeEntries decode rest with
        | .error e => .error e
        | .ok entries => .ok ((name, a) :: entries)

/-- A dictionary. Of several fields with one key the last counts. -/
def decodeDict {α : Type} (decode : Document → Decoded α) (d : Document) :
    Decoded (List (String × α)) :=
  if d.isVoid then .ok []
  else
    match d.untagged with
    | .table fields =>
      match decodeEntries decode fields with
      | .error e => .error e
      | .ok entries => .ok (Dict.ofList entries)
    | d => .error (d.mismatch "a map")

/-- A free-form value, nested at most `depth` deep. -/
def decodeJson (depth : Nat) (spelled : Bool) (d : Document) : Decoded Json :=
  match d.fault? depth with
  | some f => .error (.fault f)
  | none =>
    match d.toJson? spelled with
    | some j => .ok j
    | none => .error (d.mismatch "any valid JSON value")

/-- One of a list of words. A table whose only field is the word, with nothing at it,
    counts as the word. -/
def decodeWord {α : Type} (words : List (String × α)) (d : Document) : Decoded α :=
  let named (s : String) : Decoded α :=
    match Dict.find? s words with
    | some a => .ok a
    | none => .error (.unknownWord s (words.map (·.1)))
  match d with
  | .scalar (.text s) _ => named s
  | .table [(.name s, inner)] =>
    match named s, inner with
    | .error e, _ => .error e
    | .ok a, .scalar .null _ => .ok a
    | .ok _, inner => .error (inner.mismatch "unit")
  | .table _ => .error (.wrongValue "map" "map with a single key")
  | d => .error (d.mismatch "string or map")

/-- A record while it is decoded: how the draft `σ` takes in each field, in the order
    in which a list gives them, and what a list with further items comes to. -/
structure Shape (σ : Type) where
  expected : String
  fields : List (String × (Document → σ → Decoded σ))
  excess : Nat → List Document → DecodeError

/-- Takes in the fields of a table in order. A field that is not known is skipped. -/
def takeFields {σ : Type} (shape : Shape σ) (seen : List String) :
    List (Key × Document) → σ → Decoded σ
  | [], draft => .ok draft
  | (key, d) :: rest, draft =>
    match keyName key with
    | .error e => .error e
    | .ok name =>
      match Dict.find? name shape.fields with
      | none =>
        match d.skipFault? with
        | some f => .error (.fault f)
        | none => takeFields shape seen rest draft
      | some take =>
        if name ∈ seen then .error (.duplicateField name)
        else
          match take d draft with
          | .error e => .error e
          | .ok draft => takeFields shape (name :: seen) rest draft

/-- Takes in the items of a list as fields in order. -/
def takeItems {σ : Type} (shape : Shape σ) (length : Nat) :
    List (String × (Document → σ → Decoded σ)) → List Document → σ → Decoded σ
  | _, [], draft => .ok draft
  | [], rest, _ => .error (shape.excess length rest)
  | (_, take) :: fields, d :: rest, draft =>
    match take d draft with
    | .error e => .error e
    | .ok draft => takeItems shape length fields rest draft

/-- The kinds of texts that a record may come from. In a YAML text it is always a table. -/
inductive Origin where
  | json | yaml
deriving DecidableEq, Repr

/-- A record, given as a table or as the list of its fields. -/
def decodeRecord {σ : Type} (origin : Origin) (shape : Shape σ) (draft : σ) (d : Document) :
    Decoded σ :=
  if d.isVoid then .ok draft
  else
    match d.untagged with
    | .table fields => takeFields shape [] fields draft
    | .list items =>
      match origin with
      | .json => takeItems shape items.length shape.fields items draft
      | .yaml => .error ((list items).mismatch shape.expected)
    | d => .error (d.mismatch shape.expected)

/-- In a text, items beyond the fields of a record are characters too many. -/
def textExcess (_ : Nat) (rest : List Document) : DecodeError :=
  match rest with
  | .broken ⟨.trailingComma, _⟩ :: _ => .fault .trailingComma
  | .broken ⟨.endInList, _⟩ :: _ => .fault .endInList
  | _ => .fault .trailingCharacters

/-- In a value, items beyond the fields of a record make the list too long. -/
def valueExcess (length : Nat) (_ : List Document) : DecodeError :=
  .wrongLength length "fewer elements in array"

end Document

end ChatRules
