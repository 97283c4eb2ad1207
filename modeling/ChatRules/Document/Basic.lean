import ChatRules.Json.Print

/-!
# Documents

What a text holds before it is given a meaning: scalars, lists and tables as
they stand, with the order and the repetition of keys. A place where the text
cannot be read on is part of the document, so a reader that goes through it in
order meets the first problem first, whatever its kind.

Models what the readers of JSON and YAML hand on to the types (`SPEC_FULL.md` §3.4).

Results:

* `induction`: what passes from the parts to the whole holds of every document.
-/

namespace ChatRules

/-- Why a text cannot be read on. -/
inductive Fault where
  | endInList | endInObject | endInString | endInValue
  | expectedColon | expectedCommaOrBracket | expectedCommaOrBrace
  | expectedIdent | expectedValue | keyMustBeString | trailingComma | trailingCharacters
  | invalidEscape | invalidNumber | numberOutOfRange | controlCharacter
  | loneSurrogate | unexpectedEndOfEscape | tooDeep
deriving DecidableEq, Repr

/-- The sentence for a fault. -/
def Fault.message : Fault → String
  | .endInList => "EOF while parsing a list"
  | .endInObject => "EOF while parsing an object"
  | .endInString => "EOF while parsing a string"
  | .endInValue => "EOF while parsing a value"
  | .expectedColon => "expected `:`"
  | .expectedCommaOrBracket => "expected `,` or `]`"
  | .expectedCommaOrBrace => "expected `,` or `\x7d`"
  | .expectedIdent => "expected ident"
  | .expectedValue => "expected value"
  | .keyMustBeString => "key must be a string"
  | .trailingComma => "trailing comma"
  | .trailingCharacters => "trailing characters"
  | .invalidEscape => "invalid escape"
  | .invalidNumber => "invalid number"
  | .numberOutOfRange => "number out of range"
  | .controlCharacter =>
    "control character (\\u0000-\\u001F) found while parsing a string"
  | .loneSurrogate => "lone leading surrogate in hex escape"
  | .unexpectedEndOfEscape => "unexpected end of hex escape"
  | .tooDeep => "recursion limit exceeded"

/-- A place where the text cannot be read on. A reader that only skips the value
    there does not look as closely: it may meet another fault, or none. -/
structure Break where
  read : Fault
  skip : Option Fault
deriving DecidableEq, Repr

/-- A fault that every reader meets. -/
def Break.hard (f : Fault) : Break := ⟨f, some f⟩

/-- A value without parts. -/
inductive Scalar where
  | null
  | bool (b : Bool)
  | number (n : Number)
  | text (s : String)
  /-- A whole number of more than 64 bits. -/
  | oversized
deriving DecidableEq

/-- The key of a field. -/
inductive Key where
  | name (s : String)
  /-- A whole number, which also has a spelling. -/
  | index (n : Nat) (spelling : String)
  /-- Another scalar, known by its spelling. -/
  | scalar (spelling : String)
  /-- A list or a table. -/
  | compound
  | broken (b : Break)
deriving DecidableEq

/-- What a text holds. -/
inductive Document where
  /-- A scalar. One that stood without quotes keeps its spelling. -/
  | scalar (value : Scalar) (spelling : Option String)
  | list (items : List Document)
  | table (fields : List (Key × Document))
  /-- A value under a tag of its own. -/
  | tagged (inner : Document)
  | broken (b : Break)
deriving Inhabited

namespace Document

/-- What passes from the parts of a document to the document holds of every document. -/
theorem induction {P : Document → Prop} (scalar : ∀ value spelling, P (.scalar value spelling))
    (list : ∀ items, (∀ d ∈ items, P d) → P (.list items))
    (table : ∀ fields, (∀ f ∈ fields, P f.2) → P (.table fields))
    (tagged : ∀ inner, P inner → P (.tagged inner)) (broken : ∀ b, P (.broken b))
    (d : Document) : P d :=
  @Document.rec P (fun items => ∀ d ∈ items, P d) (fun fields => ∀ f ∈ fields, P f.2)
    (fun f => P f.2) scalar list table tagged broken (by simp)
    (fun _ _ first rest => List.forall_mem_cons.2 ⟨first, rest⟩) (by simp)
    (fun _ _ first rest => List.forall_mem_cons.2 ⟨first, rest⟩) (fun _ _ value => value) d

/-- Whether the document is `null`. -/
def isNull : Document → Bool
  | .scalar .null _ => true
  | _ => false

/-- How deep lists and tables may be nested. -/
def depthLimit : Nat := 127

mutual

/-- A value seen as a document. -/
def ofJson : Json → Document
  | .null => .scalar .null none
  | .bool b => .scalar (.bool b) none
  | .number n => .scalar (.number n) none
  | .string s => .scalar (.text s) none
  | .array items => .list (ofJsonItems items)
  | .object fields => .table (ofJsonFields fields)

/-- Values seen as documents. -/
def ofJsonItems : List Json → List Document
  | [] => []
  | j :: rest => ofJson j :: ofJsonItems rest

/-- Fields seen as parts of a document. -/
def ofJsonFields : List (String × Json) → List (Key × Document)
  | [] => []
  | (k, j) :: rest => (.name k, ofJson j) :: ofJsonFields rest

end

mutual

/-- The first fault in reading order, with lists and tables nested at most `depth`
    deep. -/
def fault? (depth : Nat) : Document → Option Fault
  | .scalar _ _ => none
  | .broken b => some b.read
  | .tagged inner => inner.fault? depth
  | .list items =>
    match depth with
    | 0 => some .tooDeep
    | depth + 1 => itemsFault? depth items
  | .table fields =>
    match depth with
    | 0 => some .tooDeep
    | depth + 1 => fieldsFault? depth fields

/-- The first fault in a list of items. -/
def itemsFault? (depth : Nat) : List Document → Option Fault
  | [] => none
  | d :: rest => (d.fault? depth).or (itemsFault? depth rest)

/-- The first fault in a list of fields. -/
def fieldsFault? (depth : Nat) : List (Key × Document) → Option Fault
  | [] => none
  | (.broken b, _) :: _ => some b.read
  | (_, d) :: rest => (d.fault? depth).or (fieldsFault? depth rest)

end

mutual

/-- The first fault that a reader meets who skips the value. -/
def skipFault? : Document → Option Fault
  | .scalar _ _ => none
  | .broken b => b.skip
  | .tagged inner => inner.skipFault?
  | .list items => skipItems? items
  | .table fields => skipFields? fields

/-- The first fault met in skipping items. -/
def skipItems? : List Document → Option Fault
  | [] => none
  | d :: rest => d.skipFault?.or (skipItems? rest)

/-- The first fault met in skipping fields. -/
def skipFields? : List (Key × Document) → Option Fault
  | [] => none
  | (.broken b, d) :: rest => b.skip.or (d.skipFault?.or (skipFields? rest))
  | (_, d) :: rest => d.skipFault?.or (skipFields? rest)

end

mutual

/-- Whether the document holds something for which there is no plain value: a tag, or a
    whole number of more than 64 bits. -/
def isForeign : Document → Bool
  | .scalar .oversized _ => true
  | .scalar _ _ | .broken _ => false
  | .tagged _ => true
  | .list items => itemsForeign items
  | .table fields => fieldsForeign fields

/-- Whether one of the items does. -/
def itemsForeign : List Document → Bool
  | [] => false
  | d :: rest => d.isForeign || itemsForeign rest

/-- Whether the value of one of the fields does. -/
def fieldsForeign : List (Key × Document) → Bool
  | [] => false
  | (_, d) :: rest => d.isForeign || fieldsForeign rest

end

/-- The value of a scalar. What is no finite number becomes `null`. -/
def scalarJson? : Scalar → Option Json
  | .null => some .null
  | .bool b => some (.bool b)
  | .number (.int i) => some (.number (.int i))
  | .number (.float x) => some (Json.ofFloat x)
  | .text s => some (.string s)
  | .oversized => none

/-- The key of a field of a free-form object. With `spelled`, any scalar is a key by
    its spelling. -/
def keyText? (spelled : Bool) : Key → Option String
  | .name s => some s
  | .index _ s | .scalar s => if spelled then some s else none
  | .compound | .broken _ => none

mutual

/-- The free-form value of a document. Of several fields with one key the last
    counts. -/
def toJson? (spelled : Bool) : Document → Option Json
  | .scalar value _ => scalarJson? value
  | .list items => (itemsJson? spelled items).map .array
  | .table fields => (fieldsJson? spelled fields).map fun fs => .object (Dict.ofList fs)
  | .tagged _ | .broken _ => none

/-- The free-form values of items. -/
def itemsJson? (spelled : Bool) : List Document → Option (List Json)
  | [] => some []
  | d :: rest =>
    match d.toJson? spelled, itemsJson? spelled rest with
    | some j, some js => some (j :: js)
    | _, _ => none

/-- The free-form values of fields. -/
def fieldsJson? (spelled : Bool) : List (Key × Document) → Option (List (String × Json))
  | [] => some []
  | (key, d) :: rest =>
    match keyText? spelled key, d.toJson? spelled, fieldsJson? spelled rest with
    | some k, some j, some fs => some ((k, j) :: fs)
    | _, _, _ => none

end

end Document

end ChatRules
