import ChatRules.Condition.Basic
import ChatRules.Document.Fit

/-!
# Conditions as documents

A condition is an object whose field `type` says which; the other fields are
those of its type. A list is read too, with the type as its first item. What
does not fit any type is kept as it stands, and the conditions around it are not
touched by that.

Models how `ReasonSpec` is read and written (`SPEC_FULL.md` §2, §3.4).

Results:

* `ofDocument_scalar`: a single value is no condition, and is kept as it stands.
* `ofDocument_of_kindOfTable?_eq_none`: so is a table without exactly one known type.
* `childOf_eq`: what is negated is the condition of its document, if that is not `null`.
-/

namespace ChatRules

open Document

namespace Test

/-- The fields of a test after its type. -/
def fieldsJson : Test → List (String × Json)
  | .termHit term mode => [("term", .string term), ("mode", .string mode.name)]
  | .anyTerms terms mode | .allTerms terms mode =>
    [("terms", .ofStrings terms), ("mode", .string mode.name)]
  | .phraseHit phrase => [("phrase", .string phrase)]
  | .regexHit pattern flags => [("pattern", .string pattern), ("flags", .string flags)]
  | .countInWindow terms window least mode =>
    [("terms", .ofStrings terms), ("window", .ofNat window), ("min", .ofNat least),
      ("mode", .string mode.name)]
  | .numberCompare op value => [("op", .string op.sign), ("value", .number (.float value))]

/-- The names of the fields of a test, in the order in which a list gives them. -/
def fieldNames : ReasonKind → List String
  | .termHit => ["source", "term", "mode"]
  | .anyTerms | .allTerms => ["source", "terms", "mode"]
  | .phraseHit => ["source", "phrase"]
  | .regexHit => ["source", "pattern", "flags"]
  | .countInWindow => ["source", "terms", "window", "min", "mode"]
  | .numberCompare => ["source", "op", "value"]
  | .and | .or => ["children"]
  | .not => ["child"]
  | .error => []

/-- The mode among fields. -/
def modeField? (fields : List (String × Document)) : Option MatchMode :=
  orElse? (word? MatchMode.words true) .contains "mode" fields

/-- The test of a kind with these fields. -/
def ofFields? (kind : ReasonKind) (fields : List (String × Document)) : Option Test := do
  match kind with
  | .termHit => return .termHit (← need? text? "term" fields) (← modeField? fields)
  | .anyTerms => return .anyTerms (← need? texts? "terms" fields) (← modeField? fields)
  | .allTerms => return .allTerms (← need? texts? "terms" fields) (← modeField? fields)
  | .phraseHit => return .phraseHit (← need? text? "phrase" fields)
  | .regexHit =>
    return .regexHit (← need? text? "pattern" fields) (← orElse? text? "" "flags" fields)
  | .countInWindow =>
    return .countInWindow (← need? texts? "terms" fields) (← orElse? size? 10 "window" fields)
      (← orElse? size? 1 "min" fields) (← modeField? fields)
  | .numberCompare =>
    return .numberCompare (← orElse? (word? CompareOp.words true) .greaterEqual "op" fields)
      (← need? float? "value" fields)
  | .and | .or | .not | .error => none

end Test

namespace Condition

mutual

/-- The condition as an object. -/
def toJson : Condition → Json
  | .check source test =>
    .object (("type", .string test.kind.word) :: ("source", .string source) :: test.fieldsJson)
  | .and children =>
    .object [("type", .string "and"), ("children", .array (childrenJson children))]
  | .or children =>
    .object [("type", .string "or"), ("children", .array (childrenJson children))]
  | .not child => .object (("type", .string "not") :: childField child)
  | .invalid raw => raw

/-- The parts of a condition as values. -/
def childrenJson : List Condition → List Json
  | [] => []
  | c :: rest => c.toJson :: childrenJson rest

/-- The field of what is negated. -/
def childField : Option Condition → List (String × Json)
  | none => []
  | some c => [("child", c.toJson)]

end

/-- The kinds of conditions by their words. -/
def kinds : List (String × ReasonKind) := ReasonKind.words.dropLast

/-- The kind that a type names, as a word or by its number. -/
def kindOfType? : Document → Option ReasonKind
  | .scalar (.text s) _ => Dict.find? s kinds
  | .scalar (.number (.int i)) _ =>
    if 0 ≤ i then (kinds[i.toNat]?).map (·.2) else none
  | _ => none

/-- Whether a key is the type. -/
def isTypeKey : Key → Bool
  | .name s => s == "type"
  | _ => false

/-- The kind of the condition that a table writes, where it has exactly one type. -/
def kindOfTable? (fields : List (Key × Document)) : Option ReasonKind :=
  match fields.filter fun f => isTypeKey f.1 with
  | [(_, d)] => kindOfType? d
  | _ => none

/-- A leaf of a kind with these fields. -/
def checkOf? (kind : ReasonKind) (fields? : Option (List (String × Document))) :
    Option Condition := do
  let fields ← fields?
  return .check (← need? text? "source" fields) (← Test.ofFields? kind fields)

/-- A value that is kept as it stands. -/
def rawOf? (d : Document) : Option Condition := (d.toJson? false).map .invalid

mutual

/-- The condition of a document. What is no condition is kept as it stands; there is
    none only where the document has no free-form value. -/
def ofDocument (d : Document) : Option Condition :=
  match d with
  | .table fields =>
    let node? : Option Condition :=
      match kindOfTable? fields with
      | some .and => (childrenIn none fields).map fun cs => .and (cs.getD [])
      | some .or => (childrenIn none fields).map fun cs => .or (cs.getD [])
      | some .not => (childIn none fields).map fun c => .not (c.getD none)
      | some kind =>
        checkOf? kind
          (fieldsOfTable? (Test.fieldNames kind) (fields.filter fun f => !isTypeKey f.1))
      | none => none
    node?.or (rawOf? d)
  | .list [] => rawOf? d
  | .list [type] =>
    let node? : Option Condition :=
      match kindOfType? type with
      | some .and => some (.and [])
      | some .or => some (.or [])
      | some .not => some (.not none)
      | _ => none
    node?.or (rawOf? d)
  | .list (type :: first :: rest) =>
    let node? : Option Condition :=
      match kindOfType? type with
      | some .and => if rest.isEmpty then (childrenOf first).map .and else none
      | some .or => if rest.isEmpty then (childrenOf first).map .or else none
      | some .not => if rest.isEmpty then (childOf first).map .not else none
      | some kind => checkOf? kind (fieldsOfItems? (Test.fieldNames kind) (first :: rest))
      | none => none
    node?.or (rawOf? d)
  | d => rawOf? d

/-- The conditions of a list. -/
def childrenOf (d : Document) : Option (List Condition) :=
  match d with
  | .list items => ofItems items
  | _ => none

/-- The conditions of the items of a list. -/
def ofItems (items : List Document) : Option (List Condition) :=
  match items with
  | [] => some []
  | d :: rest =>
    match ofDocument d, ofItems rest with
    | some c, some cs => some (c :: cs)
    | _, _ => none

/-- A condition that may be `null`. -/
def childOf (d : Document) : Option (Option Condition) :=
  match d with
  | .scalar .null _ => some none
  | d => (ofDocument d).map some

/-- The parts that a table lists at `children`, a field that it has at most once. -/
def childrenIn (seen : Option (List Condition)) (fields : List (Key × Document)) :
    Option (Option (List Condition)) :=
  match fields with
  | [] => some seen
  | (key, d) :: rest =>
    if isTypeKey key then childrenIn seen rest
    else
      match fieldOfKey? ["children"] key with
      | none => none
      | some none => childrenIn seen rest
      | some (some _) =>
        if seen.isSome then none
        else
          match childrenOf d with
          | none => none
          | some cs => childrenIn (some cs) rest

/-- The part that a table has at `child`, a field that it has at most once. -/
def childIn (seen : Option (Option Condition)) (fields : List (Key × Document)) :
    Option (Option (Option Condition)) :=
  match fields with
  | [] => some seen
  | (key, d) :: rest =>
    if isTypeKey key then childIn seen rest
    else
      match fieldOfKey? ["child"] key with
      | none => none
      | some none => childIn seen rest
      | some (some _) =>
        if seen.isSome then none
        else
          match childOf d with
          | none => none
          | some c => childIn (some c) rest

end

theorem ofDocument_scalar (s : Scalar) (spelling : Option String) :
    ofDocument (.scalar s spelling) = rawOf? (.scalar s spelling) := by
  simp [ofDocument]

theorem ofDocument_of_kindOfTable?_eq_none {fields : List (Key × Document)}
    (kind : kindOfTable? fields = none) : ofDocument (.table fields) = rawOf? (.table fields) := by
  simp [ofDocument, kind]

theorem childOf_eq (d : Document) :
    childOf d = if d.isNull then some none else (ofDocument d).map some := by
  unfold childOf isNull
  split <;> simp_all

/-- The condition of a free-form value. -/
def ofJson (j : Json) : Option Condition := ofDocument (Document.ofJson j)

end Condition

end ChatRules
