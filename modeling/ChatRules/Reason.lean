import ChatRules.Document.Decode

/-!
# Reasons

What a condition came to, and why: whether it passed, the kind of condition, a
dictionary of details, and the reasons of the conditions below it.

Models `Reason` with `render`, and `and`, `or` and `not` (`SPEC_FULL.md` §2.2).
-/

namespace ChatRules

/-- The kinds of reasons: one for every kind of condition, and one for conditions that
    could not be evaluated. -/
inductive ReasonKind where
  | termHit | anyTerms | allTerms | phraseHit | regexHit | countInWindow | numberCompare
  | and | or | not | error
deriving DecidableEq, Repr

namespace ReasonKind

/-- The word for a kind. -/
def word : ReasonKind → String
  | .termHit => "termHit"
  | .anyTerms => "anyTerms"
  | .allTerms => "allTerms"
  | .phraseHit => "phraseHit"
  | .regexHit => "regexHit"
  | .countInWindow => "countInWindow"
  | .numberCompare => "numberCompare"
  | .and => "and"
  | .or => "or"
  | .not => "not"
  | .error => "error"

/-- All kinds with their words. -/
def words : List (String × ReasonKind) :=
  [.termHit, .anyTerms, .allTerms, .phraseHit, .regexHit, .countInWindow, .numberCompare,
    .and, .or, .not, .error].map fun k => (k.word, k)

end ReasonKind

/-- The outcome of a condition with its explanation. -/
inductive Reason where
  | mk (kind : ReasonKind) (ok : Bool) (details : List (String × Json))
    (children : List Reason) (child : Option Reason)

instance : Inhabited Reason := ⟨.mk .error false [] [] none⟩

namespace Reason

/-- The kind of condition. -/
def kind : Reason → ReasonKind
  | .mk kind _ _ _ _ => kind

/-- Whether the condition passed. -/
def ok : Reason → Bool
  | .mk _ ok _ _ _ => ok

/-- The details by key. -/
def details : Reason → List (String × Json)
  | .mk _ _ details _ _ => details

/-- The reasons of the parts of a conjunction or disjunction. -/
def children : Reason → List Reason
  | .mk _ _ _ children _ => children

/-- The reason of what is negated. -/
def child : Reason → Option Reason
  | .mk _ _ _ _ child => child

/-- A reason without parts, its details in any order. -/
def leaf (kind : ReasonKind) (ok : Bool) (details : List (String × Json)) : Reason :=
  .mk kind ok (Dict.ofList details) [] none

/-- The reason with one more detail. -/
def withDetail (key : String) (value : Json) : Reason → Reason
  | .mk kind ok details children child =>
    .mk kind ok (Dict.insert key value details) children child

/-- The failed reason of a condition that could not be evaluated. -/
def error (message : String) : Reason := leaf .error false [("error", .string message)]

/-- Whether the condition could not be evaluated. -/
def isError (r : Reason) : Bool := r.kind == .error

/-- The message of a reason that has one. -/
def errorMessage? (r : Reason) : Option String :=
  (Dict.find? "error" r.details).bind Json.string?

/-- A reason on its line: a mark, the kind and the details. -/
def line (r : Reason) : String :=
  (if r.ok then "✓ " else "✗ ") ++ r.kind.word ++
    (if r.details.isEmpty then "" else " " ++ (Json.object r.details).compact)

mutual

/-- The lines of a reason and of its parts, two blanks deeper each level. -/
def linesAt (depth : Nat) : Reason → List String
  | .mk kind ok details children child =>
    ("".pushn ' ' (2 * depth) ++ (mk kind ok details children child).line) ::
      (childrenLines (depth + 1) children ++ childLines (depth + 1) child)

/-- The lines of several reasons. -/
def childrenLines (depth : Nat) : List Reason → List String
  | [] => []
  | r :: rest => linesAt depth r ++ childrenLines depth rest

/-- The lines of a reason that may be absent. -/
def childLines (depth : Nat) : Option Reason → List String
  | none => []
  | some r => linesAt depth r

end

/-- The lines of a reason and of its parts. -/
def lines (r : Reason) : List String := linesAt 0 r

/-- The reason as a text, one line for every part. -/
def render (r : Reason) : String := "\n".intercalate r.lines

mutual

/-- The reason as an object. -/
def toJson : Reason → Json
  | .mk kind ok details children child =>
    .object ([("kind", .string kind.word), ("ok", .bool ok), ("meta", .object details)] ++
      (if children.isEmpty then [] else [("children", .array (childrenJson children))]) ++
      childField child)

/-- The reasons of the parts as values. -/
def childrenJson : List Reason → List Json
  | [] => []
  | r :: rest => r.toJson :: childrenJson rest

/-- The field of what is negated. -/
def childField : Option Reason → List (String × Json)
  | none => []
  | some r => [("child", r.toJson)]

end

/-- A reason while it is decoded. -/
structure Draft where
  kind : Option ReasonKind := none
  ok : Option Bool := none
  details : Option (List (String × Json)) := none
  children : Option (List Reason) := none
  child : Option (Option Reason) := none

/-- The fields that the draft has. -/
def Draft.taken (draft : Draft) : List String :=
  (if draft.kind.isSome then ["kind"] else []) ++ (if draft.ok.isSome then ["ok"] else []) ++
    (if draft.details.isSome then ["meta"] else []) ++
    (if draft.children.isSome then ["children"] else []) ++
    (if draft.child.isSome then ["child"] else [])

/-- The reason of a draft that has its two necessary parts. -/
def Draft.finish (draft : Draft) : Decoded Reason :=
  match draft.kind, draft.ok with
  | none, _ => .error (.missingField "kind")
  | _, none => .error (.missingField "ok")
  | some kind, some ok =>
    .ok (.mk kind ok (draft.details.getD []) (draft.children.getD []) (draft.child.getD none))

/-- The dictionary of details. -/
def decodeDetails : Document → Decoded (List (String × Json)) :=
  Document.decodeDict (Document.decodeJson Document.depthLimit false)

mutual

/-- The reason of a value. -/
def decode (d : Document) : Decoded Reason :=
  match d with
  | .table fields => do (← takeFields fields {}).finish
  | .list [] => .error (.wrongLength 0 "struct Reason with 5 elements")
  | .list [kind] => do
    let _ ← Document.decodeWord ReasonKind.words kind
    .error (.wrongLength 1 "struct Reason with 5 elements")
  | .list (kind :: ok :: rest) => do
    let kind ← Document.decodeWord ReasonKind.words kind
    let ok ← Document.decodeBool ok
    match rest with
    | [] => return .mk kind ok [] [] none
    | [details] => return .mk kind ok (← decodeDetails details) [] none
    | [details, children] =>
      return .mk kind ok (← decodeDetails details) (← decodeChildren children) none
    | details :: children :: child :: excess =>
      let details ← decodeDetails details
      let children ← decodeChildren children
      let child ← if child.isNull then pure none else some <$> decode child
      if excess.isEmpty then return .mk kind ok details children child
      else .error (Document.valueExcess (5 + excess.length) excess)
  | d => .error (d.mismatch "struct Reason")

/-- The reasons of a list. -/
def decodeChildren (d : Document) : Decoded (List Reason) :=
  match d with
  | .list items => decodeItems items
  | d => .error (d.mismatch "a sequence")

/-- The reasons of the items of a list. -/
def decodeItems (items : List Document) : Decoded (List Reason) :=
  match items with
  | [] => .ok []
  | d :: rest => do
    let r ← decode d
    let rs ← decodeItems rest
    return r :: rs

/-- Takes in the fields of a reason in order. -/
def takeFields (fields : List (Key × Document)) (draft : Draft) : Decoded Draft :=
  match fields with
  | [] => .ok draft
  | (key, d) :: rest => do
    let name ← Document.keyName key
    if name ∈ draft.taken then .error (.duplicateField name)
    else if name = "kind" then
      let kind ← Document.decodeWord ReasonKind.words d
      takeFields rest { draft with kind }
    else if name = "ok" then
      let ok ← Document.decodeBool d
      takeFields rest { draft with ok }
    else if name = "meta" then
      let details ← decodeDetails d
      takeFields rest { draft with details }
    else if name = "children" then
      let children ← decodeChildren d
      takeFields rest { draft with children }
    else if name = "child" then
      let child ← if d.isNull then pure none else some <$> decode d
      takeFields rest { draft with child := some child }
    else takeFields rest draft

end

/-- The reason of a free-form value. -/
def ofJson (j : Json) : Decoded Reason := decode (Document.ofJson j)

end Reason

end ChatRules
