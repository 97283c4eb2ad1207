import ChatRules.Context
import ChatRules.Document.Decode

/-!
# Traces

What happened during an evaluation, event by event: reads that failed, rules
that were decided, stages that failed, and writes that were made or blocked.

Models `TraceEvent` (`SPEC_FULL.md` §2, trace).
-/

namespace ChatRules

/-- The stages of a rule. -/
inductive RuleStage where
  | when | commit | effects | write
deriving DecidableEq, Repr

namespace RuleStage

/-- The word for a stage. -/
def word : RuleStage → String
  | .when => "when"
  | .commit => "commit"
  | .effects => "effects"
  | .write => "write"

/-- All stages with their words. -/
def words : List (String × RuleStage) :=
  [.when, .commit, .effects, .write].map fun s => (s.word, s)

end RuleStage

/-- An event of an evaluation. -/
inductive TraceEvent where
  /-- A source that is not registered was read. -/
  | sourceMissing (moduleId sourceId : String)
  /-- A source was read that the module's allowlist leaves out. -/
  | sourceNotAllowed (moduleId sourceId : String)
  /-- A source gave no value. -/
  | sourceError (moduleId sourceId message : String)
  /-- The condition of a rule was decided. -/
  | ruleEvaluated (ruleId : String) (ok : Bool)
  /-- A stage of a rule failed. -/
  | ruleError (ruleId : String) (stage : RuleStage) (message : String)
  /-- A text was written into the context. -/
  | patchApplied (ruleId path : String) (op : WriteOp)
  /-- A write led to a path that is not allowed. -/
  | writeBlocked (ruleId path : String)
deriving DecidableEq, Repr

namespace TraceEvent

/-- The event on a line. -/
def text : TraceEvent → String
  | .sourceMissing m s => "[" ++ m ++ "] source missing: " ++ s
  | .sourceNotAllowed m s => "[" ++ m ++ "] source not allowed: " ++ s
  | .sourceError m s message => "[" ++ m ++ "] source error " ++ s ++ ": " ++ message
  | .ruleEvaluated r ok => "rule " ++ r ++ " -> " ++ (if ok then "PASS" else "FAIL")
  | .ruleError r stage message => "rule " ++ r ++ " " ++ stage.word ++ " error: " ++ message
  | .patchApplied r path op => "rule " ++ r ++ " " ++ op.word ++ " " ++ path
  | .writeBlocked r path => "rule " ++ r ++ " blocked write to " ++ path

/-- The event as an object. -/
def toJson : TraceEvent → Json
  | .sourceMissing m s =>
    .object [("type", .string "sourceMissing"), ("moduleId", .string m), ("sourceId", .string s)]
  | .sourceNotAllowed m s =>
    .object
      [("type", .string "sourceNotAllowed"), ("moduleId", .string m), ("sourceId", .string s)]
  | .sourceError m s message =>
    .object [("type", .string "sourceError"), ("moduleId", .string m), ("sourceId", .string s),
      ("message", .string message)]
  | .ruleEvaluated r ok =>
    .object [("type", .string "ruleEvaluated"), ("ruleId", .string r), ("ok", .bool ok)]
  | .ruleError r stage message =>
    .object [("type", .string "ruleError"), ("ruleId", .string r), ("stage", .string stage.word),
      ("message", .string message)]
  | .patchApplied r path op =>
    .object [("type", .string "patchApplied"), ("ruleId", .string r), ("path", .string path),
      ("op", .string op.word)]
  | .writeBlocked r path =>
    .object [("type", .string "writeBlocked"), ("ruleId", .string r), ("path", .string path)]

/-- The kinds of events, with the names of their fields. -/
inductive Kind where
  | sourceMissing | sourceNotAllowed | sourceError | ruleEvaluated | ruleError | patchApplied
  | writeBlocked
deriving DecidableEq, Repr

/-- The word for a kind of event. -/
def Kind.word : Kind → String
  | .sourceMissing => "sourceMissing"
  | .sourceNotAllowed => "sourceNotAllowed"
  | .sourceError => "sourceError"
  | .ruleEvaluated => "ruleEvaluated"
  | .ruleError => "ruleError"
  | .patchApplied => "patchApplied"
  | .writeBlocked => "writeBlocked"

/-- All kinds of events with their words. -/
def Kind.words : List (String × Kind) :=
  [.sourceMissing, .sourceNotAllowed, .sourceError, .ruleEvaluated, .ruleError, .patchApplied,
    .writeBlocked].map fun k => (k.word, k)

/-- The fields of a kind of event, in order. -/
def Kind.fields : Kind → List String
  | .sourceMissing | .sourceNotAllowed => ["moduleId", "sourceId"]
  | .sourceError => ["moduleId", "sourceId", "message"]
  | .ruleEvaluated => ["ruleId", "ok"]
  | .ruleError => ["ruleId", "stage", "message"]
  | .patchApplied => ["ruleId", "path", "op"]
  | .writeBlocked => ["ruleId", "path"]

/-- What the fields of an event may hold. -/
structure Draft where
  texts : List (String × String) := []
  ok : Option Bool := none
  stage : Option RuleStage := none
  op : Option WriteOp := none

/-- Takes in a field. -/
def Draft.take (name : String) (d : Document) (draft : Draft) : Decoded Draft :=
  if name = "ok" then do return { draft with ok := some (← Document.decodeBool d) }
  else if name = "stage" then do
    return { draft with stage := some (← Document.decodeWord RuleStage.words d) }
  else if name = "op" then do
    return { draft with op := some (← Document.decodeWord WriteOp.words d) }
  else do return { draft with texts := (name, ← Document.decodeText d) :: draft.texts }

/-- The names of the fields that have been taken in. -/
def Draft.taken (draft : Draft) : List String :=
  draft.texts.map (·.1) ++ (if draft.ok.isSome then ["ok"] else []) ++
    (if draft.stage.isSome then ["stage"] else []) ++ (if draft.op.isSome then ["op"] else [])

/-- Takes in the fields of a table that belong to a kind of event. -/
def Draft.takeFields (kind : Kind) : List (Key × Document) → Draft → Decoded Draft
  | [], draft => .ok draft
  | (key, d) :: rest, draft => do
    let name ← Document.keyName key
    if name ∉ kind.fields then takeFields kind rest draft
    else if name ∈ draft.taken then .error (.duplicateField name)
    else takeFields kind rest (← draft.take name d)

/-- Takes in the items of a list as the fields of an event, in order. -/
def Draft.takeItems (kind : Kind) :
    List String → List Document → Draft → Decoded Draft
  | [], [], draft => .ok draft
  | [], rest, _ =>
    let n := kind.fields.length
    .error (.wrongLength (n + rest.length) (toString n ++ " elements in sequence"))
  | name :: _, [], _ =>
    .error (.wrongLength (kind.fields.idxOf name)
      ("struct variant TraceEvent::" ++ kind.word.capitalize ++ " with " ++
        toString kind.fields.length ++ " elements"))
  | name :: names, d :: rest, draft => do takeItems kind names rest (← draft.take name d)

/-- The event of a draft whose fields are all there. -/
def Draft.finish (kind : Kind) (draft : Draft) : Decoded TraceEvent :=
  let text (name : String) : Decoded String :=
    match Dict.find? name draft.texts with
    | some s => .ok s
    | none => .error (.missingField name)
  let need {α : Type} (name : String) : Option α → Decoded α
    | some a => .ok a
    | none => .error (.missingField name)
  match kind with
  | .sourceMissing => do return .sourceMissing (← text "moduleId") (← text "sourceId")
  | .sourceNotAllowed => do return .sourceNotAllowed (← text "moduleId") (← text "sourceId")
  | .sourceError => do
    return .sourceError (← text "moduleId") (← text "sourceId") (← text "message")
  | .ruleEvaluated => do return .ruleEvaluated (← text "ruleId") (← need "ok" draft.ok)
  | .ruleError => do
    return .ruleError (← text "ruleId") (← need "stage" draft.stage) (← text "message")
  | .patchApplied => do
    return .patchApplied (← text "ruleId") (← text "path") (← need "op" draft.op)
  | .writeBlocked => do return .writeBlocked (← text "ruleId") (← text "path")

/-- The kind of event that a tag names. -/
def decodeKind : Document → Decoded Kind
  | .scalar (.text s) _ =>
    match Dict.find? s Kind.words with
    | some kind => .ok kind
    | none => .error (.unknownWord s (Kind.words.map (·.1)))
  | d => .error (d.mismatch "variant identifier")

/-- The tag of an event among its fields: the first one counts, a second one fails. -/
def findTag : List (Key × Document) → Option Kind → Decoded (Option Kind)
  | [], tag => .ok tag
  | (key, d) :: rest, tag => do
    let name ← Document.keyName key
    if name = "type" then
      match tag with
      | some _ => .error (.duplicateField "type")
      | none => findTag rest (some (← decodeKind d))
    else findTag rest tag

/-- The event of a document. -/
def decode : Document → Decoded TraceEvent
  | .table fields => do
    match ← findTag fields none with
    | none => .error (.missingField "type")
    | some kind =>
      let draft ← Draft.takeFields kind fields {}
      draft.finish kind
  | .list [] => .error (.missingField "type")
  | .list (tag :: items) => do
    let kind ← decodeKind tag
    let draft ← Draft.takeItems kind kind.fields items {}
    draft.finish kind
  | d => .error (d.mismatch "internally tagged enum TraceEvent")

/-- The event of a free-form value. -/
def ofJson (j : Json) : Decoded TraceEvent := decode (Document.ofJson j)

end TraceEvent

end ChatRules
