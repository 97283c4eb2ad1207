import ChatRules.Json.Print
import ChatRules.Path
import ChatRules.Text.Quoted

/-!
# Contexts

The state of a chat that rules and blocks work on: the fields of the character,
its memory, the messages so far, and free-form slots. Text is read from a
dot-path and written to one, either in place of the text there or after it.

Three paths name the text fields of the character, the paths below
`character.memory` name its memory by key, and any other path leads into the
free-form slots, segment by segment. A write works on the context in place and
may fail on its way.

Models `Context` with `read_path`, `write_path` and `append_text` (`SPEC_FULL.md` §2,
context).

Results:

* `appendText_nil`: appending no text changes nothing.
-/

namespace ChatRules

/-- How a write combines with the text that is there. -/
inductive WriteOp where
  | set
  | append
deriving DecidableEq, Repr

namespace WriteOp

/-- The words for the two ways to write. -/
def words : List (String × WriteOp) := [("set", .set), ("append", .append)]

/-- The word for a way to write. -/
def word : WriteOp → String
  | .set => "set"
  | .append => "append"

end WriteOp

/-- Two texts with a blank line between them. A text that is empty leaves no trace. -/
def appendText (base value : String) : String :=
  if value.isEmpty then base
  else if base.isEmpty then value
  else base ++ "\n\n" ++ value

/-- The text after a write over `base`. -/
def WriteOp.combine : WriteOp → String → String → String
  | .set, _, value => value
  | .append, base, value => appendText base value

/-- A value as running text: a text without its quotes, and nothing for `null`. -/
def Json.plainText : Json → String
  | .string s => s
  | .null => ""
  | j => j.compact

/-- The text fields of a character. -/
inductive TextField where
  | personality
  | scenario
  | exampleDialogs
deriving DecidableEq, Repr

/-- The path of a text field. -/
def TextField.path : TextField → String
  | .personality => "character.personality"
  | .scenario => "character.scenario"
  | .exampleDialogs => "character.example_dialogs"

/-- The text field at a path. -/
def TextField.ofPath? (path : String) : Option TextField :=
  if path = "character.personality" then some .personality
  else if path = "character.scenario" then some .scenario
  else if path = "character.example_dialogs" then some .exampleDialogs
  else none

/-- A character: three texts, and a memory of values by key. -/
structure Character where
  personality : String := ""
  scenario : String := ""
  exampleDialogs : String := ""
  memory : List (String × Json) := []
deriving DecidableEq

/-- The text of a field. -/
def Character.text (c : Character) : TextField → String
  | .personality => c.personality
  | .scenario => c.scenario
  | .exampleDialogs => c.exampleDialogs

/-- The character with another text in a field. -/
def Character.setText (c : Character) (field : TextField) (text : String) : Character :=
  match field with
  | .personality => { c with personality := text }
  | .scenario => { c with scenario := text }
  | .exampleDialogs => { c with exampleDialogs := text }

theorem TextField.ofPath?_eq_some_iff {path : String} {field : TextField} :
    ofPath? path = some field ↔ path = field.path := by
  unfold ofPath?
  constructor
  · split
    · rintro ⟨⟩
      assumption
    · split
      · rintro ⟨⟩
        assumption
      · split
        · rintro ⟨⟩
          assumption
        · rintro ⟨⟩
  · rintro rfl
    cases field <;> decide

@[simp] theorem TextField.ofPath?_path (field : TextField) : ofPath? field.path = some field :=
  ofPath?_eq_some_iff.2 rfl

@[simp] theorem Character.text_setText_self (c : Character) (field : TextField)
    (text : String) : (c.setText field text).text field = text := by
  cases field <;> rfl

theorem Character.text_setText_of_ne (c : Character) {field other : TextField}
    (ne : other ≠ field) (text : String) : (c.setText field text).text other = c.text other := by
  cases field <;> cases other <;> first | rfl | exact absurd rfl ne

@[simp] theorem Character.setText_text (c : Character) (field : TextField) :
    c.setText field (c.text field) = c := by
  cases field <;> rfl

@[simp] theorem Character.memory_setText (c : Character) (field : TextField) (text : String) :
    (c.setText field text).memory = c.memory := by
  cases field <;> rfl

/-- The conversation: its last messages, the oldest first, and how many there were. -/
structure Chat where
  messages : List String := []
  messageCount : Nat := 0
deriving DecidableEq

/-- What rules and blocks work on. -/
structure Context where
  character : Character := {}
  chat : Chat := {}
  extra : List (String × Json) := []
deriving DecidableEq

/-- Why a write fails. -/
inductive WriteError where
  | malformedPath (path : String)
  | emptyMemoryKey
  | notWritable (path : String)
  | notAnObject (segment path : String)
  | addressesObject (path : String)
deriving DecidableEq, Repr

/-- The sentence for a failed write. -/
def WriteError.message : WriteError → String
  | .malformedPath path => "malformed path: " ++ Text.quoted path
  | .emptyMemoryKey => "empty memory key"
  | .notWritable path => "path is not writable: " ++ path
  | .notAnObject segment path => "segment '" ++ segment ++ "' of " ++ path ++ " is not an object"
  | .addressesObject path => path ++ " addresses an object"

/-- What a write in place comes to: what it leaves behind, and the error that ended it if
    it failed. -/
inductive Written (α : Type) where
  | done (left : α)
  | failed (e : WriteError) (left : α)
deriving DecidableEq

namespace Written

variable {α β : Type}

/-- What a write leaves behind, whether it succeeds or not. -/
def left : Written α → α
  | .done left => left
  | .failed _ left => left

/-- The write as a part of a larger value. -/
def map (f : α → β) : Written α → Written β
  | .done left => .done (f left)
  | .failed e left => .failed e (f left)

/-- What a write that succeeds leaves behind. -/
def toExcept : Written α → Except WriteError α
  | .done left => .ok left
  | .failed e _ => .error e

theorem map_eq_done_iff {f : α → β} {x : Written α} {b : β} :
    x.map f = .done b ↔ ∃ a, x = .done a ∧ f a = b := by
  cases x <;> simp [map]

theorem map_eq_failed_iff {f : α → β} {x : Written α} {e : WriteError} {b : β} :
    x.map f = .failed e b ↔ ∃ a, x = .failed e a ∧ f a = b := by
  cases x with
  | done a => simp [map]
  | failed d a => constructor <;> simp_all [map]

theorem toExcept_eq_ok_iff {x : Written α} {a : α} : x.toExcept = .ok a ↔ x = .done a := by
  cases x <;> simp [toExcept]

end Written

namespace Context

/-- The context of a conversation that has just these messages. -/
def ofMessages (messages : List String) : Context :=
  { chat := { messages, messageCount := messages.length } }

/-- The latest message. -/
def lastMessage? (ctx : Context) : Option String := ctx.chat.messages.getLast?

/-- The key of a path into the memory. -/
def memoryKey? (path : String) : Option String := Path.after? "character.memory." path

/-- The value that a list of segments leads to. -/
def descend : List String → Json → Option Json
  | [], j => some j
  | segment :: rest, j => (j.field? segment).bind (descend rest)

/-- The text at a path. -/
def read? (ctx : Context) (path : String) : Option String :=
  match TextField.ofPath? path with
  | some field => some (ctx.character.text field)
  | none =>
    match memoryKey? path with
    | some key => (Dict.find? key ctx.character.memory).map Json.plainText
    | none => (descend (Path.segments path) (.object ctx.extra)).map Json.plainText

/-- Writes at the end of a list of segments, in an object that is created where it is
    missing. Objects are changed one by one on the way down, also if the write fails
    further below. `path` is the whole path, for the errors. -/
def writeFields (op : WriteOp) (value path : String) :
    List String → List (String × Json) → Written (List (String × Json))
  | [], fields => .failed (.malformedPath path) fields
  | [leaf], fields =>
    match Dict.find? leaf fields with
    | some (.object _) => .failed (.addressesObject path) fields
    | some j => .done (Dict.insert leaf (.string (op.combine j.plainText value)) fields)
    | none => .done (Dict.insert leaf (.string (op.combine "" value)) fields)
  | segment :: rest, fields =>
    match Dict.find? segment fields with
    | some (.object inner) =>
      (writeFields op value path rest inner).map fun inner =>
        Dict.replace segment (.object inner) fields
    | some _ => .failed (.notAnObject segment path) fields
    | none =>
      (writeFields op value path rest []).map fun inner =>
        Dict.insert segment (.object inner) fields

/-- Writes into the free-form slots. -/
def writeExtra (ctx : Context) (path : String) (op : WriteOp) (value : String) :
    Written Context :=
  match Path.segments? path with
  | none => .failed (.malformedPath path) ctx
  | some segments =>
    (writeFields op value path segments ctx.extra).map fun extra => { ctx with extra }

/-- Whether a path leads to a part of the character or of the chat that has no
    writable text. -/
def isReserved (path : String) : Bool :=
  Path.startsWith path "character." || Path.startsWith path "chat." || path == "chat"

/-- The context after a write to a text field of the character. -/
def writeField (ctx : Context) (field : TextField) (op : WriteOp) (value : String) : Context :=
  let text := op.combine (ctx.character.text field) value
  { ctx with character := ctx.character.setText field text }

/-- The context after a write to a key of the memory. -/
def writeMemory (ctx : Context) (key : String) (op : WriteOp) (value : String) : Context :=
  let memory := ctx.character.memory
  let base := ((Dict.find? key memory).map Json.plainText).getD ""
  let memory := Dict.insert key (.string (op.combine base value)) memory
  { ctx with character := { ctx.character with memory } }

/-- Writes a text at a path, in place. -/
def writeInPlace (ctx : Context) (path : String) (op : WriteOp) (value : String) :
    Written Context :=
  match TextField.ofPath? path with
  | some field => .done (ctx.writeField field op value)
  | none =>
    match memoryKey? path with
    | some key =>
      if key.isEmpty then .failed .emptyMemoryKey ctx else .done (ctx.writeMemory key op value)
    | none =>
      if isReserved path then .failed (.notWritable path) ctx else ctx.writeExtra path op value

/-- The context after a write that succeeds. -/
def write (ctx : Context) (path : String) (op : WriteOp) (value : String) :
    Except WriteError Context :=
  (ctx.writeInPlace path op value).toExcept

end Context

theorem Context.memoryKey?_eq_some_iff {path key : String} :
    memoryKey? path = some key ↔ path = "character.memory." ++ key :=
  Path.after?_eq_some_iff

@[simp] theorem Context.memoryKey?_append (key : String) :
    memoryKey? ("character.memory." ++ key) = some key :=
  memoryKey?_eq_some_iff.2 rfl

/-- A write to a field of the character succeeds. -/
theorem Context.writeInPlace_path (ctx : Context) (field : TextField) (op : WriteOp)
    (value : String) :
    ctx.writeInPlace field.path op value = .done (ctx.writeField field op value) := by
  simp [writeInPlace]

theorem appendText_nil (base : String) : appendText base "" = base := by
  simp [appendText]

end ChatRules
