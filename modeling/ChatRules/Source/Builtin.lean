import ChatRules.Source.Registry

/-!
# The standard sources

The sources and normalizers that every registry begins with: the last message
and the history, as they are and normalized, the texts of the character, and the
number of messages.

Models `with_defaults` (`SPEC_FULL.md` §2.1.1).
-/

namespace ChatRules

/-- The standard normalizers. -/
def standardNormalizers : List (String × (String → String)) :=
  [("lower", Text.lower), ("trim", Text.trim), ("collapse", Text.collapse),
   ("norm", Text.normalize)]

/-- The source of a text field of the character. -/
def TextField.source (field : TextField) : Source where
  id := field.path
  get view := .ok (.text (view.context.character.text field))

/-- The latest message, or no text where there is none. -/
def View.lastMessage (view : View) : SourceValue :=
  .text (view.context.lastMessage?.getD "")

/-- The standard sources. -/
def standardSources : List Source :=
  [{ id := "lastUser.raw", label := some "Last message", get := fun v => .ok v.lastMessage },
   { id := "lastUser.norm", label := some "Last message (normalized)", normalizer := some "norm",
     get := fun v => .ok v.lastMessage },
   { id := "history.raw", kind := .list, label := some "Message history",
     get := fun v => .ok (.list v.context.chat.messages) },
   { id := "history.norm", kind := .list, label := some "Message history (normalized)",
     normalizer := some "norm", get := fun v => .ok (.list v.context.chat.messages) },
   TextField.source .personality,
   TextField.source .scenario,
   TextField.source .exampleDialogs,
   { id := "chat.messageCount", kind := .number, label := some "Public message count",
     get := fun v => .ok (.number (Float.ofNat v.context.chat.messageCount)) }]

/-- The registry of the standard sources and normalizers. -/
def Registry.standard : Registry where
  sources := Dict.ofList (standardSources.map fun s => (s.id, s))
  normalizers := Dict.ofList standardNormalizers

end ChatRules
