import ChatRules.Error

/-!
# Stored texts

What is found under the name of a file.
-/

namespace ChatRules

/-- What is found under a name. -/
inductive Stored where
  | absent
  | unreadable (message : String)
  | text (content : String)
deriving DecidableEq, Repr

namespace Stored

/-- The sentence for a name under which nothing is found. -/
def absentMessage : String := "No such file or directory (os error 2)"

/-- The sentence for bytes that are no text. -/
def notTextMessage : String := "stream did not contain valid UTF-8"

/-- What is found where there are bytes. -/
def ofBytes (bytes : ByteArray) : Stored :=
  match String.fromUTF8? bytes with
  | some s => .text s
  | none => .unreadable notTextMessage

/-- The text under a name, or why there is none. -/
def content : Stored → Except Error String
  | .absent => .error (.file absentMessage)
  | .unreadable message => .error (.file message)
  | .text s => .ok s

end Stored

end ChatRules
