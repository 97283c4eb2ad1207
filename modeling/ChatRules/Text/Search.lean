import ChatRules.Text.Words

/-!
# Finding texts in texts

Where a text stands in another one, as a distance in bytes of UTF-8.

Results:

* `holds_iff`: the search succeeds exactly on the texts that hold the needle.
-/

namespace ChatRules.Text

/-- The size of a list of characters in UTF-8. -/
def byteSize : List Char → Nat
  | [] => 0
  | c :: rest => c.utf8Size + byteSize rest

/-- The bytes before the first occurrence of `needle`. -/
def findChars (needle : List Char) : List Char → Option Nat
  | [] => if needle.isEmpty then some 0 else none
  | c :: rest =>
    if needle.isPrefixOf (c :: rest) then some 0
    else (findChars needle rest).map (c.utf8Size + ·)

/-- The bytes of `text` before the first occurrence of `needle`. -/
def find? (text needle : String) : Option Nat := findChars needle.toList text.toList

/-- Whether `needle` stands somewhere in the text. -/
def holds (text needle : String) : Bool := (find? text needle).isSome

theorem isSome_findChars_iff {needle text : List Char} :
    (findChars needle text).isSome ↔ needle <:+: text := by
  induction text with
  | nil => cases needle <;> simp [findChars]
  | cons c rest ih =>
    unfold findChars
    split
    · rename_i h
      simpa using (List.isPrefixOf_iff_prefix.1 h).isInfix
    · rename_i h
      rw [Option.isSome_map, ih, List.infix_cons_iff]
      simp_all [List.isPrefixOf_iff_prefix]

theorem holds_iff {text needle : String} : holds text needle ↔ needle.toList <:+: text.toList :=
  isSome_findChars_iff

end ChatRules.Text
