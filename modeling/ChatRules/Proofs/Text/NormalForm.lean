import ChatRules.Proofs.Text.LowerCase
import ChatRules.Proofs.Text.Spacing
import ChatRules.Source.Builtin

/-!
# The normal form of texts

Normalizing takes out whatever is no letter, number or apostrophe, puts the rest into lower case,
and leaves single spaces between the words. What comes out is in normal form, and normalized
again it stays as it is, with one exception. The capital dotted I is a letter, and its lower case
is an i and a combining dot, which is none. As the letters are chosen before they are put into
lower case, this dot stays, and the next time it goes.

Results:

* `isSpaced_normalize`: the spaces of a normalized text are single ones between words.
* `isNormalChar_of_mem_normalizeChars`, `dot_mem_normalizeChars`: the characters of a normalized
  text.
* `isNormal_normalize_iff`, `normalize_normalize_iff`: a text without a dotted I, and only such a
  text, is normalized to a normal form, and only its normalized text stays.
* `normalize_normal`: when the normalized sources give what stays when it is normalized again.
* `normalize_keeps_dot`: what comes out of a dotted I.
-/

namespace ChatRules

namespace Text

theorem isSpaced_normalize (text : String) : IsSpaced (normalize text) := isSpaced_collapse _

/-! ## Characters -/

/-- Whether a character can stand in a text in normal form. -/
def isNormalChar (c : Char) : Bool := isAlphanumeric c || c == '\'' || c == ' '

/-- Whether a text is in normal form: letters, numbers and apostrophes, and single spaces between
    words. -/
structure IsNormal (text : String) : Prop extends IsSpaced text where
  chars : ∀ c ∈ text.toList, isNormalChar c = true

theorem isNormalChar_keepWordChar (c : Char) : isNormalChar (keepWordChar c) = true := by
  unfold keepWordChar
  split
  · rename_i kept
    rw [isNormalChar, kept, Bool.true_or]
  · decide

theorem keepWordChar_of_isNormalChar {c : Char} (h : isNormalChar c = true) :
    keepWordChar c = c := by
  unfold keepWordChar
  split
  · rfl
  · rename_i other
    rw [isNormalChar, Bool.eq_false_iff.2 other, Bool.false_or] at h
    exact (beq_iff_eq.1 h).symm

/-- The lower case of a character in normal form is in normal form, the dotted I apart. -/
theorem isNormalChar_of_mem_lowerAt {before after : List Char} {c d : Char}
    (normal : isNormalChar c = true) (dotted : c ≠ '\u0130') (mem : d ∈ lowerAt before c after) :
    isNormalChar d = true := by
  rcases cases_of_mem_lowerAt mem with ⟨-, rfl | rfl⟩ | ⟨isDotted, -⟩ | ⟨-, -, rfl⟩
  · decide +kernel
  · decide +kernel
  · exact absurd isDotted dotted
  · exact isAlphanumeric_or_shift (by decide +kernel) normal

/-! ## Normalized texts -/

variable {text : List Char} {c : Char}

theorem isLower_of_mem_normalizeChars (mem : c ∈ normalizeChars text) : IsLower c := by
  rcases mem_collapseChars mem with rfl | lowered
  · decide +kernel
  · exact isLower_of_mem_lowerFrom lowered

theorem dotted_not_mem_normalizeChars : '\u0130' ∉ normalizeChars text := fun mem =>
  (isLower_of_mem_normalizeChars mem).2.1 rfl

theorem isNormalChar_of_mem_normalizeChars (undotted : '\u0130' ∉ text)
    (mem : c ∈ normalizeChars text) : isNormalChar c = true := by
  rcases mem_collapseChars mem with rfl | lowered
  · decide
  · obtain ⟨kept, inKept, before, after, found⟩ := exists_of_mem_lowerFrom lowered
    obtain ⟨d, inText, rfl⟩ := List.mem_map.1 inKept
    refine isNormalChar_of_mem_lowerAt (isNormalChar_keepWordChar d) ?_ found
    unfold keepWordChar
    split
    · rintro rfl
      exact undotted inText
    · decide

/-- The dotted I leaves a dot behind. -/
theorem dot_mem_normalizeChars (dotted : '\u0130' ∈ text) : '\u0307' ∈ normalizeChars text := by
  have kept : keepWordChar '\u0130' = '\u0130' := by decide +kernel
  have inKept : '\u0130' ∈ text.map keepWordChar := List.mem_map.2 ⟨_, dotted, kept⟩
  have shown : isBlank '\u0307' = false := by decide
  refine (mem_collapseChars_iff shown).2 (mem_lowerFrom_of_forall inKept fun before after => ?_)
  rw [lowerAt, if_neg (by decide), if_pos rfl]
  decide

/-- A text of characters in normal form and in lower case loses nothing but blanks. -/
theorem normalizeChars_eq_collapseChars (normal : ∀ c ∈ text, isNormalChar c = true)
    (lower : ∀ c ∈ text, IsLower c) : normalizeChars text = collapseChars text := by
  have kept : text.map keepWordChar = text := by
    rw [List.map_congr_left fun c mem => keepWordChar_of_isNormalChar (normal c mem)]
    exact List.map_id' text
  rw [normalizeChars, kept, lowerChars_of_isLower lower]

theorem normalizeChars_normalizeChars_iff :
    normalizeChars (normalizeChars text) = normalizeChars text ↔ '\u0130' ∉ text := by
  constructor
  · intro same dotted
    -- The dot is no normal character, so it is gone after the second time.
    have dot := dot_mem_normalizeChars dotted
    rw [← same] at dot
    have normal := isNormalChar_of_mem_normalizeChars dotted_not_mem_normalizeChars dot
    exact absurd normal (by decide +kernel)
  · intro undotted
    rw [normalizeChars_eq_collapseChars
      (fun c mem => isNormalChar_of_mem_normalizeChars undotted mem)
      (fun c mem => isLower_of_mem_normalizeChars mem)]
    exact collapseChars_collapseChars _

theorem toList_normalize_eq (text : String) :
    (normalize text).toList = normalizeChars text.toList := String.toList_ofList

theorem isNormal_normalize_iff (text : String) :
    IsNormal (normalize text) ↔ '\u0130' ∉ text.toList := by
  constructor
  · intro normal dotted
    have dot := dot_mem_normalizeChars dotted
    rw [← toList_normalize_eq] at dot
    exact absurd (normal.chars _ dot) (by decide +kernel)
  · intro undotted
    refine ⟨isSpaced_normalize text, fun c mem => ?_⟩
    rw [toList_normalize_eq] at mem
    exact isNormalChar_of_mem_normalizeChars undotted mem

theorem normalize_normalize_iff (text : String) :
    normalize (normalize text) = normalize text ↔ '\u0130' ∉ text.toList := by
  rw [← String.toList_inj, toList_normalize_eq, toList_normalize_eq,
    normalizeChars_normalizeChars_iff]

theorem undotted_normalize (text : String) : '\u0130' ∉ (normalize text).toList := by
  rw [toList_normalize_eq]
  exact dotted_not_mem_normalizeChars

end Text

/-! ## Sources -/

/-- **When a normalized text is in normal form, and stays.** The spaces of every normalized text
    are single ones between words. If there is no capital dotted I in a text, and only then, its
    normalized text consists of letters, numbers, apostrophes and these spaces, and only then it
    stays when it is normalized again. A text that is normalized twice is in normal form whatever
    it was, and stays. So what the normalized sources give, the last message and the history,
    stays when it is normalized again unless there is a dotted I in the messages. -/
theorem normalize_normal (text : String) (moduleId : String) (view : View) :
    Text.IsSpaced (Text.normalize text) ∧
    (Text.IsNormal (Text.normalize text) ↔ '\u0130' ∉ text.toList) ∧
    (Text.normalize (Text.normalize text) = Text.normalize text ↔ '\u0130' ∉ text.toList) ∧
    Text.IsNormal (Text.normalize (Text.normalize text)) ∧
    Text.normalize (Text.normalize (Text.normalize text)) =
      Text.normalize (Text.normalize text) ∧
    (∃ given, Registry.standard.resolve moduleId "lastUser.norm" view = .ok (.text given) ∧
      (Text.normalize given = given ↔
        '\u0130' ∉ (view.context.lastMessage?.getD "").toList)) ∧
    ∃ given, Registry.standard.resolve moduleId "history.norm" view = .ok (.list given) ∧
      (given.map Text.normalize = given ↔
        ∀ message ∈ view.context.chat.messages, '\u0130' ∉ message.toList) := by
  refine ⟨Text.isSpaced_normalize text, Text.isNormal_normalize_iff text,
    Text.normalize_normalize_iff text,
    (Text.isNormal_normalize_iff _).2 (Text.undotted_normalize text),
    (Text.normalize_normalize_iff _).2 (Text.undotted_normalize text),
    ⟨_, rfl, Text.normalize_normalize_iff _⟩,
    ⟨view.context.chat.messages.map Text.normalize, rfl, ?_⟩⟩
  rw [List.map_map, List.map_inj_left]
  exact forall₂_congr fun message _ => Text.normalize_normalize_iff message

/-- The dotted I leaves a dot that is no letter, number or apostrophe, and that is gone after
    the text is normalized again. -/
theorem normalize_keeps_dot :
    Text.normalize "\u0130" = "i\u0307" ∧ Text.isNormalChar '\u0307' = false ∧
      Text.normalize (Text.normalize "\u0130") = "i" := by
  decide +kernel

end ChatRules
