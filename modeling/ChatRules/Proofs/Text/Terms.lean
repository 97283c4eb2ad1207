import ChatRules.Proofs.Text.LowerCase
import ChatRules.Proofs.Text.Sigma

/-!
# Terms and tokens

A term is compared in lower case and without the blanks around it. Where it may stand anywhere,
it is looked for in the lower case of a text. Where it has to be a token, it is compared with the
stretches of token characters in the text, each of them put into lower case by itself. So a term
is a token of some text exactly if such a stretch can have its lower case. Most stretches consist
of token characters then as before; only the lower case of the capital dotted I has a dot above,
which is no token character.

Results:

* `hasTerm_contains_iff`: when a term is found anywhere in a text.
* `hasTerm_word_iff`: when a term is found among the tokens of a text.
* `exists_hasTerm_word_iff`: which terms are a token of some text.
-/

namespace ChatRules

namespace Text

/-! ## What tokens spell -/

/-- The spellings of tokens in lower case: token characters, and i with the dot above that is
    the lower case of the capital dotted I. -/
inductive SpellsToken : List Char → Prop
  | nil : SpellsToken []
  | char {c : Char} {rest : List Char} (kept : isTokenChar c = true) (tail : SpellsToken rest) :
    SpellsToken (c :: rest)
  | dotted {rest : List Char} (tail : SpellsToken rest) : SpellsToken ('i' :: '\u0307' :: rest)

theorem SpellsToken.append {front back : List Char} (h : SpellsToken front)
    (tail : SpellsToken back) : SpellsToken (front ++ back) := by
  induction h with
  | nil => exact tail
  | char kept _ ih => exact .char kept ih
  | dotted _ ih => exact .dotted ih

theorem SpellsToken.mem {text : List Char} (h : SpellsToken text) {c : Char} (mem : c ∈ text) :
    isTokenChar c = true ∨ c = '\u0307' := by
  induction h with
  | nil => cases mem
  | char kept _ ih =>
    rcases List.mem_cons.1 mem with rfl | later
    · exact .inl kept
    · exact ih later
  | dotted _ ih =>
    rcases List.mem_cons.1 mem with rfl | later
    · exact .inl (by decide +kernel)
    · rcases List.mem_cons.1 later with rfl | last
      · exact .inr rfl
      · exact ih last

theorem isTokenChar_shift {c : Char} (h : isTokenChar c = true) :
    isTokenChar (shift Case.lower c) = true := isAlphanumeric_or_shift (by decide +kernel) h

theorem spellsToken_lowerAt (before : List Char) {c : Char} (h : isTokenChar c = true)
    (after : List Char) : SpellsToken (lowerAt before c after) := by
  unfold lowerAt
  split
  · split
    · exact .char (by decide +kernel) .nil
    · exact .char (by decide +kernel) .nil
  · split
    · exact .dotted .nil
    · exact .char (isTokenChar_shift h) .nil

/-- The lower case of token characters spells a token. -/
theorem spellsToken_lowerFrom {piece : List Char} (kept : ∀ c ∈ piece, isTokenChar c = true)
    (before after : List Char) : SpellsToken (lowerFrom before piece after) := by
  induction piece generalizing before with
  | nil => exact .nil
  | cons c rest ih =>
    obtain ⟨first, others⟩ := List.forall_mem_cons.1 kept
    exact (spellsToken_lowerAt before first (rest ++ after)).append (ih others (c :: before))

/-- What spells a token in lower case is the lower case of token characters. The spelled
    characters themselves will do, with a dotted I for every i with a dot. -/
theorem SpellsToken.exists_piece {text : List Char} (h : SpellsToken text)
    (lower : ∀ c ∈ text, IsLower c) :
    ∃ piece, (∀ c ∈ piece, isTokenChar c = true) ∧
      ∀ before after, lowerFrom before piece after = text := by
  induction h with
  | nil => exact ⟨[], by simp, fun _ _ => rfl⟩
  | @char c rest kept _ ih =>
    obtain ⟨first, others⟩ := List.forall_mem_cons.1 lower
    obtain ⟨piece, tokens, spelled⟩ := ih others
    refine ⟨c :: piece, List.forall_mem_cons.2 ⟨kept, tokens⟩, fun before after => ?_⟩
    rw [lowerFrom, lowerAt_of_isLower first, spelled, List.singleton_append]
  | @dotted rest _ ih =>
    obtain ⟨piece, tokens, spelled⟩ := ih fun c mem => lower c (by simp [mem])
    have letter : isTokenChar '\u0130' = true := by decide +kernel
    refine ⟨'\u0130' :: piece, List.forall_mem_cons.2 ⟨letter, tokens⟩, fun before after => ?_⟩
    rw [lowerFrom, spelled]
    rfl

/-! ## Tokens of texts -/

theorem spellsToken_of_mem_tokens {text token : String} (mem : token ∈ tokens text) :
    SpellsToken token.toList := by
  obtain ⟨chars, inTokens, rfl⟩ := List.mem_map.1 mem
  obtain ⟨piece, inText, rfl⟩ := List.mem_map.1 inTokens
  rw [String.toList_ofList]
  refine spellsToken_lowerFrom (fun c inPiece => ?_) [] []
  have kept : (!isTokenChar c) = false :=
    not_isSeparator_of_mem_splitFrom (by simp) inText c inPiece
  simpa using kept

/-- A stretch of token characters is one token. -/
theorem tokens_ofList {piece : List Char} (some : piece ≠ [])
    (kept : ∀ c ∈ piece, isTokenChar c = true) :
    tokens (String.ofList piece) = [String.ofList (lowerChars piece)] := by
  have none : ∀ c ∈ piece, (!isTokenChar c) = false := fun c mem => by rw [kept c mem]; rfl
  have whole := splitFrom_of_no_separator none [] []
  have shown : piece.isEmpty = false := Bool.eq_false_iff.2 (mt List.isEmpty_iff.1 some)
  rw [List.append_nil, List.nil_append, splitFrom, shown, if_neg Bool.false_ne_true] at whole
  rw [tokens, tokenChars, String.toList_ofList, splitWhere, whole]
  rfl

end Text

/-! ## Terms -/

theorem isEmpty_lower_trim (term : String) :
    (Text.lower (Text.trim term)).isEmpty = Text.isAllBlank term := by
  rw [Bool.eq_iff_iff, String.isEmpty_iff, ← String.toList_eq_nil_iff, Text.lower, Text.trim,
    String.toList_ofList, String.toList_ofList]
  constructor
  · intro nothing
    have trimmed : Text.trimChars term.toList = [] := by
      by_contra ne
      exact Text.lowerChars_ne_nil ne nothing
    obtain ⟨lead, trail, eq, leading, trailing⟩ := Text.exists_trimChars term.toList
    rw [Text.isAllBlank, List.all_eq_true, eq, trimmed, List.nil_append]
    intro c mem
    exact (List.mem_append.1 mem).elim (leading c) (trailing c)
  · intro blank
    rw [trimChars_of_all_blank blank]
    rfl

/-- A term is found anywhere in a text exactly if it is not blank and the lower case of the text
    holds its lower case, without the blanks around it. -/
theorem hasTerm_contains_iff {text term : String} :
    hasTerm text term .contains = true ↔ Text.isAllBlank term = false ∧
      Text.lowerChars (Text.trimChars term.toList) <:+: Text.lowerChars text.toList := by
  have held : Text.holds (Text.lower text) (Text.lower (Text.trim term)) = true ↔
      Text.lowerChars (Text.trimChars term.toList) <:+: Text.lowerChars text.toList := by
    rw [Text.holds_iff, Text.lower, Text.lower, Text.trim, String.toList_ofList,
      String.toList_ofList, String.toList_ofList]
  rw [← held, hasTerm, findTerm?, isEmpty_lower_trim]
  cases Text.isAllBlank term with
  | true => exact iff_of_false Bool.false_ne_true fun h => Bool.noConfusion h.1
  | false => exact (and_iff_right rfl).symm

/-- A term is found among the tokens of a text exactly if it is not blank and its lower case,
    without the blanks around it, is a token. -/
theorem hasTerm_word_iff {text term : String} :
    hasTerm text term .word = true ↔
      Text.isAllBlank term = false ∧ Text.lower (Text.trim term) ∈ Text.tokens text := by
  rw [hasTerm, findTerm?, isEmpty_lower_trim]
  cases Text.isAllBlank term with
  | true => exact iff_of_false Bool.false_ne_true fun h => Bool.noConfusion h.1
  | false =>
    rw [if_neg Bool.false_ne_true, List.findIdx?_isSome, List.any_eq_true]
    simp only [beq_iff_eq, exists_eq_right, true_and]

/-- **A term is a token of some text exactly if it is not blank and spells a token.** -/
theorem exists_hasTerm_word_iff (term : String) :
    (∃ text, hasTerm text term .word = true) ↔
      Text.isAllBlank term = false ∧
        Text.SpellsToken (Text.lower (Text.trim term)).toList := by
  constructor
  · rintro ⟨text, found⟩
    obtain ⟨shown, mem⟩ := hasTerm_word_iff.1 found
    exact ⟨shown, Text.spellsToken_of_mem_tokens mem⟩
  · rintro ⟨shown, spells⟩
    have lower : ∀ c ∈ (Text.lower (Text.trim term)).toList, Text.IsLower c := fun c mem =>
      Text.isLower_of_mem_lowerFrom (by rwa [Text.lower, String.toList_ofList] at mem)
    obtain ⟨piece, kept, spelled⟩ := spells.exists_piece lower
    have isToken : Text.lowerChars piece = (Text.lower (Text.trim term)).toList := spelled [] []
    have some : piece ≠ [] := by
      rintro rfl
      have empty := String.toList_eq_nil_iff.1 isToken.symm
      rw [← isEmpty_lower_trim, empty] at shown
      cases shown
    refine ⟨String.ofList piece, hasTerm_word_iff.2 ⟨shown, ?_⟩⟩
    rw [Text.tokens_ofList some kept, isToken, String.ofList_toList]
    exact List.mem_cons_self

end ChatRules
