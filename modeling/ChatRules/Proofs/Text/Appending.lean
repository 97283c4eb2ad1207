import ChatRules.Context
import ChatRules.Proofs.Condition.Missing
import ChatRules.Proofs.Text.Terms

/-!
# What is found in a text stays found when text is appended

A blank line stands between a text and what is appended to it. No token goes on over a blank, and
a capital sigma before a blank has the lower case that it has at the end of a text. So the tokens
of the text are among those of the longer one, and its lower case is the beginning of the other.

Results:

* `tokens_append`: the tokens of two texts with a separator between them.
* `hasTerm_appendText`, `holds_appendText`: a term and a phrase that are found before something
  is appended are found after it.
-/

namespace ChatRules

namespace Text

theorem splitFrom_append_cons {isSeparator : Char → Bool} {c : Char}
    (separates : isSeparator c = true) (piece front back : List Char) :
    splitFrom isSeparator piece (front ++ c :: back) =
      splitFrom isSeparator piece front ++ splitFrom isSeparator [] back := by
  induction front generalizing piece with
  | nil =>
    simp only [List.nil_append, splitFrom, separates, if_true]
    split <;> rfl
  | cons d rest ih =>
    rw [List.cons_append, splitFrom, splitFrom]
    split
    · split
      · exact ih []
      · rw [ih [], List.cons_append]
    · exact ih (piece ++ [d])

/-- The tokens of two texts with a separator between them are those of both. -/
theorem tokens_append {base rest : String} {c : Char} {more : List Char}
    (begins : rest.toList = c :: more) (separates : isTokenChar c = false) :
    tokens (base ++ rest) = tokens base ++ tokens (String.ofList more) := by
  have split := @splitFrom_append_cons (fun c => !isTokenChar c) c (by simp [separates]) []
    base.toList more
  simp only [tokens, tokenChars, splitWhere, String.toList_append, begins, split,
    List.map_append, String.toList_ofList]

end Text

/-- A term that is found in a text is found in a longer one that goes on with a blank. -/
theorem hasTerm_append {base rest term : String} {c : Char} {more : List Char}
    (begins : rest.toList = c :: more) (blank : Text.isBlank c = true) {mode : MatchMode}
    (found : hasTerm base term mode = true) : hasTerm (base ++ rest) term mode = true := by
  cases mode with
  | contains =>
    obtain ⟨shown, inBase⟩ := hasTerm_contains_iff.1 found
    have whole : ¬ Text.CutsAtSigma [] base.toList rest.toList := by
      refine Text.not_cutsAtSigma_of_apart rfl ?_ _
      rw [begins]
      exact Text.meetsCased_cons_of_isBlank blank more
    have lower : Text.lowerChars base.toList <:+: Text.lowerChars (base ++ rest).toList := by
      rw [String.toList_append]
      exact Text.lowerChars_isInfix whole
    exact hasTerm_contains_iff.2 ⟨shown, inBase.trans lower⟩
  | word =>
    obtain ⟨shown, inBase⟩ := hasTerm_word_iff.1 found
    have separates : Text.isTokenChar c = false := by
      cases token : Text.isTokenChar c with
      | false => rfl
      | true => rw [Text.isBlank_of_isTokenChar token] at blank; cases blank
    refine hasTerm_word_iff.2 ⟨shown, ?_⟩
    rw [Text.tokens_append begins separates]
    exact List.mem_append_left _ inBase

variable {base : String}

/-- **A term that is found in a text is found after an append.** -/
theorem hasTerm_appendText {term : String} {mode : MatchMode}
    (found : hasTerm base term mode = true) (value : String) :
    hasTerm (appendText base value) term mode = true := by
  unfold appendText
  split
  · exact found
  · split
    · rename_i nothing
      rw [String.isEmpty_iff.1 nothing, hasTerm_nothing] at found
      cases found
    · rw [String.append_assoc]
      exact hasTerm_append (by rw [String.toList_append]; rfl) (by decide) found

/-- A phrase that stands in a text stands there after an append. -/
theorem holds_appendText {phrase : String} (some : phrase ≠ "")
    (found : Text.holds base phrase = true) (value : String) :
    Text.holds (appendText base value) phrase = true := by
  unfold appendText
  split
  · exact found
  · split
    · rename_i nothing
      rw [Text.holds, String.isEmpty_iff.1 nothing, Text.find?_nothing some] at found
      cases found
    · rw [Text.holds_iff] at found ⊢
      rw [String.append_assoc, String.toList_append]
      exact found.trans (List.prefix_append _ _).isInfix

end ChatRules
