import ChatRules.Proofs.Chain.Lists
import ChatRules.Proofs.Text.Spacing
import Mathlib.Data.List.DropRight

/-!
# Phrases in messages

A list of terms is looked for in messages between spaces. As messages and terms are normalized,
this finds whole words only, and phrases of several words where their words stand in a row. So
what is counted for a list are the messages with such a phrase.

Results:

* `mentions_normalize_iff`: a normalized message mentions the terms whose words stand in a row
  among its own.
* `sorted_prefixed`: names keep their order behind a common beginning.
* `lists_count_phrases`: the count of every list.
-/

namespace ChatRules

namespace Text

/-- Whether the words of a phrase, if it has any, stand in a row among those of a text. -/
def HasPhrase (text phrase : String) : Prop :=
  spacedWords phrase ≠ [] ∧ spacedWords phrase <:+: spacedWords text

instance (text phrase : String) : Decidable (HasPhrase text phrase) :=
  inferInstanceAs (Decidable (_ ∧ _))

/-- The words that a text is normalized to. -/
def normalizedWords (text : String) : List (List Char) :=
  wordChars (lowerChars (text.toList.map keepWordChar))

theorem areWords_normalizedWords (text : String) : AreWords (normalizedWords text) :=
  areWords_wordChars _

theorem spacedWords_normalize (text : String) :
    spacedWords (normalize text) = normalizedWords text := spacedWords_collapse _

theorem toList_normalize (text : String) :
    (normalize text).toList = [' '].intercalate (normalizedWords text) := String.toList_ofList

theorem isEmpty_normalize_iff (text : String) :
    (normalize text).isEmpty = true ↔ normalizedWords text = [] := by
  rw [String.isEmpty_iff, ← String.toList_eq_nil_iff, toList_normalize,
    (areWords_normalizedWords text).intercalate_eq_nil_iff]

/-- A normalized text between two more spaces. -/
theorem toList_between_spaces {text : String} (some : normalizedWords text ≠ []) :
    (" " ++ normalize text ++ " ").toList = spread (normalizedWords text) := by
  rw [← between_spaces_eq some, String.toList_append, String.toList_append, toList_normalize]
  rfl

end Text

namespace Chain

/-- **A normalized message mentions a term exactly if the words of the term stand in a row among
    its own.** -/
theorem mentions_normalize_iff (message term : String) :
    mentions (Text.normalize message) term = true ↔
      Text.HasPhrase (Text.normalize message) (Text.normalize term) := by
  rw [Text.HasPhrase, Text.spacedWords_normalize, Text.spacedWords_normalize]
  by_cases noTerm : Text.normalizedWords term = []
  · have empty : (Text.normalize term).isEmpty = true :=
      (Text.isEmpty_normalize_iff term).2 noTerm
    simp only [mentions, empty, Bool.not_true, Bool.false_and]
    exact iff_of_false Bool.false_ne_true fun h => h.1 noTerm
  · by_cases noMessage : Text.normalizedWords message = []
    · have empty : Text.normalize message = "" :=
        String.isEmpty_iff.1 ((Text.isEmpty_normalize_iff message).2 noMessage)
      rw [empty, mentions_nothing, noMessage, List.infix_nil]
      exact iff_of_false Bool.false_ne_true fun h => h.1 h.2
    · have shown : (Text.normalize term).isEmpty = false :=
        Bool.eq_false_iff.2 (mt (Text.isEmpty_normalize_iff term).1 noTerm)
      simp only [mentions, shown, Bool.not_false, Bool.true_and]
      rw [Text.holds_iff, Text.toList_between_spaces noTerm,
        Text.toList_between_spaces noMessage,
        Text.isInfix_spread_iff noTerm (Text.areWords_normalizedWords term).not_mem
          (Text.areWords_normalizedWords message).not_mem]
      exact (and_iff_right noTerm).symm

/-- The messages among the last ones that have a phrase of a list. -/
def phraseCount (messages : List String) (window : Nat) (terms : List String) : Nat :=
  (messages.rtake window).countP fun message =>
    ∃ term ∈ terms, Text.HasPhrase (Text.normalize message) (Text.normalize term)

theorem mentionCount_eq_phraseCount (messages : List String) (window : Nat)
    (terms : List String) :
    mentionCount messages window terms = phraseCount messages window terms := by
  rw [mentionCount, recent, phraseCount, List.rtake, ← List.countP_eq_length_filter,
    List.countP_map]
  refine List.countP_congr fun message _ => ?_
  simp only [Function.comp_apply, mentionsAny, List.any_eq_true, mentions_normalize_iff,
    decide_eq_true_eq]

/-- Names keep their order behind a common beginning. -/
theorem sorted_prefixed {α β : Type} {d : List (String × α)} (sorted : Dict.Sorted d)
    (start : String) (f : α → β) : Dict.Sorted (d.map fun e => (start ++ e.1, f e.2)) := by
  refine List.pairwise_map.2 (sorted.imp fun {a b} lt => ?_)
  have chars : a.1.toList < b.1.toList := lt
  have behind : start.toList ++ a.1.toList < start.toList ++ b.1.toList := List.append_left_lt chars
  rw [← String.toList_append, ← String.toList_append] at behind
  exact behind

/-- **Lists are matched by whole phrases.** A normalized message mentions a term exactly if the
    words that the term is normalized to, one at least, stand in a row among the words of the
    message. So the counts of the lists have one number for each list, in the order of their
    names, and nothing else: how many of the last messages have a phrase of the list. -/
theorem lists_count_phrases :
    (∀ message term, mentions (Text.normalize message) term = true ↔
      Text.HasPhrase (Text.normalize message) (Text.normalize term)) ∧
    ∀ (ctx : Context) (lists : List (String × List String)) (window : Nat), Dict.Sorted lists →
      listCounts ctx lists window = lists.map fun (listId, terms) =>
        (countStart ++ listId, Float.ofNat (phraseCount ctx.chat.messages window terms)) := by
  refine ⟨mentions_normalize_iff, fun ctx lists window sorted => ?_⟩
  simp only [listCounts, mentionCount_eq_phraseCount]
  exact (sorted_prefixed sorted countStart fun terms =>
    Float.ofNat (phraseCount ctx.chat.messages window terms)).ofList_eq

/-- Of three messages the first is outside the window, the second has the phrase across a line
    break and a mark, and the third has it as a part of words only. -/
theorem lists_count_phrases_in_window :
    let lists := [("nothing", ["!"]), ("sweets", ["Ice-cream", "pie"])]
    let ctx : Context :=
      { chat := { messages := ["Pie.", "More ICE,\ncream please!", "Nice creams, magpie"] } }
    Dict.Sorted lists ∧
      Text.spacedWords (Text.normalize "Ice-cream") = ["ice".toList, "cream".toList] ∧
      mentions (Text.normalize "More ICE,\ncream please!") "Ice-cream" = true ∧
      listCounts ctx lists 2 =
        [("count.nothing", Float.ofNat 0), ("count.sweets", Float.ofNat 1)] := by
  intro lists ctx
  have sorted : Dict.Sorted lists := by
    simp only [Dict.Sorted, lists]
    decide
  obtain ⟨mentioned, counted⟩ := lists_count_phrases
  have nothing : phraseCount ctx.chat.messages 2 ["!"] = 0 := by decide +kernel
  have sweets : phraseCount ctx.chat.messages 2 ["Ice-cream", "pie"] = 1 := by decide +kernel
  refine ⟨sorted, by decide +kernel, (mentioned _ _).2 (by decide +kernel), ?_⟩
  rw [counted ctx lists 2 sorted]
  simp only [lists, List.map_cons, List.map_nil, nothing, sweets]
  rfl

end Chain

end ChatRules
