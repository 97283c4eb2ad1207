import ChatRules.Matching
import Mathlib.Data.List.TakeWhile

/-!
# Blanks in words and tokens

Blanks divide words, and no token holds one. Lower-casing neither makes a blank nor takes one
away. So a term that still has a blank inside when those around it are gone is no token.

Results:

* `isBlank_of_isTokenChar`: a character of a token is no blank.
* `any_isBlank_lowerChars`: a text has a blank exactly if its lower case has one.
* `any_isBlank_trimChars`: a text of several words has a blank between them.
* `findTerm?_several_words`: a term of several words is no token of any text.
-/

namespace ChatRules

namespace Text

/-! ## Classes without a common character -/

/-- The runs lie apart: one of them ends before the other begins. -/
def Run.Apart (r s : Run) : Prop := r.last < s.first ∨ s.last < r.first

instance (r s : Run) : Decidable (r.Apart s) := inferInstanceAs (Decidable (_ ∨ _))

theorem Run.bounds_of_has {r : Run} {n : Nat} (h : r.has n = true) : r.first ≤ n ∧ n ≤ r.last := by
  simp only [has, Bool.and_eq_true, decide_eq_true_eq] at h
  exact h.1

theorem exists_has_of_contains {runs : List Run} {n : Nat} (h : contains runs n = true) :
    ∃ r ∈ runs, r.has n = true := by
  induction runs with
  | nil => cases h
  | cons r rest ih =>
    unfold contains at h
    split at h
    · cases h
    · rcases Bool.or_eq_true_iff.1 h with here | later
      · exact ⟨r, List.mem_cons_self, here⟩
      · obtain ⟨s, mem, has⟩ := ih later
        exact ⟨s, List.mem_cons_of_mem r mem, has⟩

theorem not_contains_of_apart {runs others : List Run}
    (apart : ∀ r ∈ runs, ∀ s ∈ others, r.Apart s) {n : Nat} (h : contains runs n = true) :
    contains others n = false := by
  rw [Bool.eq_false_iff]
  intro other
  obtain ⟨r, inRuns, hasR⟩ := exists_has_of_contains h
  obtain ⟨s, inOthers, hasS⟩ := exists_has_of_contains other
  have inR := Run.bounds_of_has hasR
  have inS := Run.bounds_of_has hasS
  have never := apart r inRuns s inOthers
  unfold Run.Apart at never
  omega

/-- No letter and no number is a blank. -/
theorem alphanumeric_apart :
    ∀ runs ∈ alphabetic ++ Category.number, ∀ r ∈ runs, ∀ s ∈ blank, r.Apart s := by
  decide +kernel

theorem isBlank_of_isAlphanumeric {c : Char} (h : isAlphanumeric c = true) : isBlank c = false := by
  have inSome : inAny (alphabetic ++ Category.number) c = true := by
    rw [inAny, List.any_append]
    exact h
  obtain ⟨runs, mem, holds⟩ := List.any_eq_true.1 inSome
  exact not_contains_of_apart (alphanumeric_apart runs mem) holds

theorem isBlank_of_isTokenChar {c : Char} (h : isTokenChar c = true) : isBlank c = false := by
  unfold isTokenChar at h
  rw [Bool.or_eq_true_iff, Bool.or_eq_true_iff, beq_iff_eq, beq_iff_eq] at h
  rcases h with (letter | rfl) | rfl
  · exact isBlank_of_isAlphanumeric letter
  · decide
  · decide

/-! ## Lower case -/

theorem exists_of_shifted?_eq_some {table : List Shift} {n m : Nat}
    (h : shifted? table n = some m) :
    ∃ s ∈ table, s.run.has n = true ∧ m = (n + s.distance).toNat := by
  induction table with
  | nil => cases h
  | cons s rest ih =>
    unfold shifted? at h
    split at h
    · cases h
    · split at h
      · rename_i has
        exact ⟨s, List.mem_cons_self, has, (Option.some.inj h).symm⟩
      · obtain ⟨t, mem, moves⟩ := ih h
        exact ⟨t, List.mem_cons_of_mem s mem, moves⟩

/-- What has another lower case is no blank, and neither is the lower case. -/
theorem lower_apart :
    ∀ s ∈ Case.lower, ∀ r ∈ blank, s.run.Apart r ∧
      (s.last + s.distance < r.first ∨ r.last < s.first + s.distance) := by
  decide +kernel

theorem blank_positive : ∀ r ∈ blank, 0 < r.first := by decide

theorem isBlank_ofNat (n : Nat) (h : contains blank n = false) :
    isBlank (Char.ofNat n) = false := by
  by_cases valid : n.isValidChar
  · rw [Char.ofNat, dif_pos valid]
    exact h
  · rw [Char.ofNat, dif_neg valid]
    rfl

theorem isBlank_shift (c : Char) : isBlank (shift Case.lower c) = isBlank c := by
  unfold shift
  cases moved : shifted? Case.lower c.toNat with
  | none => rfl
  | some m =>
    obtain ⟨s, mem, has, rfl⟩ := exists_of_shifted?_eq_some moved
    have inRun := Run.bounds_of_has has
    have before : isBlank c = false := by
      rw [Bool.eq_false_iff]
      intro isBlank
      obtain ⟨r, blank, hasR⟩ := exists_has_of_contains isBlank
      have inBlank := Run.bounds_of_has hasR
      have apart := (lower_apart s mem r blank).1
      simp only [Run.Apart, Shift.run] at apart inRun
      omega
    -- The image may lie below zero, where it is cut off at a code point that is no blank either.
    have after : contains blank (c.toNat + s.distance).toNat = false := by
      rw [Bool.eq_false_iff]
      intro isBlank
      obtain ⟨r, blank, hasR⟩ := exists_has_of_contains isBlank
      have inBlank := Run.bounds_of_has hasR
      have apart := (lower_apart s mem r blank).2
      have positive : 0 < r.first := blank_positive r blank
      simp only [Shift.run] at inRun
      omega
    rw [before]
    exact isBlank_ofNat _ after

theorem any_isBlank_lowerAt (before : List Char) (c : Char) (after : List Char) :
    (lowerAt before c after).any isBlank = isBlank c := by
  unfold lowerAt
  split
  · rename_i sigma
    subst sigma
    split <;> decide
  · split
    · rename_i dotted
      subst dotted
      decide
    · rw [List.any_cons, List.any_nil, Bool.or_false, isBlank_shift]

theorem any_isBlank_lowerFrom (before text after : List Char) :
    (lowerFrom before text after).any isBlank = text.any isBlank := by
  induction text generalizing before with
  | nil => rfl
  | cons c rest ih =>
    rw [lowerFrom, List.any_append, any_isBlank_lowerAt, ih, List.any_cons]

/-- Lower-casing neither makes a blank nor takes one away. -/
theorem any_isBlank_lowerChars (text : List Char) :
    (lowerChars text).any isBlank = text.any isBlank :=
  any_isBlank_lowerFrom [] text []

/-! ## Tokens -/

theorem not_isSeparator_of_mem_splitFrom {isSeparator : Char → Bool} {piece text p : List Char}
    (clean : ∀ c ∈ piece, isSeparator c = false) (mem : p ∈ splitFrom isSeparator piece text) :
    ∀ c ∈ p, isSeparator c = false := by
  induction text generalizing piece with
  | nil =>
    unfold splitFrom at mem
    split at mem
    · cases mem
    · rwa [List.mem_singleton.1 mem]
  | cons c rest ih =>
    unfold splitFrom at mem
    split at mem
    · split at mem
      · exact ih (by simp) mem
      · rcases List.mem_cons.1 mem with rfl | later
        · exact clean
        · exact ih (by simp) later
    · rename_i kept
      refine ih (fun d inPiece => ?_) mem
      rcases List.mem_append.1 inPiece with old | new
      · exact clean d old
      · rw [List.mem_singleton.1 new]
        exact Bool.eq_false_iff.2 kept

/-- No token holds a blank. -/
theorem any_isBlank_of_mem_tokens {text token : String} (mem : token ∈ tokens text) :
    token.toList.any isBlank = false := by
  obtain ⟨chars, inTokens, rfl⟩ := List.mem_map.1 mem
  obtain ⟨piece, inText, rfl⟩ := List.mem_map.1 inTokens
  rw [String.toList_ofList, any_isBlank_lowerChars, List.any_eq_false]
  intro c inPiece
  have kept : (!isTokenChar c) = false :=
    not_isSeparator_of_mem_splitFrom (by simp) inText c inPiece
  rw [isBlank_of_isTokenChar (by simpa using kept)]
  decide

/-! ## Words -/

theorem splitFrom_of_all_separators {isSeparator : Char → Bool} {gap : List Char}
    (all : ∀ c ∈ gap, isSeparator c = true) (rest : List Char) :
    splitFrom isSeparator [] (gap ++ rest) = splitFrom isSeparator [] rest := by
  induction gap with
  | nil => rfl
  | cons c gap ih =>
    obtain ⟨first, others⟩ := List.forall_mem_cons.1 all
    rw [List.cons_append, splitFrom, if_pos first, if_pos List.isEmpty_nil, ih others]

theorem splitFrom_of_no_separator {isSeparator : Char → Bool} {word : List Char}
    (none : ∀ c ∈ word, isSeparator c = false) (piece rest : List Char) :
    splitFrom isSeparator piece (word ++ rest) = splitFrom isSeparator (piece ++ word) rest := by
  induction word generalizing piece with
  | nil => rw [List.nil_append, List.append_nil]
  | cons c word ih =>
    obtain ⟨first, others⟩ := List.forall_mem_cons.1 none
    rw [List.cons_append, splitFrom, if_neg (Bool.eq_false_iff.1 first), ih others,
      List.append_assoc, List.singleton_append]

theorem length_splitFrom_of_all_separators {isSeparator : Char → Bool} {gap : List Char}
    (all : ∀ c ∈ gap, isSeparator c = true) (piece : List Char) :
    (splitFrom isSeparator piece gap).length ≤ 1 := by
  cases gap with
  | nil =>
    unfold splitFrom
    split <;> simp
  | cons c gap =>
    obtain ⟨first, others⟩ := List.forall_mem_cons.1 all
    have nothing : splitFrom isSeparator [] gap = [] := by
      have split := splitFrom_of_all_separators others []
      rwa [List.append_nil] at split
    rw [splitFrom, if_pos first, nothing]
    split <;> simp

/-- What trimming takes off a text are blanks at its ends. -/
theorem exists_trimChars (text : List Char) :
    ∃ lead trail, text = lead ++ (trimChars text ++ trail) ∧ (∀ c ∈ lead, isBlank c = true) ∧
      ∀ c ∈ trail, isBlank c = true := by
  let rest := text.dropWhile isBlank
  refine ⟨text.takeWhile isBlank, (rest.reverse.takeWhile isBlank).reverse, ?_, ?_, ?_⟩
  · have inner : trimChars text ++ (rest.reverse.takeWhile isBlank).reverse = rest := by
      rw [trimChars, ← List.reverse_append, List.takeWhile_append_dropWhile, List.reverse_reverse]
    rw [inner, List.takeWhile_append_dropWhile]
  · intro c mem
    exact List.mem_takeWhile_imp mem
  · intro c mem
    exact List.mem_takeWhile_imp (List.mem_reverse.1 mem)

/-- A text of several words has a blank between them. -/
theorem any_isBlank_trimChars {text : List Char} (several : 1 < (wordChars text).length) :
    (trimChars text).any isBlank = true := by
  by_contra noBlank
  rw [Bool.not_eq_true, List.any_eq_false] at noBlank
  have word : ∀ c ∈ trimChars text, isBlank c = false := fun c mem =>
    Bool.eq_false_iff.2 (noBlank c mem)
  obtain ⟨lead, trail, eq, leading, trailing⟩ := exists_trimChars text
  have one : (wordChars text).length ≤ 1 := by
    rw [eq, wordChars, splitWhere, splitFrom_of_all_separators leading,
      splitFrom_of_no_separator word]
    exact length_splitFrom_of_all_separators trailing _
  omega

end Text

/-- **A term of several words is no token of any text.** -/
theorem findTerm?_several_words {term : String} (several : 1 < (Text.words term).length)
    (text : String) : findTerm? text term .word = none := by
  have blank : (Text.lower (Text.trim term)).toList.any Text.isBlank = true := by
    rw [Text.words, List.length_map] at several
    rw [Text.lower, Text.trim, String.toList_ofList, String.toList_ofList,
      Text.any_isBlank_lowerChars]
    exact Text.any_isBlank_trimChars several
  unfold findTerm?
  by_cases empty : (Text.lower (Text.trim term)).isEmpty = true
  · rw [if_pos empty]
  · rw [if_neg empty]
    refine List.findIdx?_eq_none_iff.2 fun token mem => ?_
    rw [beq_eq_false_iff_ne]
    rintro rfl
    rw [Text.any_isBlank_of_mem_tokens mem] at blank
    cases blank

end ChatRules
