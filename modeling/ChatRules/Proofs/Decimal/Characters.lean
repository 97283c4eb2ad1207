import ChatRules.Decimal.Spelling

/-!
# The characters of numbers

However a double is spelled, its text has no characters but digits, a point, the mark of an
exponent, and signs. Only what is no number has a word of its own.

Results:

* `isNumberChar_magnitude`: the characters of a finite double.
* `write_eq`: the text of any double.
-/

namespace ChatRules.Decimal

/-- Whether a character can stand in the text of a number. -/
def isNumberChar (c : Char) : Bool :=
  c.isDigit || c == '.' || c == 'e' || c == '+' || c == '-'

theorem isNumberChar_of_isDigit {c : Char} (digit : c.isDigit = true) : isNumberChar c = true := by
  simp [isNumberChar, digit]

theorem isDigit_toDigits (n : Nat) : ∀ c ∈ Nat.toDigits 10 n, c.isDigit = true := fun _ mem =>
  Nat.isDigit_of_mem_toDigits (by decide) (by decide) mem

/-- No digits appear where zeros are dropped. -/
theorem isDigit_trimmed (d : Digits) : ∀ c ∈ d.trimmed.1, c.isDigit = true := by
  intro c mem
  have inReverse := List.mem_reverse.1 mem
  have inDigits := List.mem_reverse.1 (List.dropWhile_subset _ inReverse)
  exact isDigit_toDigits d.digits c inDigits

/-- Beside its digits a number has only zeros, before and after the point. -/
theorem isDigit_positionalParts {ds : List Char} (digits : ∀ c ∈ ds, c.isDigit = true)
    (exponent : Int) :
    (∀ c ∈ (positionalParts ds exponent).1, c.isDigit = true) ∧
      ∀ c ∈ (positionalParts ds exponent).2, c.isDigit = true := by
  have zeros (n : Nat) : ∀ c ∈ List.replicate n '0', c.isDigit = true :=
    List.forall_mem_replicate.2 (.inr rfl)
  unfold positionalParts
  split
  · exact ⟨List.forall_mem_append.2 ⟨digits, zeros _⟩, nofun⟩
  · dsimp only
    split
    · have zero : ∀ c ∈ ['0'], c.isDigit = true := List.forall_mem_singleton.2 rfl
      exact ⟨zero, List.forall_mem_append.2 ⟨zeros _, digits⟩⟩
    · exact ⟨fun c mem => digits c (List.mem_of_mem_take mem),
        fun c mem => digits c (List.mem_of_mem_drop mem)⟩

namespace Spelling

variable (n : Spelling)

theorem isNumberChar_positionalText {ds : List Char} (digits : ∀ c ∈ ds, c.isDigit = true)
    (exponent : Int) : ∀ c ∈ n.positionalText ds exponent, isNumberChar c = true := by
  obtain ⟨whole, fraction⟩ := isDigit_positionalParts digits exponent
  have wholeChars := fun c mem => isNumberChar_of_isDigit (whole c mem)
  have fractionChars := fun c mem => isNumberChar_of_isDigit (fraction c mem)
  unfold positionalText
  split
  · rename_i parts
    rw [parts] at wholeChars
    split
    · exact List.forall_mem_append.2 ⟨wholeChars, List.all_eq_true.1 rfl⟩
    · exact wholeChars
  · rename_i parts
    rw [parts] at wholeChars fractionChars
    exact List.forall_mem_append.2
      ⟨wholeChars, List.forall_mem_cons.2 ⟨by decide, fractionChars⟩⟩

theorem isNumberChar_exponentText {ds : List Char} (digits : ∀ c ∈ ds, c.isDigit = true)
    (first : Int) : ∀ c ∈ n.exponentText ds first, isNumberChar c = true := by
  have dsChars := fun c mem => isNumberChar_of_isDigit (digits c mem)
  have power : ∀ c ∈ Nat.toDigits 10 first.natAbs, isNumberChar c = true := fun c mem =>
    isNumberChar_of_isDigit (isDigit_toDigits _ c mem)
  unfold exponentText
  dsimp only
  generalize sign_eq : (if first < 0 then ['-'] else if n.plusSign then ['+'] else []) = sign
  have signChars : ∀ c ∈ sign, isNumberChar c = true := by
    subst sign_eq
    split
    · exact List.forall_mem_singleton.2 rfl
    · split
      · exact List.forall_mem_singleton.2 rfl
      · exact nofun
  have exponent : ∀ c ∈ 'e' :: sign ++ Nat.toDigits 10 first.natAbs, isNumberChar c = true :=
    List.forall_mem_append.2 ⟨List.forall_mem_cons.2 ⟨by decide, signChars⟩, power⟩
  split
  · rename_i d d' rest
    obtain ⟨first, others⟩ := List.forall_mem_cons.1 dsChars
    exact List.forall_mem_append.2 ⟨List.forall_mem_cons.2
      ⟨first, List.forall_mem_cons.2 ⟨by decide, others⟩⟩, exponent⟩
  · exact List.forall_mem_append.2 ⟨dsChars, exponent⟩

/-- The text of a finite double has digits, a point, signs and the mark of an exponent only. -/
theorem isNumberChar_magnitude (b : Binary) : ∀ c ∈ n.magnitude b, isNumberChar c = true := by
  unfold magnitude
  split
  · exact isNumberChar_positionalText n (List.forall_mem_singleton.2 rfl) 0
  · have digits := isDigit_trimmed (b.shortest n.tie)
    dsimp only
    split
    · exact isNumberChar_positionalText n digits _
    · exact isNumberChar_exponentText n digits _

/-- **The text of a double is a word for what is no number, or has the characters of one.** -/
theorem write_eq (x : Float) :
    n.write x = n.nan ∨ (∃ negative, n.write x = n.infinity negative) ∨
      ∀ c ∈ (n.write x).toList, isNumberChar c = true := by
  unfold write
  split
  · exact .inl rfl
  · exact .inr (.inl ⟨_, rfl⟩)
  · rename_i negative b _
    have magnitude := isNumberChar_magnitude n b
    refine .inr (.inr ?_)
    rw [String.toList_ofList]
    split
    · exact List.forall_mem_cons.2 ⟨by decide, magnitude⟩
    · exact magnitude

end Spelling

end ChatRules.Decimal
