import ChatRules.Json.Read

/-!
# Tokens that read back

A text that was printed is read back as it was, whatever stands after it. For a number
this depends on the text of the number alone: it reads back before every text that does
not go on with it.

Results:

* `readString_quote`: a text reads back.
* `readNumeral_append`: a number is read without looking at what stands after it.
-/

namespace ChatRules.Json

/-! ## Texts -/

theorem readHex_of_lt {a b : Nat} (ha : a < 16) (hb : b < 16) (rest : List Char) :
    readHex ('0' :: '0' :: hexDigit a :: hexDigit b :: rest) = .ok (16 * a + b, rest) := by
  have digits : ∀ a < 16, ∀ b < 16,
      ¬ Text.byteSize ['0', '0', hexDigit a, hexDigit b] < 4 ∧
        Digits.toNat? 16 ['0', '0', hexDigit a, hexDigit b] = some (16 * a + b) := by
    decide +kernel
  obtain ⟨size, value⟩ := digits a ha b hb
  unfold readHex
  simp only [List.take_succ_cons, List.take_zero, if_neg size, value]

/-- A control character reads back from its code. -/
theorem readEscape_control {c : Char} (control : c.toNat < 32) (rest : List Char) :
    readEscape
      ('u' :: '0' :: '0' :: hexDigit (c.toNat / 16) :: hexDigit (c.toNat % 16) :: rest) =
        .char c rest := by
  have code : 16 * (c.toNat / 16) + c.toNat % 16 = c.toNat := Nat.div_add_mod _ _
  have noLow : ¬ 0xDC00 ≤ c.toNat := by omega
  have noHigh : ¬ 0xD800 ≤ c.toNat := by omega
  simp [readEscape, readHex_of_lt (show c.toNat / 16 < 16 by omega)
    (show c.toNat % 16 < 16 by omega), code, noLow, noHigh, Char.ofNat_toNat]

/-- Every character of a printed text is one step in reading it. -/
theorem readStringFrom_escapeChar (fuel : Nat) (done : List Char) (c : Char)
    (rest : List Char) :
    readStringFrom (fuel + 1) done none (escapeChar c ++ rest) =
      readStringFrom fuel (c :: done) none rest := by
  unfold escapeChar
  by_cases quoted : c = '"' ∨ c = '\\' ∨ c = '\x08' ∨ c = '\t' ∨ c = '\n' ∨ c = '\x0c' ∨ c = '\r'
  · rcases quoted with rfl | rfl | rfl | rfl | rfl | rfl | rfl <;> rfl
  · simp only [not_or] at quoted
    obtain ⟨quote, backslash, backspace, tab, line, feed, ret⟩ := quoted
    simp only [if_neg quote, if_neg backslash, if_neg backspace, if_neg tab, if_neg line,
      if_neg feed, if_neg ret]
    split
    · rename_i control
      have escape := readEscape_control control rest
      simp only [List.cons_append, List.nil_append, readStringFrom, escape]
      rfl
    · rename_i shown
      simp only [List.cons_append, List.nil_append, readStringFrom, if_neg quote,
        if_neg backslash, if_neg shown]

theorem readStringFrom_flatMap {fuel : Nat} {content : List Char} (enough : content.length < fuel)
    (done rest : List Char) :
    readStringFrom fuel done none (content.flatMap escapeChar ++ '"' :: rest) =
      ⟨.ok (String.ofList (done.reverse ++ content)), some rest⟩ := by
  induction content generalizing fuel done with
  | nil =>
    obtain ⟨fuel, rfl⟩ := Nat.exists_eq_add_of_lt enough
    simp [readStringFrom]
  | cons c content ih =>
    obtain ⟨fuel, rfl⟩ : ∃ n, fuel = n + 1 := ⟨fuel - 1, by omega⟩
    rw [List.flatMap_cons, List.append_assoc, readStringFrom_escapeChar,
      ih (by simpa using enough)]
    simp

theorem length_le_length_flatMap_escapeChar (content : List Char) :
    content.length ≤ (content.flatMap escapeChar).length := by
  have one : ∀ c, 1 ≤ (escapeChar c).length := by
    intro c
    unfold escapeChar
    repeat' split
    all_goals simp
  induction content with
  | nil => simp
  | cons c content ih =>
    have := one c
    simp only [List.flatMap_cons, List.length_append, List.length_cons]
    omega

/-- The characters of a printed text after its opening quote. -/
def quotedTail (s : String) : List Char := s.toList.flatMap escapeChar ++ ['"']

theorem toList_quote (s : String) : (quote s).toList = '"' :: quotedTail s := by
  simp [quote, quotedTail]

/-- **A printed text reads back.** -/
theorem readString_quote (s : String) (rest : List Char) :
    readString (quotedTail s ++ rest) = ⟨.ok s, some rest⟩ := by
  have length := length_le_length_flatMap_escapeChar s.toList
  have enough : s.toList.length < (quotedTail s ++ rest).length + 1 := by
    simp only [quotedTail, List.length_append]
    omega
  rw [readString, quotedTail, List.append_assoc, List.singleton_append] at *
  rw [readStringFrom_flatMap enough]
  simp

/-! ## Numbers -/

/-- Whether a number that stands before a text is at its end there. -/
def endsNumber : List Char → Bool
  | [] => true
  | c :: _ => !(c.isDigit || c == '.' || c == 'e' || c == 'E')

theorem not_isDigit_of_endsNumber {c : Char} {rest : List Char}
    (ends : endsNumber (c :: rest) = true) : c.isDigit = false := by
  cases digit : c.isDigit with
  | false => rfl
  | true => simp [endsNumber, digit] at ends

section

variable {tail : List Char} (ends : endsNumber tail = true)
include ends

theorem takeWhile_isDigit_append (text : List Char) :
    (text ++ tail).takeWhile Char.isDigit = text.takeWhile Char.isDigit := by
  induction text with
  | nil =>
    cases tail with
    | nil => rfl
    | cons c rest => simp [not_isDigit_of_endsNumber ends]
  | cons c text ih => simp [List.takeWhile_cons, ih]

theorem dropWhile_isDigit_append (text : List Char) :
    (text ++ tail).dropWhile Char.isDigit = text.dropWhile Char.isDigit ++ tail := by
  induction text with
  | nil =>
    cases tail with
    | nil => rfl
    | cons c rest => simp [not_isDigit_of_endsNumber ends]
  | cons c text ih =>
    simp only [List.cons_append, List.dropWhile_cons, ih]
    split <;> rfl

variable {negative down : Bool} {s : Significand} {text out : List Char} {n : Number}

theorem readExponentDigits_append
    (h : readExponentDigits negative s down text = (.value n, some out)) :
    readExponentDigits negative s down (text ++ tail) = (.value n, some (out ++ tail)) := by
  cases text with
  | nil => simp [readExponentDigits] at h
  | cons c rest =>
    cases digit : c.isDigit with
    | false => simp [readExponentDigits, digit] at h
    | true =>
      simp only [readExponentDigits, digit, Bool.not_true, Bool.false_eq_true, if_false,
        List.cons_append] at h ⊢
      rw [← List.cons_append, takeWhile_isDigit_append ends, dropWhile_isDigit_append ends]
      split at h
      · rename_i large
        rw [if_pos large]
        split at h
        · rename_i none
          rw [if_pos none]
          simp_all
        · simp at h
      · rename_i small
        rw [if_neg small]
        simp_all

theorem readExponent_append (h : readExponent negative s text = (.value n, some out)) :
    readExponent negative s (text ++ tail) = (.value n, some (out ++ tail)) := by
  unfold readExponent at h
  split at h
  · exact readExponentDigits_append ends h
  · exact readExponentDigits_append ends h
  · rename_i noPlus noMinus
    cases text with
    | nil => simp [readExponentDigits] at h
    | cons c rest =>
      rw [readExponent, List.cons_append]
      · exact readExponentDigits_append ends h
      · rintro more ⟨⟩
        exact noPlus _ rfl
      · rintro more ⟨⟩
        exact noMinus _ rfl

/-- What stands after a number does not begin like a part of one. -/
theorem ne_cons_of_endsNumber {c : Char}
    (part : c = '.' ∨ c = 'e' ∨ c = 'E') (off : ∀ more, text ≠ c :: more) (more : List Char) :
    text ++ tail ≠ c :: more := by
  cases text with
  | nil =>
    rintro rfl
    rcases part with rfl | rfl | rfl <;> simp [endsNumber] at ends
  | cons first rest =>
    rintro ⟨⟩
    exact off rest rfl

theorem readEnd_append (h : readEnd negative s text = (.value n, some out)) :
    readEnd negative s (text ++ tail) = (.value n, some (out ++ tail)) := by
  unfold readEnd at h
  split at h
  · exact readExponent_append ends h
  · exact readExponent_append ends h
  · rename_i noLower noUpper
    obtain ⟨value, rest⟩ := Prod.mk.inj h
    cases Option.some.inj rest
    rw [readEnd, value]
    · exact ne_cons_of_endsNumber ends (by simp) noLower
    · exact ne_cons_of_endsNumber ends (by simp) noUpper

theorem readFraction_append (h : readFraction negative s text = (.value n, some out)) :
    readFraction negative s (text ++ tail) = (.value n, some (out ++ tail)) := by
  unfold readFraction at h ⊢
  dsimp only at h ⊢
  rw [takeWhile_isDigit_append ends, dropWhile_isDigit_append ends]
  split at h
  · split at h <;> simp at h
  · exact readEnd_append ends h

theorem readAfterWhole_append (h : readAfterWhole negative s text = (.value n, some out)) :
    readAfterWhole negative s (text ++ tail) = (.value n, some (out ++ tail)) := by
  unfold readAfterWhole at h
  split at h
  · exact readFraction_append ends h
  · exact readExponent_append ends h
  · exact readExponent_append ends h
  · rename_i noPoint noLower noUpper
    rw [readAfterWhole]
    · split at h
      · rename_i full
        rw [if_pos full]
        exact readEnd_append ends h
      · rename_i notFull
        obtain ⟨value, rest⟩ := Prod.mk.inj h
        cases Option.some.inj rest
        rw [if_neg notFull, value]
    · exact ne_cons_of_endsNumber ends (by simp) noPoint
    · exact ne_cons_of_endsNumber ends (by simp) noLower
    · exact ne_cons_of_endsNumber ends (by simp) noUpper

/-- A number is read without looking at what stands after it. -/
theorem readNumeral_append (h : readNumeral negative text = (.value n, some out)) :
    readNumeral negative (text ++ tail) = (.value n, some (out ++ tail)) := by
  cases text with
  | nil => simp [readNumeral] at h
  | cons c rest =>
    have digits := takeWhile_isDigit_append ends (c :: rest)
    have others := dropWhile_isDigit_append ends (c :: rest)
    rw [List.cons_append] at digits others ⊢
    simp only [readNumeral, digits, others] at h ⊢
    split at h
    · simp at h
    · rename_i regular
      rw [if_neg regular]
      exact readAfterWhole_append ends h

end

/-! ## Whole numbers -/

theorem le_ofDigitChars (digits : List Char) (value : Nat) :
    value ≤ Nat.ofDigitChars 10 digits value := by
  induction digits generalizing value with
  | nil => exact Nat.le_refl _
  | cons c rest ih =>
    have := ih (10 * value + (c.toNat - '0'.toNat))
    rw [Nat.ofDigitChars_cons]
    omega

/-- Digits that fit into 64 bits are all taken in. -/
theorem foldl_wholeDigit {digits : List Char} {value : Nat}
    (fits : Nat.ofDigitChars 10 digits value ≤ maxWord) :
    digits.foldl (fun (s : Significand) c => s.wholeDigit (Decimal.digitValue c))
        ⟨value, 0, false⟩ =
      ⟨Nat.ofDigitChars 10 digits value, 0, false⟩ := by
  induction digits generalizing value with
  | nil => rfl
  | cons c rest ih =>
    rw [Nat.ofDigitChars_cons] at fits ⊢
    have noOverflow : ¬ maxWord < 10 * value + Decimal.digitValue c :=
      Nat.not_lt.2 (Nat.le_trans (le_ofDigitChars rest _) fits)
    rw [List.foldl_cons, ← ih fits]
    simp only [Significand.wholeDigit, Bool.false_or, decide_eq_true_eq, if_neg noOverflow]
    rfl

/-- The digits of a number do not begin with a zero, unless there is no other digit. -/
theorem head_toDigits {n : Nat} {rest : List Char} (zero : Nat.toDigits 10 n = '0' :: rest) :
    rest = [] := by
  induction n using Nat.strongRecOn generalizing rest with
  | ind n ih =>
    by_cases small : n < 10
    · rw [Nat.toDigits_of_lt_base small] at zero
      exact (List.cons.inj zero).2.symm
    · rw [Nat.toDigits_of_base_le (by decide) (by omega)] at zero
      cases higher : Nat.toDigits 10 (n / 10) with
      | nil => exact absurd higher Nat.toDigits_ne_nil
      | cons first more =>
        -- The higher digits are those of a number that is not zero.
        rw [higher] at zero
        obtain ⟨rfl, -⟩ := List.cons.inj zero
        obtain rfl := ih (n / 10) (by omega) higher
        have value := congrArg (Nat.ofDigitChars 10 · 0) higher
        simp only [Nat.ofDigitChars_toDigits (by decide : 1 < 10) (by decide)] at value
        have : n / 10 = 0 := value
        omega

theorem readNumeral_toDigits (negative : Bool) {n : Nat} (fits : n ≤ maxWord) :
    readNumeral negative (Nat.toDigits 10 n) = (.ofWhole negative n, some []) := by
  have allDigits : ∀ c ∈ Nat.toDigits 10 n, c.isDigit = true := fun c =>
    Nat.isDigit_of_mem_toDigits (by decide) (by decide)
  have value : Nat.ofDigitChars 10 (Nat.toDigits 10 n) 0 = n :=
    Nat.ofDigitChars_toDigits (by decide) (by decide)
  have taken : (Nat.toDigits 10 n).takeWhile Char.isDigit = Nat.toDigits 10 n := by
    simpa using @List.takeWhile_append_of_pos _ _ _ [] allDigits
  have dropped : (Nat.toDigits 10 n).dropWhile Char.isDigit = [] := by
    simpa using @List.dropWhile_append_of_pos _ _ _ [] allDigits
  have folded := foldl_wholeDigit (value ▸ fits)
  rw [value] at folded
  cases digits : Nat.toDigits 10 n with
  | nil => exact absurd digits Nat.toDigits_ne_nil
  | cons c rest =>
    rw [digits] at allDigits taken dropped folded
    have regular : ¬ (!c.isDigit || c = '0' && 1 < (c :: rest).length) = true := by
      have digit : c.isDigit = true := allDigits c List.mem_cons_self
      by_cases zero : c = '0'
      · subst zero
        simp [digit, head_toDigits digits]
      · simp [digit, zero]
    simp only [readNumeral, taken, dropped, folded, if_neg regular]
    rfl

/-- A number with its sign. -/
def readSigned : List Char → Numeral × Option (List Char)
  | '-' :: text => readNumeral true text
  | text => readNumeral false text

end ChatRules.Json

namespace ChatRules.Number

open Json

/-- Whether the text of a number reads back as the number. -/
def ReadsBack (n : Number) : Prop := readSigned (numberText n).toList = (.value n, some [])

/-- Whole numbers of 64 bits read back. -/
theorem readsBack_int {i : Int} (least : -(wordSize 63 : Int) ≤ i) (most : i < wordSize 64) :
    ReadsBack (.int i) := by
  unfold ReadsBack
  cases i with
  | ofNat n =>
    have fits : n ≤ maxWord := by
      unfold maxWord
      simp only [Int.ofNat_eq_natCast] at most
      omega
    have noSign : ∀ rest, Nat.toDigits 10 n ≠ '-' :: rest := by
      intro rest eq
      have digit := Nat.isDigit_of_mem_toDigits (b := 10) (n := n) (c := '-') (by decide)
        (by decide) (eq ▸ List.mem_cons_self)
      exact absurd digit (by decide)
    rw [toList_numberText_ofNat, readSigned, readNumeral_toDigits false fits]
    · rfl
    · exact noSign
  | negSucc n =>
    have bound : n + 1 ≤ wordSize 63 := by omega
    have fits : n + 1 ≤ maxWord := by
      unfold maxWord
      have : wordSize 63 ≤ wordSize 64 - 1 := by decide
      omega
    rw [toList_numberText_negSucc, readSigned, readNumeral_toDigits true fits]
    simp [Numeral.ofWhole, Nat.not_lt.2 bound, Int.negSucc_eq]

end ChatRules.Number
