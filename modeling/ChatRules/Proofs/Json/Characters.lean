import ChatRules.Json.Print
import ChatRules.Proofs.Decimal.Characters

/-!
# The characters of printed values

A value that is printed on one line has no control characters, whatever texts are in it: those of
the texts are written as escapes, and the rest of a value has none. So there is no line break in
it either.

Results:

* `isShown_of_mem_quote`: the characters of a printed text.
* `isShown_of_mem_compact`: the characters of any printed value.
-/

namespace ChatRules.Json

/-- Whether a character is no control character. -/
def isShown (c : Char) : Bool := 32 ≤ c.toNat

theorem isShown_hexDigit : ∀ n < 16, isShown (hexDigit n) = true := by decide

/-- An escape has no control characters. -/
theorem isShown_of_mem_escapeChar (c : Char) : ∀ d ∈ escapeChar c, isShown d = true := by
  unfold escapeChar
  by_cases named : c = '"' ∨ c = '\\' ∨ c = '\x08' ∨ c = '\t' ∨ c = '\n' ∨ c = '\x0c' ∨ c = '\r'
  · rcases named with rfl | rfl | rfl | rfl | rfl | rfl | rfl <;>
      exact List.all_eq_true.1 rfl
  · simp only [not_or] at named
    obtain ⟨quote, backslash, backspace, tab, line, feed, ret⟩ := named
    simp only [if_neg quote, if_neg backslash, if_neg backspace, if_neg tab, if_neg line,
      if_neg feed, if_neg ret]
    split
    · rename_i control
      have high := isShown_hexDigit (c.toNat / 16) (by omega)
      have low := isShown_hexDigit (c.toNat % 16) (by omega)
      have start : ∀ d ∈ ['\\', 'u', '0', '0'], isShown d = true := List.all_eq_true.1 rfl
      exact List.forall_mem_append.2 ⟨start, List.forall_mem_cons.2
        ⟨high, List.forall_mem_singleton.2 low⟩⟩
    · rename_i shown
      exact List.forall_mem_singleton.2 (decide_eq_true (Nat.le_of_not_lt shown))

theorem isShown_of_mem_quote (s : String) : ∀ c ∈ (quote s).toList, isShown c = true := by
  have content : ∀ c ∈ s.toList.flatMap escapeChar, isShown c = true := by
    intro c mem
    obtain ⟨d, -, inEscape⟩ := List.mem_flatMap.1 mem
    exact isShown_of_mem_escapeChar d c inEscape
  have mark : isShown '"' = true := by decide
  rw [quote, String.toList_ofList]
  exact List.forall_mem_append.2
    ⟨List.forall_mem_cons.2 ⟨mark, content⟩, List.forall_mem_singleton.2 mark⟩

theorem isShown_of_isNumberChar {c : Char} (h : Decimal.isNumberChar c = true) :
    isShown c = true := by
  simp only [Decimal.isNumberChar, Bool.or_eq_true, beq_iff_eq] at h
  rcases h with (((digit | rfl) | rfl) | rfl) | rfl
  · simp only [Char.isDigit, Bool.and_eq_true, decide_eq_true_eq] at digit
    have fromZero : '0'.toNat ≤ c.toNat := UInt32.le_iff_toNat_le.1 digit.1
    exact decide_eq_true (Nat.le_trans (by decide) fromZero)
  · decide
  · decide
  · decide
  · decide

theorem isShown_of_mem_toDigits (n : Nat) :
    ∀ c ∈ Nat.toDigits 10 n, isShown c = true := fun c mem =>
  isShown_of_isNumberChar (Decimal.isNumberChar_of_isDigit (Decimal.isDigit_toDigits n c mem))

theorem isShown_of_mem_numberText (n : Number) :
    ∀ c ∈ (numberText n).toList, isShown c = true := by
  cases n with
  | int i =>
    cases i with
    | ofNat n =>
      rw [toList_numberText_ofNat]
      exact isShown_of_mem_toDigits n
    | negSucc n =>
      rw [toList_numberText_negSucc]
      exact List.forall_mem_cons.2 ⟨by decide, isShown_of_mem_toDigits (n + 1)⟩
  | float x =>
    have word : ∀ c ∈ "null".toList, isShown c = true := List.all_eq_true.1 rfl
    rcases Decimal.Spelling.json.write_eq x with nan | ⟨negative, infinite⟩ | number
    · rw [numberText, nan]
      exact word
    · rw [numberText, infinite]
      exact word
    · exact fun c mem => isShown_of_isNumberChar (number c mem)

/-! ## Printed values -/

theorem compactItems_eq_map (items : List Json) : compactItems items = items.map compact := by
  induction items with
  | nil => rfl
  | cons j rest ih => rw [compactItems, ih, List.map_cons]

theorem compactFields_eq_map (fields : List (String × Json)) :
    compactFields fields = fields.map fun f => quote f.1 ++ ":" ++ f.2.compact := by
  induction fields with
  | nil => rfl
  | cons f rest ih => rw [compactFields, ih, List.map_cons]

/-- Texts that are joined have no other characters than these texts and what is between them. -/
theorem forall_mem_intercalate {P : Char → Prop} {between : String} {texts : List String}
    (joint : ∀ c ∈ between.toList, P c) (each : ∀ s ∈ texts, ∀ c ∈ s.toList, P c) :
    ∀ c ∈ (between.intercalate texts).toList, P c := by
  induction texts with
  | nil => exact nofun
  | cons s rest ih =>
    obtain ⟨first, others⟩ := List.forall_mem_cons.1 each
    cases rest with
    | nil => simpa using first
    | cons next rest =>
      rw [String.intercalate_cons_cons, String.toList_append, String.toList_append]
      exact List.forall_mem_append.2 ⟨List.forall_mem_append.2 ⟨first, joint⟩, ih others⟩

/-- Items between brackets have no control characters if the brackets and the items have none. -/
theorem isShown_of_mem_bracketed {opening closing : String} {texts : List String}
    (opens : opening.toList.all isShown = true) (closes : closing.toList.all isShown = true)
    (each : ∀ s ∈ texts, ∀ c ∈ s.toList, isShown c = true) :
    ∀ c ∈ (opening ++ ",".intercalate texts ++ closing).toList, isShown c = true := by
  have comma : ∀ c ∈ ",".toList, isShown c = true := List.all_eq_true.1 rfl
  rw [String.toList_append, String.toList_append]
  exact List.forall_mem_append.2
    ⟨List.forall_mem_append.2 ⟨List.all_eq_true.1 opens, forall_mem_intercalate comma each⟩,
      List.all_eq_true.1 closes⟩

/-- **A value on one line has no control characters.** -/
theorem isShown_of_mem_compact (j : Json) : ∀ c ∈ j.compact.toList, isShown c = true := by
  induction j using induction with
  | null => exact (List.all_eq_true.1 rfl : ∀ c ∈ "null".toList, isShown c = true)
  | bool b =>
    cases b with
    | true => exact (List.all_eq_true.1 rfl : ∀ c ∈ "true".toList, isShown c = true)
    | false => exact (List.all_eq_true.1 rfl : ∀ c ∈ "false".toList, isShown c = true)
  | number n => exact isShown_of_mem_numberText n
  | string s => exact isShown_of_mem_quote s
  | array items ih =>
    rw [compact, compactItems_eq_map]
    exact isShown_of_mem_bracketed rfl rfl (List.forall_mem_map.2 ih)
  | object fields ih =>
    have colon : ∀ c ∈ ":".toList, isShown c = true := List.all_eq_true.1 rfl
    have each : ∀ s ∈ fields.map fun f => quote f.1 ++ ":" ++ f.2.compact,
        ∀ c ∈ s.toList, isShown c = true := by
      refine List.forall_mem_map.2 fun f mem => ?_
      rw [String.toList_append, String.toList_append]
      exact List.forall_mem_append.2
        ⟨List.forall_mem_append.2 ⟨isShown_of_mem_quote f.1, colon⟩, ih f mem⟩
    rw [compact, compactFields_eq_map]
    exact isShown_of_mem_bracketed rfl rfl each

end ChatRules.Json
