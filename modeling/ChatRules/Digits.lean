/-!
# Digits

The digits of numerals to a base of at most 36, and the numbers that they spell.

Results:

* `value?_lt`: a digit is less than the base.
* `toNat?_append`: a numeral is read digit by digit, the highest first.
-/

namespace ChatRules.Digits

/-- The value of a digit to a base. Letters of either case follow the digit nine. -/
def value? (base : Nat) (c : Char) : Option Nat :=
  let value : Option Nat :=
    if c.isDigit then some (c.toNat - 48)
    else if 'a' ≤ c && c ≤ 'z' then some (c.toNat - 87)
    else if 'A' ≤ c && c ≤ 'Z' then some (c.toNat - 55)
    else none
  value.filter (· < base)

/-- Whether a character is a digit to a base. -/
def isDigit (base : Nat) (c : Char) : Bool := (value? base c).isSome

/-- The number that more digits make of a number. -/
def extend? (base : Nat) : Nat → List Char → Option Nat
  | n, [] => some n
  | n, c :: rest => (value? base c).bind fun d => extend? base (base * n + d) rest

/-- The number that digits to a base spell. There is none without digits. -/
def toNat? (base : Nat) (digits : List Char) : Option Nat :=
  if digits.isEmpty then none else extend? base 0 digits

theorem value?_lt {base n : Nat} {c : Char} (h : value? base c = some n) : n < base := by
  simp only [value?, Option.filter_eq_some_iff] at h
  simpa using h.2

theorem extend?_append (base n : Nat) (ds es : List Char) :
    extend? base n (ds ++ es) = (extend? base n ds).bind fun m => extend? base m es := by
  induction ds generalizing n with
  | nil => rfl
  | cons c rest ih =>
    simp only [List.cons_append, extend?]
    cases value? base c with
    | none => rfl
    | some d => exact ih _

theorem toNat?_append {base n : Nat} {ds : List Char} (c : Char) (h : toNat? base ds = some n) :
    toNat? base (ds ++ [c]) = (value? base c).map (base * n + ·) := by
  unfold toNat? at h ⊢
  split at h
  · cases h
  · have : (ds ++ [c]).isEmpty = false := by simp
    rw [this, extend?_append, h]
    cases hc : value? base c <;> simp [extend?, hc]

end ChatRules.Digits
