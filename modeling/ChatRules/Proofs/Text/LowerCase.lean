import ChatRules.Proofs.Text.Blanks
import Mathlib.Data.List.Chain

/-!
# What lower case consists of

The mapping of single characters to lower case moves some fifteen hundred of them. None of the
images is moved again, and all of them are letters or numbers. Both are statements about every
code point of the table. To check them, a set of code points is taken as a number that has a bit
for each of them, so that the table is compared with itself and with the letters at one go.

Results:

* `testBit_bits`: the bits of a set of runs are its code points.
* `cases_of_mem_lowerAt`: what the lower case of a character can be.
* `lowerChars_of_isLower`, `isLower_of_mem_lowerFrom`: lower case is what lower-casing leaves
  alone, and all that it leaves behind.
* `isAlphanumeric_shift`: the lower case of a letter or number is a letter or number.
-/

namespace ChatRules.Text

/-! ## Sets of code points as numbers -/

/-- The code points of a run. -/
def Run.members (r : Run) : List Nat :=
  List.range' r.first ((r.last + r.step - r.first) / r.step) r.step

/-- The number with the bits of a list. -/
def bitsOf (ns : List Nat) : Nat := ns.foldr (fun n bits => 1 <<< n ||| bits) 0

/-- The number with the bits of several runs. -/
def bits (runs : List Run) : Nat := runs.foldr (fun r bits => bitsOf r.members ||| bits) 0

theorem testBit_bitsOf (ns : List Nat) (n : Nat) : (bitsOf ns).testBit n = true ↔ n ∈ ns := by
  induction ns with
  | nil => simp [bitsOf]
  | cons m ns ih =>
    have step : bitsOf (m :: ns) = 1 <<< m ||| bitsOf ns := rfl
    rw [step, Nat.testBit_or, Bool.or_eq_true, ih, Nat.one_shiftLeft, Nat.testBit_two_pow,
      decide_eq_true_eq, List.mem_cons, eq_comm]

theorem testBit_bits (runs : List Run) (n : Nat) :
    (bits runs).testBit n = true ↔ ∃ r ∈ runs, n ∈ r.members := by
  induction runs with
  | nil => simp [bits]
  | cons r runs ih =>
    have step : bits (r :: runs) = bitsOf r.members ||| bits runs := rfl
    simp only [step, Nat.testBit_or, Bool.or_eq_true, ih, testBit_bitsOf, List.mem_cons,
      exists_eq_or_imp]

theorem Run.has_iff {r : Run} {n : Nat} :
    r.has n = true ↔ r.first ≤ n ∧ n ≤ r.last ∧ (n - r.first) % r.step = 0 := by
  simp only [has, Bool.and_eq_true, decide_eq_true_eq, beq_iff_eq, and_assoc]

theorem Run.has_of_mem_members {r : Run} {n : Nat} (mem : n ∈ r.members) : r.has n = true := by
  obtain ⟨i, lt, rfl⟩ := List.mem_range'.1 mem
  have positive : 0 < r.step := Nat.pos_of_ne_zero fun zero => by simp [zero] at lt
  have room : (i + 1) * r.step ≤ r.last + r.step - r.first :=
    (Nat.le_div_iff_mul_le positive).1 lt
  rw [Nat.add_mul, Nat.one_mul, Nat.mul_comm] at room
  have last : r.first + r.step * i ≤ r.last := by omega
  refine Run.has_iff.2 ⟨Nat.le_add_right _ _, last, ?_⟩
  rw [Nat.add_sub_cancel_left, Nat.mul_mod_right]

theorem Run.mem_members {r : Run} {n : Nat} (positive : 0 < r.step) (h : r.has n = true) :
    n ∈ r.members := by
  obtain ⟨first, last, whole⟩ := Run.has_iff.1 h
  refine List.mem_range'.2 ⟨(n - r.first) / r.step, ?_, ?_⟩
  · rw [Nat.lt_iff_add_one_le, ← Nat.add_div_right _ positive]
    exact Nat.div_le_div_right (by omega)
  · have parts := Nat.div_add_mod (n - r.first) r.step
    omega

/-! ## The images of the table -/

/-- The run that a shift moves its own run to. -/
def Shift.image (s : Shift) : Run :=
  ⟨(s.first + s.distance).toNat, (s.last + s.distance).toNat, s.step⟩

theorem Shift.has_image {s : Shift} {n : Nat} (above : 0 ≤ s.first + s.distance)
    (h : s.run.has n = true) : s.image.has (n + s.distance).toNat = true := by
  obtain ⟨first, last, whole⟩ := Run.has_iff.1 h
  simp only [Shift.run] at first last whole
  have same : (n + s.distance).toNat - (s.first + s.distance).toNat = n - s.first := by omega
  refine Run.has_iff.2 ⟨?_, ?_, ?_⟩
  · exact Int.toNat_le_toNat (by omega)
  · exact Int.toNat_le_toNat (by omega)
  · simp only [image, same, whole]

/-- The runs of the images. -/
def lowerImages : List Run := Case.lower.map Shift.image

/-- The classes that the images are found in. -/
def lowerClasses : List (List Run) :=
  [Category.lowercaseLetter, Category.letterNumber, Additions.otherAlphabetic]

theorem lower_above : ∀ s ∈ Case.lower, 0 < s.step ∧ 0 ≤ s.first + s.distance := by
  decide +kernel

theorem lowerImages_valid :
    ∀ r ∈ lowerImages, r.last < 0xD800 ∨ (0xDFFF < r.first ∧ r.last < 0x110000) := by
  decide +kernel

theorem lowerImages_of_letters :
    bits lowerImages &&& bits lowerClasses.flatten = bits lowerImages := by
  decide +kernel

theorem lowerImages_apart : bits lowerImages &&& bits (Case.lower.map Shift.run) = 0 := by
  decide +kernel

theorem lowerImages_undotted : ∀ r ∈ lowerImages, r.has 0x130 = false := by decide +kernel

/-- The classes of the images are in increasing order. -/
theorem lowerClasses_sorted :
    ∀ runs ∈ lowerClasses, runs.IsChain (fun r s => r.first ≤ s.first) := by
  decide +kernel

theorem shifted?_eq_none {table : List Shift} {n : Nat}
    (unmoved : ∀ s ∈ table, s.run.has n = false) : shifted? table n = none := by
  induction table with
  | nil => rfl
  | cons s rest ih =>
    obtain ⟨first, others⟩ := List.forall_mem_cons.1 unmoved
    rw [shifted?, first, if_neg Bool.false_ne_true, ih others, ite_self]

variable {n m : Nat}

theorem exists_image (moved : shifted? Case.lower n = some m) :
    ∃ r ∈ lowerImages, r.has m = true ∧ m ∈ r.members := by
  obtain ⟨s, mem, has, rfl⟩ := exists_of_shifted?_eq_some moved
  obtain ⟨positive, above⟩ := lower_above s mem
  have image := Shift.has_image above has
  exact ⟨s.image, List.mem_map_of_mem mem, image, Run.mem_members positive image⟩

theorem toNat_ofNat_image (moved : shifted? Case.lower n = some m) :
    (Char.ofNat m).toNat = m := by
  obtain ⟨r, mem, has, -⟩ := exists_image moved
  have bounds := Run.bounds_of_has has
  have valid := lowerImages_valid r mem
  have isValid : m.isValidChar := by
    unfold Nat.isValidChar
    omega
  rw [Char.ofNat, dif_pos isValid]
  rfl

/-- An image is not moved again. -/
theorem shifted?_image (moved : shifted? Case.lower n = some m) :
    shifted? Case.lower m = none := by
  obtain ⟨r, mem, -, member⟩ := exists_image moved
  refine shifted?_eq_none fun s inTable => ?_
  rw [Bool.eq_false_iff]
  intro again
  have image : (bits lowerImages).testBit m = true := (testBit_bits _ _).2 ⟨r, mem, member⟩
  have source : (bits (Case.lower.map Shift.run)).testBit m = true :=
    (testBit_bits _ _).2
      ⟨s.run, List.mem_map_of_mem inTable, Run.mem_members (lower_above s inTable).1 again⟩
  -- Both numbers would have the bit of `m`, but they have none in common.
  have both := congrArg (·.testBit m) lowerImages_apart
  simp only [Nat.testBit_and, image, source, Nat.zero_testBit] at both
  exact absurd both (by decide)

/-- An image is in one of the classes. -/
theorem exists_class_of_image (moved : shifted? Case.lower n = some m) :
    ∃ runs ∈ lowerClasses, contains runs m = true := by
  obtain ⟨r, mem, -, member⟩ := exists_image moved
  have image : (bits lowerImages).testBit m = true := (testBit_bits _ _).2 ⟨r, mem, member⟩
  have both := congrArg (·.testBit m) lowerImages_of_letters
  simp only [Nat.testBit_and, image, Bool.true_and] at both
  obtain ⟨s, inClasses, inRun⟩ := (testBit_bits _ _).1 both
  obtain ⟨runs, inLetters, inRuns⟩ := List.mem_flatten.1 inClasses
  have sorted : runs.Pairwise (·.first ≤ ·.first) := by
    have : IsTrans Run (·.first ≤ ·.first) := ⟨fun _ _ _ => Nat.le_trans⟩
    exact List.isChain_iff_pairwise.1 (lowerClasses_sorted runs inLetters)
  exact ⟨runs, inLetters, contains_of_mem sorted inRuns (Run.has_of_mem_members inRun)⟩

/-! ## Lower case of characters -/

/-- Whether lower-casing leaves a character alone, wherever it stands. -/
def IsLower (c : Char) : Prop := c ≠ 'Σ' ∧ c ≠ '\u0130' ∧ shift Case.lower c = c

instance (c : Char) : Decidable (IsLower c) := inferInstanceAs (Decidable (_ ∧ _))

theorem lowerAt_of_isLower {c : Char} (h : IsLower c) (before after : List Char) :
    lowerAt before c after = [c] := by
  rw [lowerAt, if_neg h.1, if_neg h.2.1, h.2.2]

theorem isLower_shift {c : Char} (sigma : c ≠ 'Σ') (dotted : c ≠ '\u0130') :
    IsLower (shift Case.lower c) := by
  cases moved : shifted? Case.lower c.toNat with
  | none =>
    have same : shift Case.lower c = c := by rw [shift, moved]
    rw [same]
    exact ⟨sigma, dotted, same⟩
  | some m =>
    have image : shift Case.lower c = Char.ofNat m := by rw [shift, moved]
    have code := toNat_ofNat_image moved
    have again := shifted?_image moved
    rw [image]
    refine ⟨?_, ?_, ?_⟩
    · intro eq
      rw [eq] at code
      rw [← code] at again
      exact absurd again (by decide +kernel)
    · intro eq
      obtain ⟨r, mem, has, -⟩ := exists_image moved
      rw [← code, eq] at has
      exact absurd has (Bool.eq_false_iff.1 (lowerImages_undotted r mem))
    · rw [shift, code, again]

/-- The lower case of a character: one of two letters for the sigma, two characters for the
    dotted I, and what the table says for all others. -/
theorem cases_of_mem_lowerAt {before after : List Char} {c d : Char}
    (mem : d ∈ lowerAt before c after) :
    (c = 'Σ' ∧ (d = 'σ' ∨ d = 'ς')) ∨ (c = '\u0130' ∧ (d = 'i' ∨ d = '\u0307')) ∨
      (c ≠ 'Σ' ∧ c ≠ '\u0130' ∧ d = shift Case.lower c) := by
  unfold lowerAt at mem
  split at mem
  · rename_i sigma
    rw [List.mem_singleton] at mem
    refine .inl ⟨sigma, ?_⟩
    split at mem
    · exact .inr mem
    · exact .inl mem
  · rename_i sigma
    split at mem
    · rename_i dotted
      rw [List.mem_cons, List.mem_singleton] at mem
      exact .inr (.inl ⟨dotted, mem⟩)
    · rename_i dotted
      exact .inr (.inr ⟨sigma, dotted, List.mem_singleton.1 mem⟩)

/-- What lower-casing leaves behind it leaves alone. -/
theorem isLower_of_mem_lowerAt {before after : List Char} {c d : Char}
    (mem : d ∈ lowerAt before c after) : IsLower d := by
  rcases cases_of_mem_lowerAt mem with ⟨-, rfl | rfl⟩ | ⟨-, rfl | rfl⟩ | ⟨sigma, dotted, rfl⟩
  · decide +kernel
  · decide +kernel
  · decide +kernel
  · decide +kernel
  · exact isLower_shift sigma dotted

theorem exists_of_mem_lowerFrom {before text after : List Char} {d : Char}
    (mem : d ∈ lowerFrom before text after) :
    ∃ c ∈ text, ∃ b a, d ∈ lowerAt b c a := by
  induction text generalizing before with
  | nil => cases mem
  | cons c rest ih =>
    rcases List.mem_append.1 mem with here | later
    · exact ⟨c, List.mem_cons_self, before, rest ++ after, here⟩
    · obtain ⟨e, inRest, found⟩ := ih later
      exact ⟨e, List.mem_cons_of_mem c inRest, found⟩

theorem mem_lowerFrom_of_forall {before text after : List Char} {c d : Char} (mem : c ∈ text)
    (lowered : ∀ b a, d ∈ lowerAt b c a) : d ∈ lowerFrom before text after := by
  induction text generalizing before with
  | nil => cases mem
  | cons e rest ih =>
    rw [lowerFrom]
    rcases List.mem_cons.1 mem with rfl | later
    · exact List.mem_append_left _ (lowered _ _)
    · exact List.mem_append_right _ (ih later)

theorem isLower_of_mem_lowerFrom {before text after : List Char} {d : Char}
    (mem : d ∈ lowerFrom before text after) : IsLower d := by
  obtain ⟨c, -, b, a, found⟩ := exists_of_mem_lowerFrom mem
  exact isLower_of_mem_lowerAt found

theorem lowerFrom_of_isLower {text : List Char} (all : ∀ c ∈ text, IsLower c)
    (before after : List Char) : lowerFrom before text after = text := by
  induction text generalizing before with
  | nil => rfl
  | cons c rest ih =>
    obtain ⟨first, others⟩ := List.forall_mem_cons.1 all
    rw [lowerFrom, lowerAt_of_isLower first, ih others, List.singleton_append]

/-- A text of lower case is its own lower case. -/
theorem lowerChars_of_isLower {text : List Char} (all : ∀ c ∈ text, IsLower c) :
    lowerChars text = text := lowerFrom_of_isLower all [] []

/-! ## Letters and numbers -/

theorem isAlphanumeric_shift {c : Char} (h : isAlphanumeric c = true) :
    isAlphanumeric (shift Case.lower c) = true := by
  cases moved : shifted? Case.lower c.toNat with
  | none => rwa [shift, moved]
  | some m =>
    obtain ⟨runs, mem, holds⟩ := exists_class_of_image moved
    have known : ∀ runs ∈ lowerClasses, runs ∈ alphabetic := by
      simp [lowerClasses, alphabetic, Category.letter]
    have image : shift Case.lower c = Char.ofNat m := by rw [shift, moved]
    rw [isAlphanumeric, Bool.or_eq_true]
    refine .inl (List.any_eq_true.2 ⟨runs, known runs mem, ?_⟩)
    rwa [image, toNat_ofNat_image moved]

/-- A class of letters, numbers, the apostrophe and one mark more holds the lower case of its
    characters. -/
theorem isAlphanumeric_or_shift {mark : Char} (stays : IsLower mark) {c : Char}
    (h : (isAlphanumeric c || c == '\'' || c == mark) = true) :
    (isAlphanumeric (shift Case.lower c) || shift Case.lower c == '\'' ||
      shift Case.lower c == mark) = true := by
  have apostrophe : shift Case.lower '\'' = '\'' := by decide
  rw [Bool.or_eq_true, Bool.or_eq_true, beq_iff_eq, beq_iff_eq] at h
  rcases h with (letter | rfl) | rfl
  · rw [isAlphanumeric_shift letter, Bool.true_or, Bool.true_or]
  · rw [apostrophe, beq_self_eq_true, Bool.or_true, Bool.true_or]
  · rw [stays.2.2, beq_self_eq_true, Bool.or_true]

end ChatRules.Text
