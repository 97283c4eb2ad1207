import ChatRules.Proofs.Text.Blanks

/-!
# The lower case of a part of a text

Every character has a lower case of its own, except the capital sigma, which has two: one for
the end of a word, one for all other places. Which of them it is hangs on the letters around it.
So the lower case of a text holds the lower case of a part of it unless the part cuts a word at
a sigma: the sigma is the first letter in the part of a word that it ends, or it is the last
letter in the part of a word that goes on.

Results:

* `lowerFrom_eq_lowerChars_iff`: a part has the lower case that it has by itself exactly if it
  does not cut a word at a sigma.
* `not_cutsAtSigma_of_not_mem`, `not_cutsAtSigma_of_apart`: parts without a sigma, and parts
  with no letter next to them, cut no word so.
* `CutsAtSigma.of_trimmed`: blanks around a part make no difference.
-/

namespace ChatRules.Text

/-- Whether `part`, between `before` and `after`, cuts a word at a capital sigma: the sigma ends
    a word in the whole text and not in the part, or in the part and not in the whole text. -/
def CutsAtSigma (before part after : List Char) : Prop :=
  ∃ p s, part = p ++ 'Σ' :: s ∧
    endsWord (p.reverse ++ before.reverse) (s ++ after) ≠ endsWord p.reverse s

/-! ## Lower case in two surroundings -/

theorem lowerAt_ne_nil (before : List Char) (c : Char) (after : List Char) :
    lowerAt before c after ≠ [] := by
  unfold lowerAt
  split
  · exact List.cons_ne_nil _ _
  · split <;> exact List.cons_ne_nil _ _

theorem lowerChars_ne_nil {text : List Char} (h : text ≠ []) : lowerChars text ≠ [] := by
  obtain ⟨c, rest, rfl⟩ := List.exists_cons_of_ne_nil h
  exact List.append_ne_nil_of_left_ne_nil (lowerAt_ne_nil _ _ _) _

theorem lowerAt_sigma (before after : List Char) :
    lowerAt before 'Σ' after = [if endsWord before after then 'ς' else 'σ'] := if_pos rfl

theorem lowerAt_of_ne {c : Char} (ne : c ≠ 'Σ') (b₁ a₁ b₂ a₂ : List Char) :
    lowerAt b₁ c a₁ = lowerAt b₂ c a₂ := by
  rw [lowerAt, lowerAt, if_neg ne, if_neg ne]

theorem length_lowerAt (c : Char) (b₁ a₁ b₂ a₂ : List Char) :
    (lowerAt b₁ c a₁).length = (lowerAt b₂ c a₂).length := by
  by_cases sigma : c = 'Σ'
  · subst sigma
    rw [lowerAt_sigma, lowerAt_sigma, List.length_singleton, List.length_singleton]
  · rw [lowerAt_of_ne sigma]

/-- Of all characters only the sigma looks at what stands around it. -/
theorem lowerAt_eq_lowerAt_iff (c : Char) (b₁ a₁ b₂ a₂ : List Char) :
    lowerAt b₁ c a₁ = lowerAt b₂ c a₂ ↔ (c = 'Σ' → endsWord b₁ a₁ = endsWord b₂ a₂) := by
  by_cases sigma : c = 'Σ'
  · subst sigma
    rw [lowerAt_sigma, lowerAt_sigma]
    cases endsWord b₁ a₁ <;> cases endsWord b₂ a₂ <;> decide
  · exact iff_of_true (lowerAt_of_ne sigma _ _ _ _) fun eq => absurd eq sigma

/-- A text has the same lower case in two surroundings exactly if each of its sigmas ends a word
    in both of them or in none. -/
theorem lowerFrom_eq_lowerFrom_iff (text b₁ a₁ b₂ a₂ : List Char) :
    lowerFrom b₁ text a₁ = lowerFrom b₂ text a₂ ↔
      ∀ p s, text = p ++ 'Σ' :: s →
        endsWord (p.reverse ++ b₁) (s ++ a₁) = endsWord (p.reverse ++ b₂) (s ++ a₂) := by
  induction text generalizing b₁ b₂ with
  | nil =>
    refine iff_of_true rfl fun p s eq => ?_
    exact absurd eq.symm (List.append_ne_nil_of_right_ne_nil _ (List.cons_ne_nil _ _))
  | cons c rest ih =>
    -- A character has a lower case of the same length everywhere, so the rest begins at the same
    -- place in both.
    have parts : lowerFrom b₁ (c :: rest) a₁ = lowerFrom b₂ (c :: rest) a₂ ↔
        lowerAt b₁ c (rest ++ a₁) = lowerAt b₂ c (rest ++ a₂) ∧
          lowerFrom (c :: b₁) rest a₁ = lowerFrom (c :: b₂) rest a₂ := by
      rw [lowerFrom, lowerFrom]
      constructor
      · intro eq
        exact List.append_inj eq (length_lowerAt _ _ _ _ _)
      · rintro ⟨first, others⟩
        rw [first, others]
    rw [parts, lowerAt_eq_lowerAt_iff, ih]
    constructor
    · rintro ⟨first, others⟩ p s eq
      cases p with
      | nil =>
        obtain ⟨rfl, rfl⟩ := List.cons.inj eq
        exact first rfl
      | cons d p =>
        obtain ⟨rfl, rfl⟩ := List.cons.inj eq
        rw [List.reverse_cons, List.append_assoc, List.append_assoc]
        exact others p s rfl
    · intro all
      refine ⟨fun sigma => all [] rest (by rw [sigma]; rfl), fun p s eq => ?_⟩
      have here := all (c :: p) s (by rw [eq]; rfl)
      rwa [List.reverse_cons, List.append_assoc, List.append_assoc] at here

/-- **A part has the lower case that it has by itself exactly if it cuts no word at a sigma.** -/
theorem lowerFrom_eq_lowerChars_iff (before part after : List Char) :
    lowerFrom before.reverse part after = lowerChars part ↔ ¬ CutsAtSigma before part after := by
  rw [lowerChars, lowerFrom_eq_lowerFrom_iff]
  simp only [CutsAtSigma, not_exists, not_and, not_not, List.append_nil]

/-- The lower case of a text holds that of a part that cuts no word at a sigma. -/
theorem lowerChars_isInfix {before part after : List Char}
    (whole : ¬ CutsAtSigma before part after) :
    lowerChars part <:+: lowerChars (before ++ (part ++ after)) := by
  have same := (lowerFrom_eq_lowerChars_iff before part after).2 whole
  refine ⟨lowerFrom [] before (part ++ after),
    lowerFrom (part.reverse ++ before.reverse) after [], ?_⟩
  rw [← same, lowerChars, lowerFrom_append, lowerFrom_append]
  simp only [List.append_nil, List.append_assoc]

/-! ## Parts that cut no word -/

theorem not_cutsAtSigma_of_not_mem {part : List Char} (none : 'Σ' ∉ part)
    (before after : List Char) : ¬ CutsAtSigma before part after := by
  rintro ⟨p, s, rfl, -⟩
  exact none (List.mem_append_right p List.mem_cons_self)

/-- What stands beyond a text that meets no letter is not met either. -/
theorem meetsCased_append {far : List Char} (none : meetsCased far = false) (near : List Char) :
    meetsCased (near ++ far) = meetsCased near := by
  induction near with
  | nil => exact none
  | cons c rest ih => rw [List.cons_append, meetsCased, meetsCased, ih]

theorem not_cutsAtSigma_of_apart {before after : List Char}
    (noneBefore : meetsCased before.reverse = false) (noneAfter : meetsCased after = false)
    (part : List Char) : ¬ CutsAtSigma before part after := by
  rintro ⟨p, s, rfl, differ⟩
  apply differ
  rw [endsWord, endsWord, meetsCased_append noneBefore, meetsCased_append noneAfter]

/-- No blank is a letter with a case, and casing looks through none. -/
theorem blank_apart_cased :
    ∀ runs ∈ caseIgnorable ++ cased, ∀ r ∈ runs, ∀ s ∈ blank, r.Apart s := by
  decide +kernel

theorem inAny_eq_false_of_isBlank {classes : List (List Run)}
    (some : ∀ runs ∈ classes, runs ∈ caseIgnorable ++ cased) {c : Char} (h : isBlank c = true) :
    inAny classes c = false := by
  rw [Bool.eq_false_iff]
  intro inSome
  obtain ⟨runs, mem, holds⟩ := List.any_eq_true.1 inSome
  have apart := not_contains_of_apart (blank_apart_cased runs (some runs mem)) holds
  exact absurd h (Bool.eq_false_iff.1 apart)

theorem meetsCased_cons_of_isBlank {c : Char} (h : isBlank c = true) (rest : List Char) :
    meetsCased (c :: rest) = false := by
  have noIgnorable : isCaseIgnorable c = false :=
    inAny_eq_false_of_isBlank (fun _ mem => List.mem_append_left _ mem) h
  have noCased : isCased c = false :=
    inAny_eq_false_of_isBlank (fun _ mem => List.mem_append_right _ mem) h
  rw [meetsCased, noIgnorable, noCased]
  rfl

theorem meetsCased_of_all_blank {gap : List Char} (all : ∀ c ∈ gap, isBlank c = true) :
    meetsCased gap = false := by
  cases gap with
  | nil => rfl
  | cons c rest => exact meetsCased_cons_of_isBlank (all c List.mem_cons_self) rest

/-- What a part without the blanks at its ends cuts, it cuts with them. -/
theorem CutsAtSigma.of_trimmed {before lead part trail after : List Char}
    (leading : ∀ c ∈ lead, isBlank c = true) (trailing : ∀ c ∈ trail, isBlank c = true)
    (cuts : CutsAtSigma (before ++ lead) part (trail ++ after)) :
    CutsAtSigma before (lead ++ (part ++ trail)) after := by
  obtain ⟨p, s, rfl, differ⟩ := cuts
  have noneBefore : meetsCased lead.reverse = false :=
    meetsCased_of_all_blank fun c mem => leading c (List.mem_reverse.1 mem)
  have noneAfter := meetsCased_of_all_blank trailing
  refine ⟨lead ++ p, s ++ trail, by simp, ?_⟩
  have alone : endsWord (p.reverse ++ lead.reverse) (s ++ trail) = endsWord p.reverse s := by
    rw [endsWord, endsWord, meetsCased_append noneBefore, meetsCased_append noneAfter]
  rw [List.reverse_append, alone, List.append_assoc, List.append_assoc, ← List.reverse_append]
  exact differ

end ChatRules.Text
