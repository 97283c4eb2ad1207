import ChatRules.Chain.Gate
import ChatRules.Proofs.Text.Terms

/-!
# Finding what stands verbatim

A term that may stand anywhere in a text, and the gates that look for a text in a field of the
character or in the memory, compare lower case with lower case. What stands verbatim in a text
is found by them wherever it cuts no word at a capital sigma. The lower case of such a sigma is
one letter in the text and another one in the term, and the term is missed.

Results:

* `hasTerm_contains_verbatim`, `Chain.holdsLower_verbatim`: a term, and a text that a gate looks
  for.
* `verbatim_found`: what stands verbatim in a text is found, also by the gates.
* `verbatim_missed`: the first two letters of a word of three are not.
-/

namespace ChatRules

theorem hasTerm_contains_verbatim {before term after : String}
    (whole : ¬ Text.CutsAtSigma before.toList term.toList after.toList)
    (shown : Text.isAllBlank term = false) :
    hasTerm (before ++ term ++ after) term .contains = true := by
  obtain ⟨lead, trail, eq, leading, trailing⟩ := Text.exists_trimChars term.toList
  have core : ¬ Text.CutsAtSigma (before.toList ++ lead) (Text.trimChars term.toList)
      (trail ++ after.toList) := by
    intro cuts
    have cutsAll := cuts.of_trimmed leading trailing
    rw [← eq] at cutsAll
    exact whole cutsAll
  refine hasTerm_contains_iff.2 ⟨shown, ?_⟩
  have text : (before ++ term ++ after).toList =
      (before.toList ++ lead) ++ (Text.trimChars term.toList ++ (trail ++ after.toList)) := by
    have spelled := congrArg (· ++ after.toList) eq
    simp only [List.append_assoc] at spelled
    rw [String.toList_append, String.toList_append, List.append_assoc, spelled, List.append_assoc]
  rw [text]
  exact Text.lowerChars_isInfix core

namespace Chain

theorem holdsLower_verbatim {before part after : String}
    (whole : ¬ Text.CutsAtSigma before.toList part.toList after.toList) :
    holdsLower (before ++ part ++ after) part = true := by
  refine Text.holds_iff.2 ?_
  rw [Text.lower, Text.lower, String.toList_ofList, String.toList_ofList, String.toList_append,
    String.toList_append, List.append_assoc]
  exact Text.lowerChars_isInfix whole

end Chain

/-- **What stands verbatim in a text is found in it,** if it cuts no word at a capital sigma. A
    term is found there unless it is blank, and the gates about the personality, the scenario and
    a key of the memory pass where the text stands there. -/
theorem verbatim_found {σ : Type} [RandomSource σ] {before term after : String}
    (whole : ¬ Text.CutsAtSigma before.toList term.toList after.toList) :
    let text := before ++ term ++ after
    (hasTerm text term .contains = true ↔ Text.isAllBlank term = false) ∧
    ∀ (v : Chain.GateView) (depth : Nat) (negated : Bool) (s : Chain.GateState σ),
      (v.context.character.personality = text →
        (Chain.passGate v depth negated (.personalityContains term) s).1 = !negated) ∧
      (v.context.character.scenario = text →
        (Chain.passGate v depth negated (.scenarioContains term) s).1 = !negated) ∧
      ∀ key, Chain.memoryText v.context key = text →
        (Chain.passGate v depth negated (.memoryContains key term) s).1 = !negated := by
  intro text
  have held : Chain.holdsLower text term = true := Chain.holdsLower_verbatim whole
  refine ⟨⟨fun found => (hasTerm_contains_iff.1 found).1, hasTerm_contains_verbatim whole⟩,
    fun v depth negated s => ⟨?_, ?_, ?_⟩⟩
  · intro stands
    simp only [Chain.passGate, Chain.decideGate, stands, held, Bool.true_bne]
  · intro stands
    simp only [Chain.passGate, Chain.decideGate, stands, held, Bool.true_bne]
  · intro key stands
    simp only [Chain.passGate, Chain.decideGate, stands, held, Bool.true_bne]

/-- A whole word with sigmas inside and at its end, between a blank and a mark. -/
theorem verbatim_found_of_word :
    let text := "Ο ΟΔΥΣΣΕΑΣ!"
    let v : Chain.GateView := { context := { character := { personality := text } }, window := 10 }
    text = "Ο " ++ "ΟΔΥΣΣΕΑΣ" ++ "!" ∧ hasTerm text "ΟΔΥΣΣΕΑΣ" .contains = true ∧
      ∀ s : Chain.GateState Generator,
        (Chain.passGate v 0 false (.personalityContains "ΟΔΥΣΣΕΑΣ") s).1 = true := by
  intro text v
  have whole : ¬ Text.CutsAtSigma "Ο ".toList "ΟΔΥΣΣΕΑΣ".toList "!".toList :=
    Text.not_cutsAtSigma_of_apart (by decide +kernel) (by decide +kernel) _
  have spelled : text = "Ο " ++ "ΟΔΥΣΣΕΑΣ" ++ "!" := by decide
  obtain ⟨term, gates⟩ := @verbatim_found Generator _ _ _ _ whole
  rw [← spelled] at term gates
  exact ⟨spelled, term.2 (by decide +kernel), fun s => (gates v 0 false s).1 rfl⟩

/-- The sigma ends the term and not the word that the term is cut out of. -/
theorem verbatim_missed :
    let text := "ΑΣΑ"
    let v : Chain.GateView :=
      { context := { character :=
          { personality := text, scenario := text, memory := [("name", .string text)] } }
        window := 10 }
    let s : Chain.GateState Generator := { generator := .ofWords [] }
    text = "" ++ "ΑΣ" ++ "Α" ∧ Text.isAllBlank "ΑΣ" = false ∧
      findTerm? text "ΑΣ" .contains = none ∧
      (Chain.passGate v 0 false (.personalityContains "ΑΣ") s).1 = false ∧
      (Chain.passGate v 0 false (.scenarioContains "ΑΣ") s).1 = false ∧
      (Chain.passGate v 0 false (.memoryContains "name" "ΑΣ") s).1 = false := by
  decide +kernel

end ChatRules
