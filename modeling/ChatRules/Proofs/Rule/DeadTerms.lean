import ChatRules.Proofs.Rule.Warnings
import ChatRules.Proofs.Text.Terms

/-!
# Terms that are found nowhere

Validation reports a blank term, and a term of several words where one token is wanted. It takes
for words what blanks divide, while tokens end at every character that cannot stand in one. So
whatever it reports is found nowhere, but not the other way round: a term with a hyphen is one
word and no token, and nothing is reported.

Results:

* `Rule.warns_of_blank`, `Rule.neverFound_of_warns`: blank terms are reported, and what is
  reported is found nowhere.
* `found_iff_unreported`: which terms that have to be a token are found in some text.
* `unreported_never_found`: a term that is neither found nor reported.
-/

namespace ChatRules

/-! ## Terms of tests -/

namespace Test

/-- A test looks for a term, which is at a field of it. -/
inductive LooksFor : Test → (field term : String) → MatchMode → Prop
  | term {term : String} {mode : MatchMode} : LooksFor (.termHit term mode) "term" term mode
  | listed {test : Test} {terms : List String} {mode : MatchMode} {i : Nat} {term : String}
    (has : test.terms? = some (terms, mode)) (there : terms[i]? = some term) :
    LooksFor test (indexed "terms" i) term mode

variable {test : Test} {field term : String} {mode : MatchMode}

theorem LooksFor.noDot (looks : test.LooksFor field term mode) : '.' ∉ field.toList := by
  cases looks with
  | term => decide
  | listed => exact not_mem_indexed (by decide) _

theorem LooksFor.never (looks : test.LooksFor field term mode) {code : String}
    (known : code ∈ termCodes) (reports : test.Reports field code) : NeverFound term mode := by
  cases looks with
  | term => exact reports.never
  | listed has there => exact reports.never_listed known rfl has there

theorem termsFindings_subset {terms : List String} (has : test.terms? = some (terms, mode))
    (path : String) : termsFindings path terms mode ⊆ test.findings path := by
  cases test with
  | anyTerms => cases has; exact fun _ mem => mem
  | allTerms | countInWindow => cases has; exact fun _ mem => List.mem_append_right _ mem
  | termHit | phraseHit | regexHit | numberCompare => cases has

/-- What is suspicious about a term that a test looks for is found in the test. -/
theorem LooksFor.termFindings_subset (looks : test.LooksFor field term mode) (path : String) :
    termFindings (path ++ "." ++ field) term mode ⊆ test.findings path := by
  intro f mem
  cases looks with
  | term =>
    rw [← field_spelled path "term" rfl] at mem
    exact mem
  | @listed _ terms _ i _ has there =>
    rw [← listed_spelled] at mem
    have inTerms : (term, i) ∈ terms.zipIdx := List.mem_zipIdx_iff_getElem?.2 there
    exact termsFindings_subset has path (List.mem_flatMap.2 ⟨_, inTerms, mem⟩)

end Test

/-! ## Reports about terms -/

namespace Rule

variable {r : Rule} {n : String × Condition}

theorem warns_of_mem_nodeFindings (mem : n ∈ r.nodes) {f : Finding}
    (inNode : f ∈ n.2.nodeFindings n.1) (warning : f.severity = .warning) {codes : List String}
    (known : f.code ∈ codes) : r.Warns codes f.path := by
  cases found : r.condition with
  | none => simp [nodes, found] at mem
  | some c =>
    have inRule := mem_findings_of_mem_conditionFindings
      ((mem_conditionFindings_iff found).2 ⟨n, mem, inNode⟩)
    refine ⟨f.toIssue r.id, List.mem_filter.2 ⟨List.mem_map_of_mem inRule, ?_⟩, known, rfl⟩
    rw [Finding.toIssue, warning]
    rfl

variable {source field term : String} {test : Test} {mode : MatchMode}

/-- A blank term is reported. -/
theorem warns_of_blank (mem : n ∈ r.nodes) (isTest : n.2 = .check source test)
    (looks : test.LooksFor field term mode) (blank : Text.isAllBlank term = true) :
    r.Warns termCodes (n.1 ++ "." ++ field) := by
  let f : Finding := .warning "W007" (n.1 ++ "." ++ field) "empty term never matches"
  have inTerm : f ∈ Test.termFindings (n.1 ++ "." ++ field) term mode := by
    rw [Test.termFindings, if_pos blank]
    exact List.mem_cons_self
  have inNode : f ∈ n.2.nodeFindings n.1 := by
    rw [isTest]
    exact looks.termFindings_subset n.1 inTerm
  exact warns_of_mem_nodeFindings mem inNode rfl (by decide : "W007" ∈ termCodes)

/-- A term that is reported is found nowhere. -/
theorem neverFound_of_warns (mem : n ∈ r.nodes) (isTest : n.2 = .check source test)
    (looks : test.LooksFor field term mode) (warns : r.Warns termCodes (n.1 ++ "." ++ field)) :
    NeverFound term mode := by
  obtain ⟨code, known, reports⟩ :=
    reports_of_warns mem isTest looks.noDot (by decide) warns rfl
  exact looks.never known reports

end Rule

/-- **When a term that has to be a token is found in some text:** exactly if it is not reported
    and spells a token. -/
theorem found_iff_unreported {r : Rule} {n : String × Condition} (mem : n ∈ r.nodes)
    {source field term : String} {test : Test} (isTest : n.2 = .check source test)
    (looks : test.LooksFor field term .word) :
    (∃ text, hasTerm text term .word = true) ↔
      ¬ r.Warns termCodes (n.1 ++ "." ++ field) ∧
        Text.SpellsToken (Text.lower (Text.trim term)).toList := by
  constructor
  · intro live
    refine ⟨fun warns => ?_, ((exists_hasTerm_word_iff term).1 live).2⟩
    obtain ⟨text, found⟩ := live
    rw [(r.neverFound_of_warns mem isTest looks warns).hasTerm text] at found
    cases found
  · rintro ⟨unreported, spells⟩
    have shown : Text.isAllBlank term = false :=
      Bool.eq_false_iff.2 fun blank => unreported (r.warns_of_blank mem isTest looks blank)
    exact (exists_hasTerm_word_iff term).2 ⟨shown, spells⟩

/-- Of two terms the one with a dotted I is found, and the one of two words is not. -/
theorem found_iff_unreported_of_two :
    let test : Test := .anyTerms [" İzmir", "ice cream"] .word
    let r : Rule := { id := "a", condition := some (.check "lastUser.raw" test) }
    (∃ text, hasTerm text " İzmir" .word = true) ∧ NeverFound "ice cream" .word ∧
      ¬ r.Warns termCodes "when.terms[0]" ∧ r.Warns termCodes "when.terms[1]" := by
  intro test r
  have mem : ("when", Condition.check "lastUser.raw" test) ∈ r.nodes := List.mem_singleton_self _
  have silent : ¬ r.Warns termCodes "when.terms[0]" := by decide +kernel
  have warns : r.Warns termCodes "when.terms[1]" := by decide +kernel
  have lower : (Text.lower (Text.trim " İzmir")).toList = ['i', '\u0307', 'z', 'm', 'i', 'r'] := by
    decide +kernel
  have spells : Text.SpellsToken ['i', '\u0307', 'z', 'm', 'i', 'r'] :=
    .dotted (.char (by decide +kernel) (.char (by decide +kernel) (.char (by decide +kernel)
      (.char (by decide +kernel) .nil))))
  have first := found_iff_unreported mem rfl (.listed (i := 0) rfl rfl)
  have second := found_iff_unreported mem rfl (.listed (i := 1) rfl rfl)
  refine ⟨first.2 ⟨silent, lower ▸ spells⟩, fun text => ?_, silent, warns⟩
  by_contra found
  exact (second.1 ⟨text, Option.isSome_iff_ne_none.2 found⟩).1 warns

/-- A hyphen divides tokens and no words. -/
theorem unreported_never_found :
    let r : Rule :=
      { id := "a", condition := some (.check "lastUser.raw" (.termHit "ice-cream" .word)) }
    r.validate.hasCode "W003" = false ∧ r.validate.hasCode "W007" = false ∧
      NeverFound "ice-cream" .word := by
  refine ⟨by decide +kernel, by decide +kernel, fun text => ?_⟩
  by_contra found
  have spells := ((exists_hasTerm_word_iff "ice-cream").1
    ⟨text, Option.isSome_iff_ne_none.2 found⟩).2
  have hyphen : '-' ∈ (Text.lower (Text.trim "ice-cream")).toList := by decide +kernel
  rcases spells.mem hyphen with kept | dot
  · exact absurd kept (by decide +kernel)
  · exact absurd dot (by decide)

end ChatRules
