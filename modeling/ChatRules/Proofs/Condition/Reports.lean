import ChatRules.Proofs.Condition.Judgement
import ChatRules.Proofs.Condition.Places
import ChatRules.Proofs.Text.Blanks
import ChatRules.Rule.Validation

/-!
# Warnings about tests

A warning about a test stands at one of its fields and foretells what the test comes to: a term
is found nowhere, the test never passes, or its count is always zero.

Results:

* `Test.reports_of_mem_findings`: where a test has a warning, and what is so then.
* `Test.judge_without`: a listed term that is found nowhere changes nothing.
* `Test.ok_judge_termHit`, `Test.ok_judge_phraseHit_empty`, `Test.ok_judge_allTerms_nil`,
  `Test.ok_judge_countInWindow`: tests that never pass.
* `Test.find?_judge_noWindow`: a count that is always zero.
-/

namespace ChatRules

/-- The term is found in no text. -/
def NeverFound (term : String) (mode : MatchMode) : Prop :=
  ∀ text, findTerm? text term mode = none

theorem NeverFound.hasTerm {term : String} {mode : MatchMode} (never : NeverFound term mode)
    (text : String) : hasTerm text term mode = false := by
  rw [ChatRules.hasTerm, never text, Option.isSome_none]

/-- The codes of warnings about terms that are found nowhere. -/
def termCodes : List String := ["W007", "W003"]

namespace Test

/-! ## What warnings say about a test -/

/-- The terms of a test that has a list of them. -/
def terms? : Test → Option (List String × MatchMode)
  | .anyTerms terms mode => some (terms, mode)
  | .allTerms terms mode => some (terms, mode)
  | .countInWindow terms _ _ mode => some (terms, mode)
  | _ => none

/-- A test has a warning with a code at one of its fields, and what the warning says is so. -/
inductive Reports : Test → (field code : String) → Prop where
  | term {term : String} {mode : MatchMode} {code : String} (known : code ∈ termCodes)
    (never : NeverFound term mode) : Reports (.termHit term mode) "term" code
  | listed {test : Test} {terms : List String} {mode : MatchMode} {i : Nat} {term code : String}
    (has : test.terms? = some (terms, mode)) (there : terms[i]? = some term)
    (known : code ∈ termCodes) (never : NeverFound term mode) :
    Reports test (indexed "terms" i) code
  | phrase : Reports (.phraseHit "") "phrase" "W007"
  | noTerms {mode : MatchMode} : Reports (.allTerms [] mode) "terms" "W008"
  | noWindow {terms : List String} {least : Nat} {mode : MatchMode} :
    Reports (.countInWindow terms 0 least mode) "window" "W006"
  | tooMany {terms : List String} {window least : Nat} {mode : MatchMode} (lt : window < least) :
    Reports (.countInWindow terms window least mode) "min" "W004"

namespace Reports

variable {test : Test} {field code : String} {terms : List String} {mode : MatchMode}

theorem noDot (h : test.Reports field code) : '.' ∉ field.toList := by
  cases h with
  | listed => exact not_mem_indexed (by decide) _
  | _ => decide

theorem code_ne (h : test.Reports field code) : code ≠ "W009" := by
  cases h with
  | term known | listed _ _ known =>
    rintro rfl
    exact absurd known (by decide)
  | _ => decide

theorem never {term : String} (h : (termHit term mode).Reports field code) :
    NeverFound term mode := by
  cases h with
  | term _ never => exact never
  | listed has => cases has

theorem never_listed {i : Nat} {term : String} (h : test.Reports field code)
    (known : code ∈ termCodes) (place : field = indexed "terms" i)
    (has : test.terms? = some (terms, mode)) (there : terms[i]? = some term) :
    NeverFound term mode := by
  cases h with
  | listed has' there' _ never =>
    cases has.symm.trans has'
    cases indexed_injective place
    cases there.symm.trans there'
    exact never
  | term | phrase => cases has
  | noTerms | noWindow | tooMany => exact absurd known (by decide)

theorem phrase_eq {phrase : String} (h : (phraseHit phrase).Reports field code) :
    phrase = "" := by
  cases h with
  | phrase => rfl
  | listed has => cases has

theorem terms_eq (h : (allTerms terms mode).Reports field code) (eq : code = "W008") :
    terms = [] := by
  cases h with
  | noTerms => rfl
  | listed _ _ known => exact absurd (eq ▸ known : "W008" ∈ termCodes) (by decide)

theorem window_eq {window least : Nat}
    (h : (countInWindow terms window least mode).Reports field code) (eq : code = "W006") :
    window = 0 := by
  cases h with
  | noWindow => rfl
  | tooMany => exact absurd eq (by decide)
  | listed _ _ known => exact absurd (eq ▸ known : "W006" ∈ termCodes) (by decide)

theorem window_lt {window least : Nat}
    (h : (countInWindow terms window least mode).Reports field code) (eq : code = "W004") :
    window < least := by
  cases h with
  | tooMany lt => exact lt
  | noWindow => exact absurd eq (by decide)
  | listed _ _ known => exact absurd (eq ▸ known : "W004" ∈ termCodes) (by decide)

end Reports

/-- A term with a warning is found nowhere. -/
theorem neverFound_of_mem_termFindings {path term : String} {mode : MatchMode} {f : Finding}
    (mem : f ∈ termFindings path term mode) :
    f.path = path ∧ f.code ∈ termCodes ∧ NeverFound term mode := by
  unfold termFindings at mem
  split at mem
  · rename_i blank
    rw [List.mem_singleton.1 mem]
    exact ⟨rfl, by simp [termCodes], fun text => findTerm?_blank blank text mode⟩
  · split at mem
    · rename_i several
      rw [Bool.and_eq_true, decide_eq_true_eq, decide_eq_true_eq] at several
      obtain ⟨rfl, several⟩ := several
      rw [List.mem_singleton.1 mem]
      exact ⟨rfl, by simp [termCodes], findTerm?_several_words several⟩
    · cases mem

theorem field_spelled (path field : String) {label : String} (eq : label = "." ++ field) :
    path ++ label = path ++ "." ++ field := by
  rw [eq, String.append_assoc]

theorem listed_spelled (path : String) (i : Nat) :
    path ++ ".terms[" ++ toString i ++ "]" = path ++ "." ++ indexed "terms" i := by
  have label : ".terms[" = "." ++ ("terms" ++ "[") := rfl
  simp only [indexed, label, String.append_assoc]

theorem reports_of_mem_termsFindings {path : String} {test : Test} {terms : List String}
    {mode : MatchMode} (has : test.terms? = some (terms, mode)) {f : Finding}
    (mem : f ∈ termsFindings path terms mode) :
    ∃ field, f.path = path ++ "." ++ field ∧ test.Reports field f.code := by
  obtain ⟨⟨term, i⟩, inTerms, inTerm⟩ := List.mem_flatMap.1 mem
  have there : terms[i]? = some term := List.mem_zipIdx_iff_getElem?.1 inTerms
  obtain ⟨place, known, never⟩ := neverFound_of_mem_termFindings inTerm
  exact ⟨indexed "terms" i, place.trans (listed_spelled path i), .listed has there known never⟩

/-- Every warning about a test is at one of its fields, and what it says is so. -/
theorem reports_of_mem_findings {path : String} {test : Test} {f : Finding}
    (mem : f ∈ test.findings path) (noFault : f.code ≠ "E007") :
    ∃ field, f.path = path ++ "." ++ field ∧ test.Reports field f.code := by
  cases test with
  | termHit term mode =>
    obtain ⟨place, known, never⟩ := neverFound_of_mem_termFindings mem
    exact ⟨"term", place.trans (field_spelled path "term" rfl), .term known never⟩
  | anyTerms terms mode => exact reports_of_mem_termsFindings rfl mem
  | allTerms terms mode =>
    rcases List.mem_append.1 mem with noTerms | listed
    · split at noTerms
      · rename_i empty
        rw [List.mem_singleton.1 noTerms, List.isEmpty_iff.1 empty]
        exact ⟨"terms", field_spelled path "terms" rfl, .noTerms⟩
      · cases noTerms
    · exact reports_of_mem_termsFindings rfl listed
  | phraseHit phrase =>
    simp only [findings] at mem
    split at mem
    · rename_i empty
      rw [List.mem_singleton.1 mem, String.isEmpty_iff.1 empty]
      exact ⟨"phrase", field_spelled path "phrase" rfl, .phrase⟩
    · cases mem
  | regexHit pattern flags =>
    simp only [findings] at mem
    split at mem
    · rw [List.mem_singleton.1 mem] at noFault
      exact absurd rfl noFault
    · cases mem
  | countInWindow terms window least mode =>
    rcases List.mem_append.1 mem with size | listed
    · split at size
      · rename_i zero
        rw [List.mem_singleton.1 size, zero]
        exact ⟨"window", field_spelled path "window" rfl, .noWindow⟩
      · split at size
        · rename_i lt
          rw [List.mem_singleton.1 size]
          exact ⟨"min", field_spelled path "min" rfl, .tooMany lt⟩
        · cases size
    · exact reports_of_mem_termsFindings rfl listed
  | numberCompare op value => cases mem

/-! ## What the warnings foretell -/

/-- The test without one of its listed terms. -/
def without (i : Nat) : Test → Test
  | .anyTerms terms mode => .anyTerms (terms.eraseIdx i) mode
  | .allTerms terms mode => .allTerms (terms.eraseIdx i) mode
  | .countInWindow terms window least mode => .countInWindow (terms.eraseIdx i) window least mode
  | test => test

end Test

theorem exists_split_of_getElem? {α : Type} {items : List α} {i : Nat} {a : α}
    (there : items[i]? = some a) :
    ∃ before after, items = before ++ a :: after ∧ items.eraseIdx i = before ++ after := by
  induction items generalizing i with
  | nil => cases there
  | cons b rest ih =>
    cases i with
    | zero =>
      cases there
      exact ⟨[], rest, rfl, rfl⟩
    | succ i =>
      obtain ⟨before, after, eq, erased⟩ := ih there
      refine ⟨b :: before, after, ?_, ?_⟩
      · rw [eq, List.cons_append]
      · rw [List.eraseIdx_cons_succ, erased, List.cons_append]

section

variable {terms : List String} {mode : MatchMode} {i : Nat} {term : String}
  (there : terms[i]? = some term) (never : NeverFound term mode)
include there never

/-- No term is picked out of a text because of a term that is found nowhere. -/
theorem filter_hasTerm_eraseIdx (text : String) :
    (terms.eraseIdx i).filter (fun t => hasTerm text t mode) =
      terms.filter fun t => hasTerm text t mode := by
  obtain ⟨before, after, eq, erased⟩ := exists_split_of_getElem? there
  rw [erased, eq, List.filter_append, List.filter_append, List.filter_cons_of_neg]
  rw [never.hasTerm text]
  decide

theorem hitsInWindow_eraseIdx (items : List String) (window : Nat) :
    hitsInWindow items (terms.eraseIdx i) window mode = hitsInWindow items terms window mode := by
  have same (text : String) : (terms.eraseIdx i).any (fun t => hasTerm text t mode) =
      terms.any fun t => hasTerm text t mode := by
    obtain ⟨before, after, eq, erased⟩ := exists_split_of_getElem? there
    rw [erased, eq, List.any_append, List.any_append, List.any_cons, never.hasTerm text,
      Bool.false_or]
  unfold hitsInWindow
  simp only [same]

end

theorem length_hitsInWindow_le (items terms : List String) (window : Nat) (mode : MatchMode) :
    (hitsInWindow items terms window mode).length ≤ window := by
  unfold hitsInWindow
  refine (List.length_filterMap_le _ _).trans ?_
  rw [List.length_drop, List.length_zipIdx]
  omega

namespace Test

/-- To find a detail of a reason that may say that the value was missing. -/
theorem find?_details {details : List (String × Json)} {value? : Option SourceValue}
    {source : Json} {key : String} (kind : ReasonKind) (ok : Bool)
    (unique : ("source" :: (details.map (·.1) ++ ["missing"])).Nodup) (ne : key ≠ "missing")
    (notSource : key ≠ "source") :
    Dict.find? key
      (Reason.leaf kind ok (("source", source) :: (details ++ missingDetail value?))).details =
      Dict.find? key details := by
  have keys : ((("source", source) :: (details ++ missingDetail value?)).map (·.1)).Nodup := by
    refine unique.sublist ?_
    rw [List.map_cons, List.map_append]
    refine List.Sublist.cons_cons _ (List.Sublist.append_left ?_ _)
    unfold missingDetail
    split <;> simp
  have noMark : Dict.find? key (missingDetail value?) = none := by
    unfold missingDetail
    split
    · simp [Dict.find?, Ne.symm ne]
    · rfl
  have found : Dict.find? key
      (Reason.leaf kind ok (("source", source) :: (details ++ missingDetail value?))).details =
      Dict.find? key (("source", source) :: (details ++ missingDetail value?)) :=
    Dict.find?_ofList keys key
  rw [found, Dict.find?, if_neg (Ne.symm notSource), Dict.find?_append, noMark, Option.or_none]

/-- The details of what was found. -/
def matchKeys : List String := ["matched", "count", "hits"]

theorem matchKeys_apart : ∀ key ∈ matchKeys, key ≠ "missing" ∧ key ≠ "source" := by decide

/-- What becomes of a test if one of its listed terms is found nowhere: all terms are not found,
    and otherwise nothing changes. -/
theorem judge_without {test : Test} {terms : List String} {mode : MatchMode} {i : Nat}
    {term : String} (has : test.terms? = some (terms, mode)) (there : terms[i]? = some term)
    (never : NeverFound term mode) (source : String) (value? : Option SourceValue) :
    (test.kind = .allTerms → (test.judge source value?).ok = false) ∧
      (test.kind ≠ .allTerms →
        (test.judge source value?).ok = ((test.without i).judge source value?).ok) ∧
      ∀ key ∈ matchKeys, Dict.find? key (test.judge source value?).details =
        Dict.find? key ((test.without i).judge source value?).details := by
  cases test with
  | anyTerms terms' mode' =>
    cases has
    have same := filter_hasTerm_eraseIdx there never
    have other : ReasonKind.anyTerms ≠ .allTerms := by decide
    refine ⟨fun eq => absurd eq other, fun _ => ?_, fun key mem => ?_⟩
    · simp only [without, judge, same]
      rfl
    · obtain ⟨notMissing, notSource⟩ := matchKeys_apart key mem
      simp only [without, judge, same]
      rw [find?_details _ _ (by simp) notMissing notSource,
        find?_details _ _ (by simp) notMissing notSource]
      have notTerms : key ≠ "terms" := by
        rintro rfl
        exact absurd mem (by decide)
      simp only [Dict.find?, if_neg (Ne.symm notTerms)]
  | allTerms terms' mode' =>
    cases has
    have same := filter_hasTerm_eraseIdx there never
    refine ⟨fun _ => ?_, fun ne => absurd rfl ne, fun key mem => ?_⟩
    · have left (text : String) :
          (terms.filter fun t => !hasTerm text t mode).isEmpty = false := by
        have unmatched : term ∈ terms.filter fun t => !hasTerm text t mode := by
          rw [List.mem_filter, never.hasTerm text]
          exact ⟨List.mem_of_getElem? there, rfl⟩
        exact List.isEmpty_eq_false_iff.2 (List.ne_nil_of_mem unmatched)
      simp only [judge, left, Bool.and_false]
      rfl
    · obtain ⟨notMissing, notSource⟩ := matchKeys_apart key mem
      simp only [without, judge, same]
      rw [find?_details _ _ (by simp) notMissing notSource,
        find?_details _ _ (by simp) notMissing notSource]
      have notUnmatched : key ≠ "unmatched" := by
        rintro rfl
        exact absurd mem (by decide)
      simp only [Dict.find?, if_neg (Ne.symm notUnmatched)]
  | countInWindow terms' window least mode' =>
    cases has
    have same : ((Test.countInWindow terms window least mode).without i).judge source value? =
        (Test.countInWindow terms window least mode).judge source value? := by
      simp only [without, judge, hitsInWindow_eraseIdx there never]
      rfl
    have other : ReasonKind.countInWindow ≠ .allTerms := by decide
    rw [same]
    exact ⟨fun eq => absurd eq other, fun _ => rfl, fun _ _ => rfl⟩
  | _ => cases has

theorem ok_judge_termHit {term : String} {mode : MatchMode} (never : NeverFound term mode)
    (source : String) (value? : Option SourceValue) :
    ((termHit term mode).judge source value?).ok = false := by
  simp only [judge, never _]
  rfl

theorem ok_judge_phraseHit_empty (source : String) (value? : Option SourceValue) :
    ((phraseHit "").judge source value?).ok = false := rfl

theorem ok_judge_allTerms_nil (mode : MatchMode) (source : String)
    (value? : Option SourceValue) : ((allTerms [] mode).judge source value?).ok = false := rfl

/-- There are no more hits than messages in the window. -/
theorem ok_judge_countInWindow {window least : Nat} (lt : window < least) (terms : List String)
    (mode : MatchMode) (source : String) (value? : Option SourceValue) :
    ((countInWindow terms window least mode).judge source value?).ok = false := by
  have few (items : List String) : ¬least ≤ (hitsInWindow items terms window mode).length := by
    have le := length_hitsInWindow_le items terms window mode
    omega
  simp only [judge, decide_eq_false (few _)]
  rfl

/-- Nothing is counted in a window of none. -/
theorem find?_judge_noWindow (terms : List String) (least : Nat) (mode : MatchMode)
    (source : String) (value? : Option SourceValue) :
    let details := ((countInWindow terms 0 least mode).judge source value?).details
    Dict.find? "count" details = some (.ofNat 0) ∧
      Dict.find? "hits" details = some (.array []) := by
  have none (items : List String) : hitsInWindow items terms 0 mode = [] :=
    List.eq_nil_of_length_eq_zero
      (Nat.eq_zero_of_le_zero (length_hitsInWindow_le items terms 0 mode))
  simp only [judge, none]
  constructor
  · rw [find?_details _ _ (by simp) (by decide) (by decide)]
    simp [Dict.find?]
  · rw [find?_details _ _ (by simp) (by decide) (by decide)]
    simp [Dict.find?]

end Test

end ChatRules
