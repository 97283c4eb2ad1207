import ChatRules.Proofs.Context.Write
import ChatRules.Proofs.Text.Appending
import ChatRules.Source.Builtin
import Mathlib.Data.List.Forall2

/-!
# Positive conditions

A positive condition looks for terms and phrases in the text fields of the character and puts
what it finds together by conjunctions and disjunctions. Such a condition cannot tell a text from
a longer one by finding less in it. So once it holds it goes on to hold when text is appended to
the fields, whatever the text.

Results:

* `Test.ok_judge_text`: what a positive test comes to on a text.
* `Test.ok_judge_of_appended`: a positive test that passes on a text passes after an append.
* `Condition.IsPositive.evaluate_of_appended`: what a positive condition comes to when the texts
  that it reads become longer.
* `Condition.IsPositive.passes_of_growsTo`: a positive condition that passes on a context passes
  on every context whose fields are longer by an append.
-/

namespace ChatRules

/-! ## Tests -/

/-- The items of a window over one text: the text, if the window is not empty. -/
theorem hitsInWindow_singleton (text : String) (terms : List String) (window : Nat)
    (mode : MatchMode) :
    hitsInWindow [text] terms window mode =
      if window ≠ 0 ∧ terms.any (fun t => hasTerm text t mode) = true then [0] else [] := by
  cases window with
  | zero => simp [hitsInWindow]
  | succ n =>
    have start : [text].length - (n + 1) = 0 := by simp
    have shown : n + 1 ≠ 0 := Nat.succ_ne_zero n
    simp only [hitsInWindow, start, List.zipIdx_singleton, List.drop_zero, List.filterMap_cons,
      List.filterMap_nil, ne_eq, shown, not_false_iff, true_and]
    split <;> simp_all

namespace Test

/-- Whether a test looks for terms or for a phrase. -/
def isPositive : Test → Bool
  | .regexHit _ _ => false
  | .numberCompare _ _ => false
  | _ => true

theorem fault?_of_isPositive {test : Test} (positive : test.isPositive = true) :
    test.fault? = none := by
  cases test with
  | regexHit pattern flags => cases positive
  | _ => rfl

/-- Whether a positive test passes on a text. -/
def passesOn (text : String) : Test → Bool
  | .termHit term mode => hasTerm text term mode
  | .anyTerms terms mode => terms.any fun t => hasTerm text t mode
  | .allTerms terms mode => !terms.isEmpty && terms.all fun t => hasTerm text t mode
  | .phraseHit phrase => !phrase.isEmpty && Text.holds text phrase
  | .countInWindow terms window least mode =>
    decide (least ≤ if window ≠ 0 ∧ terms.any (fun t => hasTerm text t mode) then 1 else 0)
  | .regexHit _ _ => false
  | .numberCompare _ _ => false

theorem ok_judge_text {test : Test} (positive : test.isPositive = true) (source text : String) :
    (test.judge source (some (.text text))).ok = test.passesOn text := by
  cases test with
  | termHit term mode =>
    simp only [judge, Option.map_some, Option.getD_some, ok_leaf, SourceValue.asText, passesOn]
    rfl
  | anyTerms terms mode =>
    simp only [judge, Option.map_some, Option.getD_some, ok_leaf, SourceValue.asText, passesOn]
    rw [Bool.eq_iff_iff]
    simp [List.filter_eq_nil_iff]
  | allTerms terms mode =>
    simp only [judge, Option.map_some, Option.getD_some, ok_leaf, SourceValue.asText, passesOn]
    rw [Bool.eq_iff_iff]
    simp [List.filter_eq_nil_iff]
  | phraseHit phrase =>
    simp only [judge, Option.map_some, Option.getD_some, ok_leaf, SourceValue.asText, passesOn]
    cases phrase.isEmpty <;> rfl
  | regexHit pattern flags => cases positive
  | countInWindow terms window least mode =>
    simp only [judge, Option.map_some, Option.getD_some, ok_leaf, SourceValue.asList, passesOn,
      hitsInWindow_singleton]
    rw [apply_ite List.length, List.length_singleton, List.length_nil]
  | numberCompare op value => cases positive

/-- What a positive test finds in a text it finds after an append. -/
theorem passesOn_appendText {test : Test} {base : String} (passes : test.passesOn base = true)
    (value : String) : test.passesOn (appendText base value) = true := by
  have any {terms : List String} {mode : MatchMode}
      (found : terms.any (fun t => hasTerm base t mode) = true) :
      terms.any (fun t => hasTerm (appendText base value) t mode) = true := by
    obtain ⟨t, mem, inBase⟩ := List.any_eq_true.1 found
    exact List.any_eq_true.2 ⟨t, mem, hasTerm_appendText inBase value⟩
  cases test with
  | termHit term mode => exact hasTerm_appendText passes value
  | anyTerms terms mode => exact any passes
  | allTerms terms mode =>
    obtain ⟨some, all⟩ := Bool.and_eq_true_iff.1 passes
    refine Bool.and_eq_true_iff.2 ⟨some, List.all_eq_true.2 fun t mem => ?_⟩
    exact hasTerm_appendText (List.all_eq_true.1 all t mem) value
  | phraseHit phrase =>
    obtain ⟨some, found⟩ := Bool.and_eq_true_iff.1 passes
    have shown : phrase ≠ "" := by simpa using some
    exact Bool.and_eq_true_iff.2 ⟨some, holds_appendText shown found value⟩
  | regexHit pattern flags => cases passes
  | countInWindow terms window least mode =>
    refine decide_eq_true (Nat.le_trans (of_decide_eq_true passes) ?_)
    split
    · rename_i hit
      rw [if_pos ⟨hit.1, any hit.2⟩]
    · exact Nat.zero_le _
  | numberCompare op value => cases passes

end Test

/-- What is read of a field before and after an append: nothing at all, or a text and a longer
    one. -/
inductive Appended : Option SourceValue → Option SourceValue → Prop
  | nothing : Appended none none
  | text (base value : String) :
    Appended (some (.text base)) (some (.text (appendText base value)))

/-- **A positive test that passes on a text passes after an append.** -/
theorem Test.ok_judge_of_appended {test : Test} (positive : test.isPositive = true)
    {value? later? : Option SourceValue} (more : Appended value? later?) {source : String}
    (passes : (test.judge source value?).ok = true) : (test.judge source later?).ok = true := by
  cases more with
  | nothing => exact passes
  | text base value =>
    rw [ok_judge_text positive] at passes ⊢
    exact passesOn_appendText passes value

/-! ## Conditions -/

/-- A condition of tests for terms and phrases in the text fields, put together by conjunctions
    and disjunctions. -/
inductive Condition.IsPositive : Condition → Prop
  | check (field : TextField) {test : Test} (positive : test.isPositive = true) :
    IsPositive (.check field.path test)
  | and {children : List Condition} (all : ∀ c ∈ children, IsPositive c) :
    IsPositive (.and children)
  | or {children : List Condition} (all : ∀ c ∈ children, IsPositive c) :
    IsPositive (.or children)

/-- A read that succeeds before an append succeeds after it, with a longer text. -/
def Traced.ReadsOn (before after : Traced (Option SourceValue)) : Prop :=
  ∀ value?, before.result = .ok value? →
    ∃ later?, after.result = .ok later? ∧ Appended value? later?

/-- A reason that passes before passes after. -/
def Reason.HoldsOn (before after : Reason) : Prop := before.ok = true → after.ok = true

namespace Reason

variable {before after : List Reason}

theorem HoldsOn.conjunction (all : List.Forall₂ HoldsOn before after) :
    HoldsOn (.conjunction before) (.conjunction after) := by
  have passes : before.all ok = true → after.all ok = true := by
    induction all with
    | nil => exact id
    | cons first _ ih =>
      intro passes
      obtain ⟨here, others⟩ := Bool.and_eq_true_iff.1 passes
      exact Bool.and_eq_true_iff.2 ⟨first here, ih others⟩
  exact passes

theorem HoldsOn.disjunction (all : List.Forall₂ HoldsOn before after) :
    HoldsOn (.disjunction before) (.disjunction after) := by
  have passes : before.any ok = true → after.any ok = true := by
    induction all with
    | nil => exact id
    | cons first _ ih =>
      intro passes
      rcases Bool.or_eq_true_iff.1 passes with here | others
      · exact Bool.or_eq_true_iff.2 (.inl (first here))
      · exact Bool.or_eq_true_iff.2 (.inr (ih others))
  exact passes

end Reason

namespace Condition

variable {read later : String → Traced (Option SourceValue)}

theorem evaluateAll_of_appended {children : List Condition}
    (parts : ∀ c ∈ children, ∀ {reason}, (c.evaluate read).result = .ok reason →
      ∃ after, (c.evaluate later).result = .ok after ∧ reason.HoldsOn after)
    {reasons : List Reason} (came : (evaluateAll read children).result = .ok reasons) :
    ∃ after, (evaluateAll later children).result = .ok after ∧
      List.Forall₂ Reason.HoldsOn reasons after := by
  induction children generalizing reasons with
  | nil =>
    cases came
    exact ⟨[], rfl, .nil⟩
  | cons c rest ih =>
    obtain ⟨first, others⟩ := List.forall_mem_cons.1 parts
    unfold evaluateAll at came ⊢
    obtain ⟨r, cameFirst, came⟩ := Traced.exists_of_result_bind came
    obtain ⟨rs, cameRest, came⟩ := Traced.exists_of_result_bind came
    cases came
    obtain ⟨after, here, holds⟩ := first cameFirst
    obtain ⟨afters, there, all⟩ := ih others cameRest
    rw [Traced.result_bind_ok here, Traced.result_bind_ok there]
    exact ⟨after :: afters, rfl, .cons holds all⟩

/-- **What a positive condition comes to after an append.** If all reads of fields go on to
    succeed, with longer texts, the condition comes to a reason, which passes if it passed. -/
theorem IsPositive.evaluate_of_appended {c : Condition} (positive : c.IsPositive)
    (reads : ∀ field : TextField, (read field.path).ReadsOn (later field.path))
    {reason : Reason} (came : (c.evaluate read).result = .ok reason) :
    ∃ after, (c.evaluate later).result = .ok after ∧ reason.HoldsOn after := by
  induction positive generalizing reason with
  | @check field test positive =>
    have accepted : ¬ test.fault?.isSome = true := by
      rw [Test.fault?_of_isPositive positive]
      exact Bool.false_ne_true
    unfold evaluate Test.evaluate at came ⊢
    rw [if_neg accepted] at came ⊢
    obtain ⟨value?, cameRead, came⟩ := Traced.exists_of_result_bind came
    cases came
    obtain ⟨later?, readLater, more⟩ := reads field value? cameRead
    rw [Traced.result_bind_ok readLater]
    exact ⟨_, rfl, Test.ok_judge_of_appended positive more⟩
  | and all ih =>
    unfold evaluate at came ⊢
    obtain ⟨reasons, cameAll, came⟩ := Traced.exists_of_result_bind came
    cases came
    obtain ⟨after, there, holds⟩ := evaluateAll_of_appended ih cameAll
    rw [Traced.result_bind_ok there]
    exact ⟨_, rfl, .conjunction holds⟩
  | or all ih =>
    unfold evaluate at came ⊢
    obtain ⟨reasons, cameAll, came⟩ := Traced.exists_of_result_bind came
    cases came
    obtain ⟨after, there, holds⟩ := evaluateAll_of_appended ih cameAll
    rw [Traced.result_bind_ok there]
    exact ⟨_, rfl, .disjunction holds⟩

end Condition

/-! ## Contexts -/

/-- A registry that has the standard sources of the text fields. -/
def Registry.HasTextFields (r : Registry) : Prop :=
  ∀ field : TextField, Dict.find? field.path r.sources = some field.source

/-- A context whose fields are those of another one, longer by an append. -/
def Context.GrowsTo (before after : Context) : Prop :=
  ∀ field, ∃ value, after.character.text field = appendText (before.character.text field) value

namespace Context

variable {ctx after : Context}

/-- A write that appends makes its field longer, or none. -/
theorem Change.growsTo {path value : String} (h : Change ctx path .append value after) :
    ctx.GrowsTo after := by
  intro field
  cases h with
  | field written leads =>
    by_cases same : field = written
    · subst same
      exact ⟨value, Character.text_setText_self _ _ _⟩
    · exact ⟨"", (Character.text_setText_of_ne _ same _).trans (appendText_nil _).symm⟩
  | memory key leads ne => exact ⟨"", (appendText_nil _).symm⟩
  | extra extra noField noKey free wellFormed done => exact ⟨"", (appendText_nil _).symm⟩

end Context

/-- The same access on another context. -/
def Access.on (a : Access) (ctx : Context) : Access :=
  { a with view := { a.view with context := ctx } }

namespace Access

variable {a : Access}

/-- A field gives its text to the modules that may read it, whatever else is in the context. -/
theorem result_read_path (standard : a.registry.HasTextFields) (ctx : Context)
    (field : TextField) :
    ((a.on ctx).read field.path).result =
      if a.registry.isAllowed a.moduleId field.path then
        .ok (some (.text (ctx.character.text field)))
      else if a.strict then .error (.source (.notAllowed a.moduleId field.path))
      else .ok none := by
  have resolved : a.registry.resolve a.moduleId field.path (a.on ctx).view =
      if a.registry.isAllowed a.moduleId field.path then .ok (.text (ctx.character.text field))
      else .error (.notAllowed a.moduleId field.path) := by
    unfold Registry.resolve
    rw [standard field]
    rfl
  have read : (a.on ctx).read field.path =
      a.registry.read a.moduleId (a.on ctx).view a.strict field.path := rfl
  rw [read, Registry.read, resolved]
  cases a.registry.isAllowed a.moduleId field.path <;> rfl

theorem readsOn (standard : a.registry.HasTextFields) {ctx after : Context}
    (grows : ctx.GrowsTo after) (field : TextField) :
    ((a.on ctx).read field.path).ReadsOn ((a.on after).read field.path) := by
  intro value? came
  rw [result_read_path standard] at came ⊢
  cases allowed : a.registry.isAllowed a.moduleId field.path with
  | true =>
    rw [allowed, if_pos rfl] at came
    cases came
    obtain ⟨value, longer⟩ := grows field
    exact ⟨_, by rw [if_pos rfl, longer], .text _ value⟩
  | false =>
    rw [allowed, if_neg Bool.false_ne_true] at came
    cases strict : a.strict with
    | true =>
      rw [strict, if_pos rfl] at came
      cases came
    | false =>
      rw [strict, if_neg Bool.false_ne_true] at came
      cases came
      exact ⟨none, rfl, .nothing⟩

end Access

/-- A condition comes to a reason that passes. -/
def Condition.Passes (c : Condition) (a : Access) : Prop :=
  ∃ reason, (c.evaluate a.read).result = .ok reason ∧ reason.ok = true

/-- **A positive condition that passes on a context passes on every context that it grows to.** -/
theorem Condition.IsPositive.passes_of_growsTo {c : Condition} (positive : c.IsPositive)
    {a : Access} (standard : a.registry.HasTextFields) {ctx after : Context}
    (passes : c.Passes (a.on ctx)) (grows : ctx.GrowsTo after) : c.Passes (a.on after) := by
  obtain ⟨reason, came, ok⟩ := passes
  obtain ⟨later, there, holds⟩ :=
    positive.evaluate_of_appended (a.readsOn standard grows) came
  exact ⟨later, there, holds ok⟩

end ChatRules
