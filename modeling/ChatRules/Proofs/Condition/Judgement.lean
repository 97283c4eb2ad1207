import ChatRules.Rule.Program

/-!
# Conditions without errors

If every read comes to a value or to none, but never to an error, a condition
comes to a reason that depends on nothing but what the reads gave.

Results:

* `result_evaluate`: then evaluating a condition is judging it.
* `Registry.result_read`, `Access.result_read`: reads that are not strict are of this kind.
-/

namespace ChatRules

namespace Test

variable [Regex.Engine]

/-- What a test comes to, given what the sources hold. -/
def judgeWith (value? : String → Option SourceValue) (source : String) (test : Test) : Reason :=
  test.judge source (if test.fault?.isSome then none else value? source)

theorem judgeWith_of_accepted {test : Test} (accepted : test.fault? = none)
    (value? : String → Option SourceValue) (source : String) :
    test.judgeWith value? source = test.judge source (value? source) := by
  rw [judgeWith, accepted, Option.isSome_none, if_neg Bool.false_ne_true]

theorem result_evaluate {read : String → Traced (Option SourceValue)}
    {value? : String → Option SourceValue} (lenient : ∀ s, (read s).result = .ok (value? s))
    (source : String) (test : Test) :
    (test.evaluate read source).result = .ok (test.judgeWith value? source) := by
  unfold evaluate judgeWith
  split
  · rfl
  · rw [Traced.result_bind_ok (lenient source)]
    rfl

end Test

namespace Condition

variable [Regex.Engine]

mutual

/-- What a condition comes to, given what the sources hold. -/
def judge (value? : String → Option SourceValue) : Condition → Reason
  | .check source test => test.judgeWith value? source
  | .and children => .conjunction (judgeAll value? children)
  | .or children => .disjunction (judgeAll value? children)
  | .not child => .negation (judgeOption value? child)
  | .invalid raw => .ofInvalid raw

/-- What conditions come to, one by one. -/
def judgeAll (value? : String → Option SourceValue) : List Condition → List Reason
  | [] => []
  | c :: rest => c.judge value? :: judgeAll value? rest

/-- What a condition that may be absent comes to. -/
def judgeOption (value? : String → Option SourceValue) : Option Condition → Option Reason
  | none => none
  | some c => some (c.judge value?)

end

variable {read : String → Traced (Option SourceValue)} {value? : String → Option SourceValue}

theorem result_evaluateAll {children : List Condition}
    (parts : ∀ c ∈ children, (c.evaluate read).result = .ok (c.judge value?)) :
    (evaluateAll read children).result = .ok (judgeAll value? children) := by
  induction children with
  | nil => rfl
  | cons c rest ih =>
    obtain ⟨first, others⟩ := List.forall_mem_cons.1 parts
    unfold evaluateAll
    rw [Traced.result_bind_ok first, Traced.result_bind_ok (ih others)]
    rfl

theorem result_evaluateOption {child : Option Condition}
    (part : ∀ c ∈ child, (c.evaluate read).result = .ok (c.judge value?)) :
    (evaluateOption read child).result = .ok (judgeOption value? child) := by
  cases child with
  | none => rfl
  | some c =>
    unfold evaluateOption
    rw [Traced.result_bind_ok (part c rfl)]
    rfl

/-- Where no read is an error, evaluating a condition comes to a reason. -/
theorem result_evaluate (lenient : ∀ s, (read s).result = .ok (value? s)) (c : Condition) :
    (c.evaluate read).result = .ok (c.judge value?) := by
  induction c using induction with
  | check source test => exact Test.result_evaluate lenient source test
  | and children ih =>
    unfold evaluate
    rw [Traced.result_bind_ok (result_evaluateAll ih)]
    rfl
  | or children ih =>
    unfold evaluate
    rw [Traced.result_bind_ok (result_evaluateAll ih)]
    rfl
  | not child ih =>
    unfold evaluate
    rw [Traced.result_bind_ok (result_evaluateOption ih)]
    rfl
  | invalid raw => rfl

end Condition

/-- The value of a source for a module, if it gives one. -/
def Registry.value? (r : Registry) (moduleId : String) (view : View) (sourceId : String) :
    Option SourceValue :=
  (r.resolve moduleId sourceId view).toOption

theorem Registry.result_read (r : Registry) (moduleId : String) (view : View)
    (sourceId : String) :
    (r.read moduleId view false sourceId).result = .ok (r.value? moduleId view sourceId) := by
  unfold read value?
  split <;> simp_all [Except.toOption]

theorem Access.result_read {a : Access} (lenient : a.strict = false) (sourceId : String) :
    (a.read sourceId).result = .ok (a.registry.value? a.moduleId a.view sourceId) := by
  rw [read, lenient]
  exact a.registry.result_read a.moduleId a.view sourceId

end ChatRules
