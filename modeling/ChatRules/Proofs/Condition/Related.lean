import ChatRules.Rule.Program

/-!
# Evaluations that are related

A condition uses its reads and nothing else, and puts them together by sequencing alone.
So whatever relates the reads of two evaluations, and is kept by sequencing, relates the
two evaluations.

Results:

* `evaluate_related`: what relates the reads of a condition relates its evaluations.
* `evaluate_congr`: a condition depends on what its sources give.
* `forall_mem_events_evaluate`: the events of a condition are those of its reads.
-/

namespace ChatRules

/-- A relation between computations that every value has to itself, and that two sequences
    of steps have if their steps have it. -/
structure Traced.Compatible (R : ∀ {α : Type}, Traced α → Traced α → Prop) : Prop where
  value : ∀ {α : Type} (a : α), R (pure a) (pure a)
  sequence : ∀ {α β : Type} {x y : Traced α} {f g : α → Traced β},
    R x y → (∀ a, R (f a) (g a)) → R (x >>= f) (y >>= g)

namespace Condition

mutual

/-- The sources that a condition reads. -/
def sources : Condition → List String
  | .check source _ => [source]
  | .and children => childrenSources children
  | .or children => childrenSources children
  | .not child => childSources child
  | .invalid _ => []

/-- The sources that conditions read. -/
def childrenSources : List Condition → List String
  | [] => []
  | c :: rest => c.sources ++ childrenSources rest

/-- The sources that a condition reads, if there is one. -/
def childSources : Option Condition → List String
  | none => []
  | some c => c.sources

end

variable {R : ∀ {α : Type}, Traced α → Traced α → Prop}
  {read read' : String → Traced (Option SourceValue)}

theorem evaluateAll_related (compatible : Traced.Compatible R) {children : List Condition}
    (parts : ∀ c ∈ children, (∀ s ∈ c.sources, R (read s) (read' s)) →
      R (c.evaluate read) (c.evaluate read'))
    (reads : ∀ s ∈ childrenSources children, R (read s) (read' s)) :
    R (evaluateAll read children) (evaluateAll read' children) := by
  induction children with
  | nil => exact compatible.value []
  | cons c rest ih =>
    obtain ⟨first, others⟩ := List.forall_mem_cons.1 parts
    have readsFirst : ∀ s ∈ c.sources, R (read s) (read' s) := fun s mem =>
      reads s (List.mem_append_left _ mem)
    have readsRest : ∀ s ∈ childrenSources rest, R (read s) (read' s) := fun s mem =>
      reads s (List.mem_append_right _ mem)
    unfold evaluateAll
    refine compatible.sequence (first readsFirst) fun r => ?_
    exact compatible.sequence (ih others readsRest) fun rs => compatible.value (r :: rs)

/-- What relates the reads of a condition relates its evaluations. -/
theorem evaluate_related (compatible : Traced.Compatible R) (c : Condition)
    (reads : ∀ s ∈ c.sources, R (read s) (read' s)) :
    R (c.evaluate read) (c.evaluate read') := by
  induction c using induction with
  | check source test =>
    have readsSource : R (read source) (read' source) :=
      reads source (List.mem_singleton_self source)
    unfold evaluate Test.evaluate
    split
    · exact compatible.value _
    · exact compatible.sequence readsSource fun value? => compatible.value _
  | and children ih =>
    unfold evaluate
    exact compatible.sequence (evaluateAll_related compatible ih reads)
      fun reasons => compatible.value _
  | or children ih =>
    unfold evaluate
    exact compatible.sequence (evaluateAll_related compatible ih reads)
      fun reasons => compatible.value _
  | not child ih =>
    cases child with
    | none => exact compatible.value _
    | some c =>
      have readsChild : ∀ s ∈ c.sources, R (read s) (read' s) := reads
      unfold evaluate evaluateOption
      refine compatible.sequence ?_ fun reason => compatible.value _
      exact compatible.sequence (ih c rfl readsChild) fun reason => compatible.value _
  | invalid raw => exact compatible.value _

/-- A condition comes to the same where its sources give the same. -/
theorem evaluate_congr (c : Condition) (same : ∀ s ∈ c.sources, read s = read' s) :
    c.evaluate read = c.evaluate read' := by
  refine evaluate_related (R := fun x y => x = y) ⟨fun _ => rfl, ?_⟩ c same
  intro α β x y f g eq eqs
  rw [eq, funext eqs]

/-- What holds of every event of the reads holds of every event of a condition. -/
theorem forall_mem_events_evaluate {P : TraceEvent → Prop} (c : Condition)
    (reads : ∀ s, ∀ event ∈ (read s).events, P event) :
    ∀ event ∈ (c.evaluate read).events, P event := by
  refine @evaluate_related (fun {_} x _ => ∀ event ∈ x.events, P event) read read ⟨?_, ?_⟩ c
    fun s _ => reads s
  · intro α a event mem
    cases mem
  · intro α β x _ f _ first second
    cases came : x.result with
    | ok a =>
      rw [Traced.events_bind_ok came]
      intro event mem
      rcases List.mem_append.1 mem with before | after
      · exact first event before
      · exact second a event after
    | error e =>
      rw [Traced.events_bind_error came]
      exact first

end Condition

/-- The sources that a rule reads. -/
def Rule.sources (r : Rule) : List String := Condition.childSources r.condition

end ChatRules
