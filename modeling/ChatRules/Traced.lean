import ChatRules.Error
import ChatRules.Trace

/-!
# Computations that leave a trace

A computation appends events and comes to a value or to an error. The events
that were appended before an error stay.

Results:

* `events_bind_ok`, `events_bind_error`: the events of two steps are those of the
  first, followed by those of the second if the first came to a value.
-/

namespace ChatRules

/-- A computation: its events, and what it came to. -/
structure Traced (α : Type) where
  events : List TraceEvent
  result : Except Error α

namespace Traced

variable {α β : Type}

/-- A value without events. -/
protected def pure (a : α) : Traced α := ⟨[], .ok a⟩

/-- One computation after the other. -/
protected def bind (x : Traced α) (f : α → Traced β) : Traced β :=
  match x.result with
  | .ok a => ⟨x.events ++ (f a).events, (f a).result⟩
  | .error e => ⟨x.events, .error e⟩

instance : Monad Traced where
  pure := Traced.pure
  bind := Traced.bind

/-- An error without events. -/
def fail (e : Error) : Traced α := ⟨[], .error e⟩

/-- An event. -/
def emit (event : TraceEvent) : Traced Unit := ⟨[event], .ok ()⟩

@[simp] theorem pure_eq (a : α) : (pure a : Traced α) = ⟨[], .ok a⟩ := rfl

theorem bind_eq (x : Traced α) (f : α → Traced β) : (x >>= f) = Traced.bind x f := rfl

theorem events_bind_ok {x : Traced α} {a : α} (h : x.result = .ok a) (f : α → Traced β) :
    (x >>= f).events = x.events ++ (f a).events := by
  simp [bind_eq, Traced.bind, h]

theorem events_bind_error {x : Traced α} {e : Error} (h : x.result = .error e)
    (f : α → Traced β) : (x >>= f).events = x.events := by
  simp [bind_eq, Traced.bind, h]

theorem result_bind_ok {x : Traced α} {a : α} (h : x.result = .ok a) (f : α → Traced β) :
    (x >>= f).result = (f a).result := by
  simp [bind_eq, Traced.bind, h]

theorem result_bind_error {x : Traced α} {e : Error} (h : x.result = .error e)
    (f : α → Traced β) : (x >>= f).result = .error e := by
  simp [bind_eq, Traced.bind, h]

/-- Of two steps that come to a value both do. -/
theorem exists_of_result_bind {x : Traced α} {f : α → Traced β} {b : β}
    (h : (x >>= f).result = .ok b) : ∃ a, x.result = .ok a ∧ (f a).result = .ok b := by
  cases came : x.result with
  | ok a => exact ⟨a, rfl, by rwa [result_bind_ok came] at h⟩
  | error e =>
    rw [result_bind_error came] at h
    cases h

end Traced

end ChatRules
