import ChatRules.Proofs.Context.Texts

/-!
# The context as a store of texts

Paths are the keys of a store: what was written at a path is read there, and the texts at other
paths stay, but for the objects on the way. Reading and writing take a path apart on their own,
so that this is no matter of course; a path can even be read where it cannot be written to.

A write is refused for reasons that a reader of the context can see before it is tried, and
they have nothing to do with the text. Some are found late, below objects that the write has
gone through, and still it leaves nothing behind.

Results:

* `exists_writeFields_failed_iff`: a write into the slots fails exactly if something obstructs
  it, at whatever depth.
* `writeInPlace_done_reads`: what can be read after a write that succeeds.
* `writeInPlace_failed_iff`: which writes are refused, and what they leave.
-/

namespace ChatRules.Context

variable {op : WriteOp} {value path : String}

/-! ## Obstacles -/

/-- What obstructs a text at the end of a list of segments: a value on the way that is no
    object, or an object at the end. `path` is the whole path, for the errors. -/
inductive Obstructs (path : String) (segments : List String) (fields : List (String × Json)) :
    WriteError → Prop
  | onTheWay (before : List String) (segment : String) (after : List String) (j : Json)
    (split : segments = before ++ segment :: after) (ne : after ≠ [])
    (stands : descend (before ++ [segment]) (.object fields) = some j)
    (notObject : ∀ inner, j ≠ .object inner) :
    Obstructs path segments fields (.notAnObject segment path)
  | atTheEnd (inner : List (String × Json))
    (stands : descend segments (.object fields) = some (.object inner)) :
    Obstructs path segments fields (.addressesObject path)

variable {fields inner : List (String × Json)} {segment : String} {rest : List String}
  {e : WriteError}

theorem descend_cons_object (segment : String) (rest : List String)
    (fields : List (String × Json)) :
    descend (segment :: rest) (.object fields) = (Dict.find? segment fields).bind (descend rest) :=
  rfl

/-- Behind an object, the obstacles are those below it. -/
theorem obstructs_cons_iff (held : Dict.find? segment fields = some (.object inner))
    (ne : rest ≠ []) : Obstructs path (segment :: rest) fields e ↔ Obstructs path rest inner e := by
  constructor
  · intro obstacle
    cases obstacle with
    | onTheWay before last after j split ne' stands notObject =>
      cases before with
      | nil =>
        obtain ⟨rfl, rfl⟩ := List.cons.inj split
        rw [List.nil_append, descend_cons_object, held] at stands
        exact absurd (Option.some.inj stands).symm (notObject inner)
      | cons first before =>
        obtain ⟨rfl, rfl⟩ := List.cons.inj split
        rw [List.cons_append, descend_cons_object, held] at stands
        exact .onTheWay before last after j rfl ne' stands notObject
    | atTheEnd object stands =>
      rw [descend_cons_object, held] at stands
      exact .atTheEnd object stands
  · intro obstacle
    cases obstacle with
    | onTheWay before last after j split ne' stands notObject =>
      subst split
      refine .onTheWay (segment :: before) last after j rfl ne' ?_ notObject
      rw [List.cons_append, descend_cons_object, held]
      exact stands
    | atTheEnd object stands =>
      refine .atTheEnd object ?_
      rw [descend_cons_object, held]
      exact stands

/-- Behind a value that is no object nothing is found, so it is the only obstacle. -/
theorem obstructs_cons_iff_of_notObject {j : Json} (held : Dict.find? segment fields = some j)
    (notObject : ∀ inner, j ≠ .object inner) (ne : rest ≠ []) :
    Obstructs path (segment :: rest) fields e ↔ e = .notAnObject segment path := by
  obtain ⟨next, more, rfl⟩ := List.exists_cons_of_ne_nil ne
  constructor
  · intro obstacle
    cases obstacle with
    | onTheWay before last after j' split ne' stands _ =>
      cases before with
      | nil =>
        obtain ⟨rfl, rfl⟩ := List.cons.inj split
        rfl
      | cons first before =>
        obtain ⟨rfl, split⟩ := List.cons.inj split
        obtain ⟨second, others, eq⟩ :=
          List.exists_cons_of_ne_nil (List.append_ne_nil_of_right_ne_nil before
            (List.cons_ne_nil last []))
        rw [List.cons_append, eq, descend_cons_object, held, Option.bind_some,
          descend_eq_none notObject] at stands
        cases stands
    | atTheEnd object stands =>
      rw [descend_cons_object, held, Option.bind_some, descend_eq_none notObject] at stands
      cases stands
  · rintro rfl
    refine .onTheWay [] segment (next :: more) j rfl ne ?_ notObject
    rw [List.nil_append, descend_cons_object, held]
    rfl

theorem not_obstructs_cons_of_none (absent : Dict.find? segment fields = none) :
    ¬ Obstructs path (segment :: rest) fields e := by
  have nowhere (others : List String) : descend (segment :: others) (.object fields) = none := by
    rw [descend_cons_object, absent]
    rfl
  intro obstacle
  cases obstacle with
  | onTheWay before last after j split _ stands _ =>
    cases before with
    | nil =>
      obtain ⟨rfl, -⟩ := List.cons.inj split
      cases (nowhere []).symm.trans stands
    | cons first before =>
      obtain ⟨rfl, -⟩ := List.cons.inj split
      cases (nowhere (before ++ [last])).symm.trans stands
  | atTheEnd object stands => cases (nowhere rest).symm.trans stands

/-- At the last segment only an object is an obstacle. -/
theorem obstructs_singleton_iff :
    Obstructs path [segment] fields e ↔
      (∃ inner, Dict.find? segment fields = some (.object inner)) ∧
        e = .addressesObject path := by
  have here : descend [segment] (.object fields) = Dict.find? segment fields := by
    rw [descend_cons_object]
    cases Dict.find? segment fields <;> rfl
  constructor
  · intro obstacle
    cases obstacle with
    | onTheWay before last after j split ne =>
      have lengths := congrArg List.length split
      have := List.length_pos_iff.2 ne
      simp only [List.length_append, List.length_cons, List.length_nil] at lengths
      omega
    | atTheEnd object stands => exact ⟨⟨object, here ▸ stands⟩, rfl⟩
  · rintro ⟨⟨object, held⟩, rfl⟩
    exact .atTheEnd object (here.trans held)

/-- **Which writes into the slots fail.** Nothing else than an obstacle makes a write fail. -/
theorem exists_writeFields_failed_iff (op : WriteOp) (value : String) {segments : List String}
    (ne : segments ≠ []) :
    (∃ left, writeFields op value path segments fields = .failed e left) ↔
      Obstructs path segments fields e := by
  -- The induction is on the way down, with the object that is gone into as `fields`.
  induction segments generalizing fields with
  | nil => exact absurd rfl ne
  | cons segment rest ih =>
    cases rest with
    | nil =>
      rw [obstructs_singleton_iff]
      unfold writeFields
      cases held : Dict.find? segment fields with
      | none => simp
      | some j =>
        cases j <;> simp [eq_comm]
    | cons next rest =>
      have neBelow : next :: rest ≠ [] := List.cons_ne_nil next rest
      unfold writeFields
      cases held : Dict.find? segment fields with
      | none =>
        obtain ⟨left, done⟩ := writeFields_nil op value path neBelow
        simp only [done, Written.map, reduceCtorEq, exists_false, false_iff]
        exact not_obstructs_cons_of_none held
      | some j =>
        by_cases object : ∃ inner, j = .object inner
        · obtain ⟨inner, rfl⟩ := object
          rw [obstructs_cons_iff held neBelow, ← ih neBelow]
          simp only [Written.map_eq_failed_iff]
          constructor
          · rintro ⟨_, below, failed, -⟩
            exact ⟨below, failed⟩
          · rintro ⟨below, failed⟩
            exact ⟨_, below, failed, rfl⟩
        · have notObject : ∀ inner, j ≠ .object inner := fun inner eq => object ⟨inner, eq⟩
          rw [obstructs_cons_iff_of_notObject held notObject neBelow]
          cases j with
          | object inner => exact absurd rfl (notObject inner)
          | _ => simp [eq_comm]

/-! ## Refused writes -/

/-- Why a write to a path is refused. It depends on the path and on what stands there, and
    not on the text or on how it is written. -/
inductive Refuses (ctx : Context) (path : String) : WriteError → Prop
  | noKey (leads : path = "character.memory.") : Refuses ctx path .emptyMemoryKey
  | reserved (free : IsFree path) (is : isReserved path = true) :
    Refuses ctx path (.notWritable path)
  | malformed (free : IsFree path) (writable : isReserved path = false)
    (is : Path.isWellFormed path = false) : Refuses ctx path (.malformedPath path)
  | obstructed {e : WriteError} (free : IsFree path) (writable : isReserved path = false)
    (wellFormed : Path.isWellFormed path = true)
    (obstacle : Obstructs path (Path.segments path) ctx.extra e) : Refuses ctx path e

theorem memoryKey?_memory : memoryKey? "character.memory." = some "" :=
  memoryKey?_eq_some_iff.2 rfl

/-- A free path that is not reserved has to be well formed, and then nothing may obstruct it. -/
theorem refuses_iff_of_free {ctx : Context} {e : WriteError} (free : IsFree path)
    (writable : isReserved path = false) :
    ctx.Refuses path e ↔
      (Path.isWellFormed path = false ∧ e = .malformedPath path) ∨
      (Path.isWellFormed path = true ∧
        Obstructs path (Path.segments path) ctx.extra e) := by
  constructor
  · intro refused
    cases refused with
    | noKey leads =>
      rw [leads] at free
      cases memoryKey?_memory.symm.trans free.2
    | reserved _ is => cases writable.symm.trans is
    | malformed _ _ is => exact .inl ⟨is, rfl⟩
    | obstructed _ _ wellFormed obstacle => exact .inr ⟨wellFormed, obstacle⟩
  · rintro (⟨is, rfl⟩ | ⟨wellFormed, obstacle⟩)
    · exact .malformed free writable is
    · exact .obstructed free writable wellFormed obstacle

theorem exists_writeExtra_failed_iff {ctx : Context} {e : WriteError} (free : IsFree path)
    (writable : isReserved path = false) :
    (∃ left, ctx.writeExtra path op value = .failed e left) ↔ ctx.Refuses path e := by
  rw [refuses_iff_of_free free writable, ← exists_writeFields_failed_iff op value
    (Path.segments_ne_nil path)]
  unfold writeExtra Path.segments?
  cases Path.isWellFormed path with
  | true =>
    simp only [if_true, Written.map_eq_failed_iff, reduceCtorEq, false_and, false_or, true_and]
    constructor
    · rintro ⟨_, extra, failed, -⟩
      exact ⟨extra, failed⟩
    · rintro ⟨extra, failed⟩
      exact ⟨_, extra, failed, rfl⟩
  | false => simp [eq_comm]

/-- A field takes every text. -/
theorem not_refuses_of_field {ctx : Context} {e : WriteError} {field : TextField}
    (found : TextField.ofPath? path = some field) : ¬ ctx.Refuses path e := by
  intro refused
  cases refused with
  | noKey leads =>
    subst leads
    cases found
  | reserved free => cases found.symm.trans free.1
  | malformed free => cases found.symm.trans free.1
  | obstructed free => cases found.symm.trans free.1

/-- The memory takes every text that has a key. -/
theorem refuses_iff_of_memoryKey {ctx : Context} {e : WriteError} {key : String}
    (keyed : memoryKey? path = some key) :
    ctx.Refuses path e ↔ key = "" ∧ e = .emptyMemoryKey := by
  constructor
  · intro refused
    cases refused with
    | noKey leads =>
      rw [leads, memoryKey?_memory] at keyed
      exact ⟨(Option.some.inj keyed).symm, rfl⟩
    | reserved free => cases keyed.symm.trans free.2
    | malformed free => cases keyed.symm.trans free.2
    | obstructed free => cases keyed.symm.trans free.2
  · rintro ⟨rfl, rfl⟩
    exact .noKey (memoryKey?_eq_some_iff.1 keyed)

theorem refuses_iff_of_reserved {ctx : Context} {e : WriteError} (free : IsFree path)
    (is : isReserved path = true) : ctx.Refuses path e ↔ e = .notWritable path := by
  constructor
  · intro refused
    cases refused with
    | noKey leads =>
      rw [leads] at free
      cases memoryKey?_memory.symm.trans free.2
    | reserved => rfl
    | malformed _ writable => cases writable.symm.trans is
    | obstructed _ writable => cases writable.symm.trans is
  · rintro rfl
    exact .reserved free is

/-- Which writes are refused. -/
theorem exists_writeInPlace_failed_iff (op : WriteOp) (value : String) {ctx : Context}
    {e : WriteError} :
    (∃ left, ctx.writeInPlace path op value = .failed e left) ↔ ctx.Refuses path e := by
  unfold writeInPlace
  cases found : TextField.ofPath? path with
  | some field =>
    simp only [reduceCtorEq, exists_false, false_iff]
    exact not_refuses_of_field found
  | none =>
    cases keyed : memoryKey? path with
    | some key =>
      rw [refuses_iff_of_memoryKey keyed]
      by_cases empty : key = ""
      · subst empty
        exact ⟨fun ⟨_, failed⟩ => by cases failed; exact ⟨rfl, rfl⟩,
          fun ⟨_, is⟩ => ⟨ctx, by rw [is]; rfl⟩⟩
      · simp [empty]
    | none =>
      have free : IsFree path := ⟨found, keyed⟩
      cases reserved : isReserved path with
      | true =>
        rw [refuses_iff_of_reserved free reserved]
        simp [eq_comm]
      | false => simpa using exists_writeExtra_failed_iff free reserved

theorem not_refuses_of_done {ctx after : Context} {e : WriteError}
    (done : ctx.writeInPlace path op value = .done after) : ¬ ctx.Refuses path e := by
  intro refused
  obtain ⟨left, failed⟩ := (exists_writeInPlace_failed_iff op value).2 refused
  cases done.symm.trans failed

/-- **A write that is refused leaves nothing behind.** Whether a write fails, and with what
    error, is decided by the path and by what stands there, at whatever depth; whenever it
    fails, the whole context is as it was, objects on the way included. -/
theorem writeInPlace_failed_iff (ctx : Context) (path : String) (op : WriteOp) (value : String)
    (e : WriteError) (left : Context) :
    ctx.writeInPlace path op value = .failed e left ↔ left = ctx ∧ ctx.Refuses path e := by
  rw [← exists_writeInPlace_failed_iff op value]
  constructor
  · intro failed
    exact ⟨left_of_writeInPlace_failed failed, left, failed⟩
  · rintro ⟨rfl, other, failed⟩
    rw [failed, left_of_writeInPlace_failed failed]

/-- The third segment is a text, and two more were to follow: no object is created. -/
example :
    let extra := [("a", Json.object [("b", .object [("c", .string "text")])])]
    let ctx : Context := { extra }
    ctx.writeInPlace "a.b.c.d.e" .set "x" = .failed (.notAnObject "c" "a.b.c.d.e") ctx := by
  decide +kernel

/-! ## Successful writes -/

/-- **A write that succeeds stores its text.** The text can be read at the path: in place of
    the one that could be read there before, or after it. At every path that is not the
    one written to, and not above it, the same can be read as before, and the conversation
    stays. -/
theorem writeInPlace_done_reads {ctx after : Context} {path : String} {op : WriteOp}
    {value : String} (done : ctx.writeInPlace path op value = .done after) :
    (after.read? path = some (match op with
      | .set => value
      | .append => appendText ((ctx.read? path).getD "") value)) ∧
    (∀ other, other ≠ path → ¬ Path.IsAbove other path → after.read? other = ctx.read? other) ∧
    after.chat = ctx.chat := by
  have change := change_of_writeInPlace_done done
  refine ⟨?_, fun other ne off => change.read?_eq ne off, change.chat⟩
  rw [change.read?_self]
  cases op <;> rfl

/-- A text after a number that stands in a slot, with another text beside it and nothing below
    it, and with a key of the memory that looks like its path. -/
theorem writeInPlace_done_reads_number :
    let ctx : Context :=
      { character := { memory := [("a.n", .string "kept")] }
        extra := [("a", .object [("m", .string "kept"), ("n", .number (.int 5))])] }
    let after : Context :=
      { ctx with extra := [("a", .object [("m", .string "kept"), ("n", .string "5\n\nx")])] }
    let others := ["a.m", "a.n.", "character.memory.a.n", "character.scenario"]
    ctx.writeInPlace "a.n" .append "x" = .done after ∧
      ctx.read? "a.n" = some "5" ∧ after.read? "a.n" = some (appendText "5" "x") ∧
      (∀ other ∈ others, other ≠ "a.n" ∧ ¬ Path.IsAbove other "a.n" ∧
        after.read? other = ctx.read? other) ∧
      others.map ctx.read? = [some "kept", none, some "kept", some ""] := by
  intro ctx after others
  have done : ctx.writeInPlace "a.n" .append "x" = .done after := by
    decide +kernel
  have number : ctx.read? "a.n" = some "5" := by decide +kernel
  have off : ∀ other ∈ others, other ≠ "a.n" ∧ ¬ Path.IsAbove other "a.n" := by decide +kernel
  obtain ⟨reads, stays, -⟩ := writeInPlace_done_reads done
  rw [number] at reads
  refine ⟨done, number, reads, fun other mem => ?_, by decide +kernel⟩
  obtain ⟨ne, notAbove⟩ := off other mem
  exact ⟨ne, notAbove, stays other ne notAbove⟩

end ChatRules.Context
