import ChatRules.Proofs.Context.Write

/-!
# What stands where a write has been

A successful write leaves a text at its path. No later one takes the text away: it may write
over it, but it cannot make an object of it to go further down. So where texts have been
written, none of them stands on the way to another one.

Results:

* `descend_writeFields_self`, `Change.value?_self`: the text that a write leaves at its path.
* `Change.holdsText`: what holds a text goes on holding one.
* `HoldsText.not_isAbove`: a text does not stand on the way to another one.
-/

namespace ChatRules.Context

variable {op : WriteOp} {value path : String}

/-! ## Segments -/

theorem descend_append (first second : List String) (j : Json) :
    descend (first ++ second) j = (descend first j).bind (descend second) := by
  induction first generalizing j with
  | nil => rfl
  | cons segment rest ih =>
    rw [List.cons_append, descend, descend, Option.bind_assoc]
    exact congrArg _ (funext ih)

/-- A write at the end of a list of segments leaves its text there. -/
theorem descend_writeFields_self {segments : List String} {fields left : List (String × Json)}
    (h : writeFields op value path segments fields = .done left) :
    descend segments (.object left) = some (.string
      (op.combine (((descend segments (.object fields)).map Json.plainText).getD "") value)) := by
  induction segments generalizing fields left with
  | nil => cases h
  | cons segment rest ih =>
    obtain ⟨⟨new, slot, found⟩, -⟩ := slotChange_of_writeFields_done h
    simp only [descend, Json.field?, found, Option.bind_some]
    cases slot with
    | text free =>
      cases Dict.find? segment fields <;> rfl
    | @object _ inner left ne held done =>
      rw [ih done]
      rcases held with held | ⟨absent, rfl⟩
      · rw [held, Option.bind_some]
      · obtain ⟨next, more, rfl⟩ := List.exists_cons_of_ne_nil ne
        rw [absent]
        rfl

/-- On the way of a successful write stand objects. -/
theorem exists_object_of_writeFields {segments other : List String}
    {fields left : List (String × Json)}
    (h : writeFields op value path segments fields = .done left) (le : other <+: segments)
    (ne : other ≠ segments) {j : Json} (stands : descend other (.object fields) = some j) :
    ∃ inner, j = .object inner := by
  induction segments generalizing fields left other with
  | nil => exact absurd (List.prefix_nil.1 le) ne
  | cons segment rest ih =>
    cases other with
    | nil => exact ⟨fields, (Option.some.inj stands).symm⟩
    | cons first others =>
      obtain ⟨rfl, below⟩ := List.cons_prefix_cons.1 le
      have neBelow : others ≠ rest := fun eq => ne (eq ▸ rfl)
      obtain ⟨⟨new, slot, -⟩, -⟩ := slotChange_of_writeFields_done h
      cases slot with
      | text _ => exact absurd (List.prefix_nil.1 below) neBelow
      | object _ held done =>
        simp only [descend, Json.field?] at stands
        rcases held with held | ⟨absent, rfl⟩
        · rw [held, Option.bind_some] at stands
          exact ih done below neBelow stands
        · rw [absent] at stands
          cases stands

/-! ## Paths -/

/-- The path of a field does not lead into the memory. -/
theorem memoryKey?_path (field : TextField) : memoryKey? field.path = none := by
  cases field <;> rfl

theorem ofPath?_memory (key : String) : TextField.ofPath? ("character.memory." ++ key) = none := by
  refine Option.eq_none_iff_forall_ne_some.2 fun field isField => ?_
  have found := memoryKey?_append key
  rw [TextField.ofPath?_eq_some_iff.1 isField, memoryKey?_path] at found
  cases found

theorem value?_path (ctx : Context) (field : TextField) :
    ctx.value? field.path = some (.string (ctx.character.text field)) := by
  simp only [value?, TextField.ofPath?_path]

theorem value?_memory (ctx : Context) (key : String) :
    ctx.value? ("character.memory." ++ key) = Dict.find? key ctx.character.memory := by
  simp only [value?, ofPath?_memory, memoryKey?_append]

/-- The text that a write leaves at its path. -/
theorem Change.value?_self {ctx after : Context} (h : Change ctx path op value after) :
    after.value? path =
      some (.string (op.combine ((ctx.read? path).getD "") value)) := by
  rw [read?_eq_map]
  cases h with
  | field field leads =>
    subst leads
    simp [value?_path, writeField, Json.plainText]
  | memory key leads _ =>
    subst leads
    simp only [value?_memory, writeMemory, Dict.find?_insert_self]
  | extra extra noField noKey _ _ done =>
    simp only [value?, noField, noKey, descend_writeFields_self done]

theorem Change.read?_self {ctx after : Context} (h : Change ctx path op value after) :
    after.read? path = some (op.combine ((ctx.read? path).getD "") value) := by
  rw [read?_eq_map, h.value?_self]
  rfl

/-- Whether a text stands at a path in the free-form slots. -/
def HoldsText (ctx : Context) (path : String) : Prop :=
  ∃ text, descend (Path.segments path) (.object ctx.extra) = some (.string text)

theorem Change.holdsText_self {ctx after : Context} (h : Change ctx path op value after)
    (free : IsFree path) : after.HoldsText path := by
  cases h with
  | field field leads =>
    subst leads
    exact absurd free.1 (by simp)
  | memory key leads _ =>
    subst leads
    exact absurd free.2 (by simp)
  | extra extra _ _ _ _ done => exact ⟨_, descend_writeFields_self done⟩

/-- What holds a text goes on holding one: a write that had to go further down would fail. -/
theorem Change.holdsText {ctx after : Context} (h : Change ctx path op value after)
    {other : String} (holds : ctx.HoldsText other) : after.HoldsText other := by
  cases h with
  | field => exact holds
  | memory => exact holds
  | extra extra _ _ _ _ done =>
    obtain ⟨text, stands⟩ := holds
    by_cases same : Path.segments other = Path.segments path
    · exact ⟨_, same ▸ descend_writeFields_self done⟩
    · by_cases above : Path.segments other <+: Path.segments path
      · obtain ⟨inner, object⟩ := exists_object_of_writeFields done above same stands
        cases object
      · exact ⟨text, (descend_writeFields done above).trans stands⟩

/-- A text does not stand on the way to another one. -/
theorem HoldsText.not_isAbove {ctx : Context} {other : String} (holds : ctx.HoldsText path)
    (holdsOther : ctx.HoldsText other) : ¬ Path.IsAbove path other := by
  rintro ⟨⟨rest, eq⟩, ne⟩
  obtain ⟨text, stands⟩ := holds
  obtain ⟨_, below⟩ := holdsOther
  rw [← eq, descend_append, stands, Option.bind_some] at below
  cases rest with
  | nil => exact ne (by simpa using eq)
  | cons segment rest => cases below

end ChatRules.Context
