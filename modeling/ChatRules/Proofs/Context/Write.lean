import ChatRules.Context

/-!
# What a write changes

A write works in place: on the way to a free-form slot it goes through objects,
creates those that are missing, and may find out late that it cannot go on.

Results:

* `left_of_writeInPlace_failed`: a failed write leaves the context as it was.
* `change_of_writeInPlace_done`: the three changes that a successful write can make.
* `Change.chat`, `Change.value?_eq_of_free`, `Change.read?_eq`: it leaves the chat alone, and
  every value but the one at its path and those on the way to it.
-/

namespace ChatRules.Context

variable {op : WriteOp} {value path : String}

/-! ## Failed writes -/

/-- Nothing stands in the way of a write into an empty object. -/
theorem writeFields_nil (op : WriteOp) (value path : String) {segments : List String}
    (ne : segments ≠ []) : ∃ left, writeFields op value path segments [] = .done left := by
  induction segments with
  | nil => exact absurd rfl ne
  | cons segment rest ih =>
    cases rest with
    | nil => exact ⟨_, rfl⟩
    | cons next rest =>
      obtain ⟨inner, done⟩ := ih (by simp)
      refine ⟨Dict.insert segment (.object inner) [], ?_⟩
      simp [writeFields, Dict.find?, done, Written.map]

/-- A failed write has created no object: below one that it creates nothing can fail. To
    put an object that was there back into its place changes nothing. -/
theorem left_of_writeFields_failed {segments : List String} {fields left : List (String × Json)}
    {e : WriteError} (h : writeFields op value path segments fields = .failed e left) :
    left = fields := by
  induction segments generalizing fields left with
  | nil =>
    cases h
    rfl
  | cons segment rest ih =>
    cases rest with
    | nil =>
      unfold writeFields at h
      split at h
      · cases h
        rfl
      · cases h
      · cases h
    | cons next rest =>
      unfold writeFields at h
      split at h
      · rename_i inner found
        obtain ⟨inner', below, rfl⟩ := Written.map_eq_failed_iff.1 h
        rw [ih below]
        exact Dict.replace_eq_self found
      · cases h
        rfl
      · -- The object below would be a new one, and into that every write succeeds.
        obtain ⟨inner', below, -⟩ := Written.map_eq_failed_iff.1 h
        obtain ⟨inner, done⟩ :=
          writeFields_nil op value path (List.cons_ne_nil next rest)
        rw [done] at below
        cases below

theorem left_of_writeExtra_failed {ctx left : Context} {e : WriteError}
    (h : ctx.writeExtra path op value = .failed e left) : left = ctx := by
  unfold writeExtra at h
  split at h
  · cases h
    rfl
  · obtain ⟨extra, fields, rfl⟩ := Written.map_eq_failed_iff.1 h
    rw [left_of_writeFields_failed fields]

/-- **Failed writes are atomic.** -/
theorem left_of_writeInPlace_failed {ctx left : Context} {e : WriteError}
    (h : ctx.writeInPlace path op value = .failed e left) : left = ctx := by
  unfold writeInPlace at h
  split at h
  · cases h
  · split at h
    · split at h
      · cases h
        rfl
      · cases h
    · split at h
      · cases h
        rfl
      · exact left_of_writeExtra_failed h

/-- A write in place comes to nothing else than what it succeeds with. -/
theorem writeInPlace_eq (ctx : Context) (path : String) (op : WriteOp) (value : String) :
    ctx.writeInPlace path op value =
      match ctx.write path op value with
      | .ok left => .done left
      | .error e => .failed e ctx := by
  unfold write
  cases h : ctx.writeInPlace path op value with
  | done left => rfl
  | failed e left => simp only [Written.toExcept, left_of_writeInPlace_failed h]

/-! ## Successful writes -/

/-- The change that a successful write makes: to a text field, to one key of the memory,
    or somewhere in the free-form slots. -/
inductive Change (ctx : Context) (path : String) (op : WriteOp) (value : String) : Context → Prop
  | field (field : TextField) (leads : path = field.path) :
    Change ctx path op value (ctx.writeField field op value)
  | memory (key : String) (leads : path = "character.memory." ++ key) (ne : key ≠ "") :
    Change ctx path op value (ctx.writeMemory key op value)
  | extra (extra : List (String × Json)) (noField : TextField.ofPath? path = none)
    (noKey : memoryKey? path = none) (free : isReserved path = false)
    (wellFormed : Path.isWellFormed path = true)
    (done : writeFields op value path (Path.segments path) ctx.extra = .done extra) :
    Change ctx path op value { ctx with extra }

theorem change_of_writeInPlace_done {ctx left : Context}
    (h : ctx.writeInPlace path op value = .done left) : Change ctx path op value left := by
  unfold writeInPlace at h
  split at h
  · rename_i field found
    cases h
    exact .field field (TextField.ofPath?_eq_some_iff.1 found)
  · rename_i noField
    split at h
    · rename_i key found
      split at h
      · cases h
      · rename_i ne
        cases h
        exact .memory key (memoryKey?_eq_some_iff.1 found) (by simpa using ne)
    · rename_i noKey
      split at h
      · cases h
      · rename_i free
        unfold writeExtra Path.segments? at h
        split at h
        · cases h
        · rename_i segments found
          split at found
          · rename_i wellFormed
            cases found
            obtain ⟨extra, done, rfl⟩ := Written.map_eq_done_iff.1 h
            exact .extra extra noField noKey (by simpa using free) wellFormed done
          · cases found

theorem Change.chat {ctx after : Context} (h : Change ctx path op value after) :
    after.chat = ctx.chat := by
  cases h <;> rfl

/-! ## Writes into the free-form slots -/

/-- What a successful write puts at the first of its segments: a text, over one that is no
    object, or the object that was there with the write made further below. -/
inductive SlotChange (op : WriteOp) (value path : String) (old? : Option Json) :
    List String → Json → Prop
  | text (free : ∀ inner, old? ≠ some (.object inner)) :
    SlotChange op value path old? []
      (.string (op.combine ((old?.map Json.plainText).getD "") value))
  | object {rest : List String} {inner left : List (String × Json)} (ne : rest ≠ [])
    (held : old? = some (.object inner) ∨ old? = none ∧ inner = [])
    (done : writeFields op value path rest inner = .done left) :
    SlotChange op value path old? rest (.object left)

theorem slotChange_of_writeFields_done {segment : String} {rest : List String}
    {fields left : List (String × Json)}
    (h : writeFields op value path (segment :: rest) fields = .done left) :
    (∃ new, SlotChange op value path (Dict.find? segment fields) rest new ∧
      Dict.find? segment left = some new) ∧
    ∀ other, other ≠ segment → Dict.find? other left = Dict.find? other fields := by
  cases rest with
  | nil =>
    unfold writeFields at h
    split at h
    · cases h
    · rename_i old notObject found
      cases h
      refine ⟨⟨_, ?_, Dict.find?_insert_self _ _ _⟩, fun _ ne => Dict.find?_insert_of_ne ne _ _⟩
      rw [found]
      exact .text fun inner eq => notObject inner (Option.some.inj eq)
    · rename_i found
      cases h
      refine ⟨⟨_, ?_, Dict.find?_insert_self _ _ _⟩, fun _ ne => Dict.find?_insert_of_ne ne _ _⟩
      rw [found]
      exact .text (by simp)
  | cons next rest =>
    unfold writeFields at h
    split at h
    · rename_i inner found
      obtain ⟨inner', done, rfl⟩ := Written.map_eq_done_iff.1 h
      exact ⟨⟨_, .object (by simp) (.inl found) done, Dict.find?_replace_self _ found⟩,
        fun _ ne => Dict.find?_replace_of_ne ne _ _⟩
    · cases h
    · rename_i found
      obtain ⟨inner', done, rfl⟩ := Written.map_eq_done_iff.1 h
      exact ⟨⟨_, .object (by simp) (.inr ⟨found, rfl⟩) done, Dict.find?_insert_self _ _ _⟩,
        fun _ ne => Dict.find?_insert_of_ne ne _ _⟩

/-! ## What stays -/

/-- From a value that is no object there is no way further down. -/
theorem descend_eq_none {j : Json} (notObject : ∀ inner, j ≠ .object inner) (segment : String)
    (rest : List String) : descend (segment :: rest) j = none := by
  cases j with
  | object inner => exact absurd rfl (notObject inner)
  | _ => rfl

/-- A write at the end of a list of segments changes only what stands on the way. -/
theorem descend_writeFields {segments : List String} {fields left : List (String × Json)}
    (h : writeFields op value path segments fields = .done left) {other : List String}
    (off : ¬ other <+: segments) :
    descend other (.object left) = descend other (.object fields) := by
  induction segments generalizing fields left other with
  | nil => cases h
  | cons segment rest ih =>
    cases other with
    | nil => exact absurd List.nil_prefix off
    | cons first others =>
      obtain ⟨⟨new, slot, found⟩, others_eq⟩ := slotChange_of_writeFields_done h
      simp only [descend, Json.field?]
      by_cases same : first = segment
      · -- Both go the same way here, so they part further down, where the induction holds.
        subst same
        have offBelow : ¬ others <+: rest := fun le => off (List.cons_prefix_cons.2 ⟨rfl, le⟩)
        rw [found, Option.bind_some]
        cases slot with
        | text free =>
          cases others with
          | nil => exact absurd List.nil_prefix offBelow
          | cons second others =>
            cases old : Dict.find? first fields with
            | none => rfl
            | some j =>
              have notObject : ∀ inner, j ≠ .object inner := fun inner eq =>
                free inner (by rw [old, eq])
              rw [Option.bind_some, descend_eq_none notObject]
              rfl
        | object _ held done =>
          rw [ih done offBelow]
          rcases held with held | ⟨absent, rfl⟩
          · rw [held, Option.bind_some]
          · rw [absent]
            cases others with
            | nil => exact absurd List.nil_prefix offBelow
            | cons second others => rfl
      · rw [others_eq first same]

/-- Whether a path leads into the free-form slots. -/
def IsFree (path : String) : Prop := TextField.ofPath? path = none ∧ memoryKey? path = none

/-- The value at a path. A field of the character holds a text. -/
def value? (ctx : Context) (path : String) : Option Json :=
  match TextField.ofPath? path with
  | some field => some (.string (ctx.character.text field))
  | none =>
    match memoryKey? path with
    | some key => Dict.find? key ctx.character.memory
    | none => descend (Path.segments path) (.object ctx.extra)

/-- What is read at a path is the value there, as running text. -/
theorem read?_eq_map (ctx : Context) (path : String) :
    ctx.read? path = (ctx.value? path).map Json.plainText := by
  unfold read? value?
  cases TextField.ofPath? path with
  | some field => rfl
  | none => cases memoryKey? path <;> rfl

/-- A successful write changes no value off its way. Only free-form slots stand on the way to
    other ones: fields of the character and keys of the memory are known as a whole. -/
theorem Change.value?_eq_of_free {ctx after : Context} (h : Change ctx path op value after)
    {other : String} (ne : other ≠ path)
    (off : IsFree other → IsFree path → ¬ Path.IsAbove other path) :
    after.value? other = ctx.value? other := by
  unfold value?
  cases h with
  | field field leads =>
    cases found : TextField.ofPath? other with
    | some g =>
      have : g ≠ field := by
        rintro rfl
        exact ne ((TextField.ofPath?_eq_some_iff.1 found).trans leads.symm)
      simp [writeField, Character.text_setText_of_ne _ this]
    | none => simp [writeField]
  | memory key leads _ =>
    cases TextField.ofPath? other with
    | some g => cases g <;> rfl
    | none =>
      cases found : memoryKey? other with
      | some k =>
        have : k ≠ key := by
          rintro rfl
          exact ne ((memoryKey?_eq_some_iff.1 found).trans leads.symm)
        simp [writeMemory, Dict.find?_insert_of_ne this]
      | none => rfl
  | extra extra noField noKey _ _ done =>
    cases otherField : TextField.ofPath? other with
    | some g => rfl
    | none =>
      cases otherKey : memoryKey? other with
      | some k => rfl
      | none =>
        have offSegments : ¬ Path.segments other <+: Path.segments path := fun le =>
          off ⟨otherField, otherKey⟩ ⟨noField, noKey⟩
            ⟨le, fun eq => ne (Path.segments_injective eq)⟩
        simp only [descend_writeFields done offSegments]

theorem Change.read?_eq_of_free {ctx after : Context} (h : Change ctx path op value after)
    {other : String} (ne : other ≠ path)
    (off : IsFree other → IsFree path → ¬ Path.IsAbove other path) :
    after.read? other = ctx.read? other := by
  rw [read?_eq_map, read?_eq_map, h.value?_eq_of_free ne off]

/-- **A successful write changes no text off its way.** -/
theorem Change.read?_eq {ctx after : Context} (h : Change ctx path op value after)
    {other : String} (ne : other ≠ path) (off : ¬ Path.IsAbove other path) :
    after.read? other = ctx.read? other :=
  h.read?_eq_of_free ne fun _ _ => off

end ChatRules.Context
