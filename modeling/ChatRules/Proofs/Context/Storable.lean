import ChatRules.Context.Encoding
import ChatRules.Proofs.Chain.Frame
import ChatRules.Proofs.Document.Record
import ChatRules.Proofs.Progressive.Confinement

/-!
# What contexts hold

A context begins empty, with the messages of a conversation, or as it was loaded, and
writes, chains of blocks and progressive runs change it. All of them keep the memory and
the free-form slots in order, and never put anything into a slot named like the chat.

Results:

* `Path.eq_or_startsWith`: what a path looks like by its first segment.
* `Change.isStorable`, `run_induction`: a write and a chain keep what contexts hold.
* `IsStorable.edit`, `find?_character_edit`: so does every edit, and only a write to the
  bare name of the character fills the slot of that name.
* `isStorable_of_isStart`: every context begins that way.
-/

namespace ChatRules

/-! ## Paths by their first segment -/

/-- A path is its first segment, or goes on after it with a dot. -/
theorem Path.eq_or_startsWith {path first : String} {rest : List String}
    (h : segments path = first :: rest) :
    path = first ∨ startsWith path (first ++ ".") = true := by
  unfold segments at h
  have text := intercalate_splitDots path.toList
  cases parts : splitDots path.toList with
  | nil => exact absurd parts (splitDots_ne_nil _)
  | cons s ss =>
    rw [parts] at h text
    obtain ⟨rfl, -⟩ := List.cons.inj h
    cases ss with
    | nil =>
      refine .inl (String.toList_inj.1 ?_)
      simpa [List.intercalate] using text.symm
    | cons t ts =>
      refine .inr (startsWith_iff.2 ⟨String.ofList (['.'].intercalate (t :: ts)), ?_⟩)
      refine String.toList_inj.1 ?_
      rw [← text]
      simp [List.intercalate]

namespace Context

variable {op : WriteOp} {value path : String} {ctx after : Context}

/-- The first segment of a path into the free-form slots is not the name of the chat, and
    if it is the name of the character, then it is the whole path. -/
theorem head_of_isReserved_eq_false {first : String} {rest : List String}
    (free : isReserved path = false) (h : Path.segments path = first :: rest) :
    first ≠ "chat" ∧ (first = "character" → path = "character") := by
  simp only [isReserved, Bool.or_eq_false_iff, beq_eq_false_iff_ne] at free
  obtain ⟨⟨noCharacter, noChat⟩, ne⟩ := free
  have shape := Path.eq_or_startsWith h
  constructor
  · rintro rfl
    rcases shape with eq | starts
    · exact ne eq
    · exact absurd starts (by simpa using noChat)
  · rintro rfl
    rcases shape with eq | starts
    · exact eq
    · exact absurd starts (by simpa using noCharacter)

/-! ## Contexts that can be stored -/

/-- A context as a document can hold it: the memory and the free-form slots are in order,
    the number of messages has 64 bits, and no slot is named like the chat. -/
structure IsStorable (ctx : Context) : Prop where
  memory : (Json.object ctx.character.memory).IsFreeForm
  extra : (Json.object ctx.extra).IsFreeForm
  messageCount : ctx.chat.messageCount < wordSize 64
  noChat : Dict.find? "chat" ctx.extra = none

theorem isFreeForm_empty : (Json.object []).IsFreeForm :=
  .object List.Pairwise.nil (by simp)

theorem isFreeForm_writeFields {segments : List String} {fields left : List (String × Json)}
    (free : (Json.object fields).IsFreeForm)
    (done : writeFields op value path segments fields = .done left) :
    (Json.object left).IsFreeForm := by
  induction segments generalizing fields left with
  | nil => cases done
  | cons segment rest ih =>
    cases rest with
    | nil =>
      unfold writeFields at done
      split at done <;> cases done <;> exact free.insert segment (.string _)
    | cons next rest =>
      unfold writeFields at done
      split at done
      · rename_i inner found
        obtain ⟨inner', below, rfl⟩ := Written.map_eq_done_iff.1 done
        exact free.replace segment (ih (free.of_find? found) below)
      · cases done
      · obtain ⟨inner', below, rfl⟩ := Written.map_eq_done_iff.1 done
        exact free.insert segment (ih isFreeForm_empty below)

theorem find?_writeFields_of_ne {fields left : List (String × Json)}
    (done : writeFields op value path (Path.segments path) fields = .done left) {key : String}
    (ne : ∀ rest, Path.segments path ≠ key :: rest) :
    Dict.find? key left = Dict.find? key fields := by
  cases segments : Path.segments path with
  | nil => exact absurd segments (Path.segments_ne_nil path)
  | cons first rest =>
    rw [segments] at done ne
    refine (slotChange_of_writeFields_done done).2 key ?_
    rintro rfl
    exact ne rest rfl

/-- A write keeps what contexts hold. -/
theorem Change.isStorable (h : Change ctx path op value after) (storable : ctx.IsStorable) :
    after.IsStorable := by
  cases h with
  | field field _ =>
    refine ⟨?_, storable.extra, storable.messageCount, storable.noChat⟩
    simpa [writeField] using storable.memory
  | memory key _ _ =>
    exact ⟨storable.memory.insert key (.string _), storable.extra, storable.messageCount,
      storable.noChat⟩
  | extra extra _ _ free _ done =>
    refine ⟨storable.memory, isFreeForm_writeFields storable.extra done,
      storable.messageCount, ?_⟩
    rw [find?_writeFields_of_ne done fun rest eq =>
      (head_of_isReserved_eq_false free eq).1 rfl]
    exact storable.noChat

/-- Only a write to its bare name fills the slot that is named like the character. -/
theorem Change.find?_character (h : Change ctx path op value after) (ne : path ≠ "character") :
    Dict.find? "character" after.extra = Dict.find? "character" ctx.extra := by
  cases h with
  | field => rfl
  | memory => rfl
  | extra extra _ _ free _ done =>
    exact find?_writeFields_of_ne done fun rest eq =>
      ne ((head_of_isReserved_eq_false free eq).2 rfl)

end Context

/-! ## Chains -/

namespace Chain

open Context

/-- What appending to a field and setting a key of the memory keep, a chain keeps. -/
theorem run_induction {σ : Type} [RandomSource σ] {P : Context → Prop}
    (field : ∀ ctx field text, P ctx → P (ctx.writeField field .append text))
    (memory : ∀ ctx key value, Json.IsFreeForm value → P ctx → P (setMemory ctx key value))
    (blocks : List Block) (input : ChainInput) {ctx : Context} (g : σ) (h : P ctx) :
    P (run blocks input ctx g).context := by
  refine (performed_run blocks input ctx g).induction (fun a _ before after change kept => ?_) h
  cases change with
  | text => exact field before _ _ kept
  | memory _ free => exact memory before _ _ free kept
  | nothing => exact kept

end Chain

/-! ## Edits -/

/-- What can be done to a context: a write to a path, a chain of blocks with any source of
    random numbers, or a progressive run. -/
inductive Edit where
  | write (path : String) (op : WriteOp) (value : String)
  | chain {σ : Type} [RandomSource σ] (blocks : List Block) (input : Chain.ChainInput) (g : σ)
  | progressive (o : ProgressiveOptions) (registry : Registry) (rules : List RuleProgram)

/-- Whether an edit can write to a path in the free-form slots. -/
def Edit.MayWrite (path : String) : Edit → Prop
  | .write p _ _ => p = path
  | @chain _ _ _ _ _ => False
  | .progressive o _ _ => path ∈ o.allowedTargets

namespace Context

/-- The context after an edit, be it a success or not. -/
def edit (ctx : Context) : Edit → Context
  | .write path op value => (ctx.writeInPlace path op value).left
  | @Edit.chain _ _ blocks input g => (Chain.run blocks input ctx g).context
  | .progressive o registry rules => (runProgressive o registry rules ctx).context

/-- How contexts begin: empty, with the messages of a conversation, or loaded. -/
inductive IsStart : Context → Prop
  | empty : IsStart {}
  | messages (messages : List String) (fits : messages.length < wordSize 64) :
    IsStart (ofMessages messages)
  | loaded {text : String} {ctx : Context} (h : ofJsonText text = .ok ctx) : IsStart ctx

variable {ctx : Context}

/-- What every successful write keeps, a write keeps. -/
theorem write_induction {P : Context → Prop} (path : String) (op : WriteOp) (value : String)
    (change : ∀ after, Change ctx path op value after → P after) (h : P ctx) :
    P (ctx.writeInPlace path op value).left := by
  cases written : ctx.writeInPlace path op value with
  | done left => exact change left (change_of_writeInPlace_done written)
  | failed e left =>
    rw [left_of_writeInPlace_failed written]
    exact h

theorem IsStorable.setMemory (h : ctx.IsStorable) (key : String) {value : Json}
    (free : value.IsFreeForm) : (Chain.setMemory ctx key value).IsStorable :=
  ⟨h.memory.insert key free, h.extra, h.messageCount, h.noChat⟩

/-- Every edit keeps what contexts hold. -/
theorem IsStorable.edit (h : ctx.IsStorable) (e : Edit) : (ctx.edit e).IsStorable := by
  cases e with
  | write path op value => exact write_induction path op value (fun _ c => c.isStorable h) h
  | chain blocks input g =>
    refine Chain.run_induction (fun ctx field text h => ?_) (fun ctx key value free h => ?_)
      blocks input g h
    · exact (Change.field field rfl).isStorable h
    · exact h.setMemory key free
  | progressive o registry rules =>
    exact replay_induction (faithful_runProgressive o registry rules ctx).replay h
      fun _ _ _ _ c => c.isStorable

/-- Only an edit that can write to its bare name fills the slot that is named like the
    character. -/
theorem find?_character_edit (ctx : Context) {e : Edit} (off : ¬ e.MayWrite "character") :
    Dict.find? "character" (ctx.edit e).extra = Dict.find? "character" ctx.extra := by
  cases e with
  | write path op value =>
    exact write_induction (P := fun c =>
      Dict.find? "character" c.extra = Dict.find? "character" ctx.extra) path op value
      (fun _ c => c.find?_character off) rfl
  | chain blocks input g =>
    exact Chain.run_induction (P := fun c =>
      Dict.find? "character" c.extra = Dict.find? "character" ctx.extra)
      (fun _ _ _ h => h) (fun _ _ _ _ h => h) blocks input g rfl
  | progressive o registry rules =>
    have faithful := faithful_runProgressive o registry rules ctx
    refine replay_induction (P := fun c =>
      Dict.find? "character" c.extra = Dict.find? "character" ctx.extra) faithful.replay rfl ?_
    intro p mem before after change same
    refine (change.find?_character fun eq => ?_).trans same
    exact off (eq ▸ faithful.allowed p mem)

/-! ## Loaded contexts -/

open Document

theorem isFreeForm_memory_of_decode {origin : Origin} {d : Document} {c : Character}
    (h : decodeRecord origin Character.shape {} d = .ok c) :
    (Json.object c.memory).IsFreeForm := by
  refine decodeRecord_induction (P := fun c : Character => (Json.object c.memory).IsFreeForm)
    ?_ h isFreeForm_empty
  intro f mem d draft result taken free
  simp only [Character.shape, List.mem_cons, List.not_mem_nil, or_false] at mem
  rcases mem with rfl | rfl | rfl | rfl <;> obtain ⟨part, decoded, rfl⟩ := map_eq_ok_iff.1 taken
  · exact free
  · exact free
  · exact free
  · exact isFreeForm_of_decodeDict decoded

theorem messageCount_lt_of_decode {origin : Origin} {d : Document} {c : Chat}
    (h : decodeRecord origin (Chat.shape origin) {} d = .ok c) :
    c.messageCount < wordSize 64 := by
  refine decodeRecord_induction (P := fun c : Chat => c.messageCount < wordSize 64)
    ?_ h (by decide)
  intro f mem d draft result taken bound
  simp only [Chat.shape, List.mem_cons, List.not_mem_nil, or_false] at mem
  rcases mem with rfl | rfl <;> obtain ⟨part, decoded, rfl⟩ := map_eq_ok_iff.1 taken
  · exact bound
  · refine decodeRecord_induction (P := fun n => n < wordSize 64) ?_ decoded (by decide)
    intro f mem d draft result taken _
    simp only [Chat.metadataShape, List.mem_cons, List.not_mem_nil, or_false] at mem
    obtain rfl := mem
    exact lt_of_decodeNat taken

/-- What has been read of a context is in order, and no slot is named like a part. -/
structure Draft.IsStorable (draft : Draft) : Prop where
  memory : ∀ c ∈ draft.character, (Json.object c.memory).IsFreeForm
  messageCount : ∀ c ∈ draft.chat, c.messageCount < wordSize 64
  extra : (Json.object draft.extra).IsFreeForm
  noCharacter : Dict.find? "character" draft.extra = none
  noChat : Dict.find? "chat" draft.extra = none

theorem Draft.IsStorable.takeFields {origin : Origin} {fields : List (Key × Document)}
    {draft result : Draft} (h : draft.IsStorable)
    (done : Context.takeFields origin fields draft = .ok result) : result.IsStorable := by
  induction fields generalizing draft with
  | nil =>
    cases done
    exact h
  | cons f rest ih =>
    unfold Context.takeFields at done
    split at done
    · cases done
    · rename_i name _
      split at done
      · split at done
        · cases done
        · split at done
          · cases done
          · rename_i c decoded
            refine ih ?_ done
            refine { h with memory := ?_ }
            rintro c ⟨⟩
            exact isFreeForm_memory_of_decode decoded
      · rename_i notCharacter
        split at done
        · split at done
          · cases done
          · split at done
            · cases done
            · rename_i c decoded
              refine ih ?_ done
              refine { h with messageCount := ?_ }
              rintro c ⟨⟩
              exact messageCount_lt_of_decode decoded
        · rename_i notChat
          split at done
          · cases done
          · rename_i j decoded
            refine ih ?_ done
            refine { h with extra := ?_, noCharacter := ?_, noChat := ?_ }
            · exact h.extra.insert name (isFreeForm_of_decodeJson decoded)
            · exact (Dict.find?_insert_of_ne (Ne.symm notCharacter) j _).trans h.noCharacter
            · exact (Dict.find?_insert_of_ne (Ne.symm notChat) j _).trans h.noChat

theorem exists_draft_of_ofDocument {origin : Origin} {d : Document} {ctx : Context}
    (h : ofDocument origin d = .ok ctx) :
    ∃ draft : Draft, draft.IsStorable ∧
      ctx = ⟨draft.character.getD {}, draft.chat.getD {}, draft.extra⟩ := by
  have empty : ({} : Draft).IsStorable := ⟨nofun, nofun, isFreeForm_empty, rfl, rfl⟩
  unfold ofDocument at h
  split at h
  · cases h
    exact ⟨{}, empty, rfl⟩
  · split at h
    · obtain ⟨draft, done, rfl⟩ := map_eq_ok_iff.1 h
      exact ⟨draft, empty.takeFields done, rfl⟩
    · cases h

/-- Every context begins as one that can be stored, without a slot that is named like the
    character. -/
theorem isStorable_of_isStart {ctx : Context} (h : IsStart ctx) :
    ctx.IsStorable ∧ Dict.find? "character" ctx.extra = none := by
  cases h with
  | empty => exact ⟨⟨isFreeForm_empty, isFreeForm_empty, by decide, rfl⟩, rfl⟩
  | messages messages fits => exact ⟨⟨isFreeForm_empty, isFreeForm_empty, fits, rfl⟩, rfl⟩
  | loaded h =>
    obtain ⟨draft, storable, rfl⟩ : ∃ draft : Draft, draft.IsStorable ∧
        ctx = ⟨draft.character.getD {}, draft.chat.getD {}, draft.extra⟩ := by
      unfold ofJsonText at h
      dsimp only at h
      split at h
      · cases h
      · exact exists_draft_of_ofDocument h
    refine ⟨⟨?_, storable.extra, ?_, storable.noChat⟩, storable.noCharacter⟩
    · cases given : draft.character with
      | none => exact isFreeForm_empty
      | some c => exact storable.memory c given
    · cases given : draft.chat with
      | none => exact Nat.pow_pos (by decide)
      | some c => exact storable.messageCount c given

/-! ## Edits one after the other -/

/-- Edits keep what contexts hold. -/
theorem IsStorable.edits {ctx : Context} (h : ctx.IsStorable) (edits : List Edit) :
    (edits.foldl Context.edit ctx).IsStorable := by
  induction edits generalizing ctx with
  | nil => exact h
  | cons e rest ih => exact ih (h.edit e)

/-- Edits fill the slot that is named like the character only if one of them can write to
    that name. -/
theorem find?_character_edits (ctx : Context) {edits : List Edit}
    (off : ∀ e ∈ edits, ¬ e.MayWrite "character") :
    Dict.find? "character" (edits.foldl edit ctx).extra = Dict.find? "character" ctx.extra := by
  induction edits generalizing ctx with
  | nil => rfl
  | cons e rest ih =>
    obtain ⟨first, others⟩ := List.forall_mem_cons.1 off
    exact (ih (ctx.edit e) others).trans (find?_character_edit ctx first)

end Context

end ChatRules
