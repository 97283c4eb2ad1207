import ChatRules.Proofs.Context.Storable

/-!
# Saving and loading a context

A context is saved with its free-form slots beside the character and the chat, so a slot
of one of these names would be written a second time. The name of the chat cannot become
a slot, but the bare name of the character can, by a write to it; and what is saved then
is refused when it is loaded. Every other context is loaded as it was saved.

Numbers are read back as far as their texts do so (`Number.ReadsBack`); whole numbers of
64 bits always are.

Results:

* `ofDocument_toJson`: what a saved context comes to as a document.
* `ofJsonText_toText`: and as a text.
* `reload_edits`: the same for every context that edits lead to.
* `reload_character_written`: a write after which the context is refused.
-/

namespace ChatRules

open Document

namespace Document

theorem decodeJson_ofJson {j : Json} (free : j.IsFreeForm) {n : Nat} (shallow : j.depth ≤ n)
    (spelled : Bool) : decodeJson n spelled (ofJson j) = .ok j := by
  simp only [decodeJson, Json.fault?_ofJson shallow, Json.toJson?_ofJson free]

theorem decodeEntries_ofJsonFields {n : Nat} {spelled : Bool} {fields : List (String × Json)}
    (free : ∀ f ∈ fields, f.2.IsFreeForm) (shallow : ∀ f ∈ fields, f.2.depth ≤ n) :
    decodeEntries (decodeJson n spelled) (ofJsonFields fields) = .ok fields := by
  induction fields with
  | nil => rfl
  | cons f rest ih =>
    obtain ⟨freeFirst, freeRest⟩ := List.forall_mem_cons.1 free
    obtain ⟨shallowFirst, shallowRest⟩ := List.forall_mem_cons.1 shallow
    simp only [ofJsonFields, decodeEntries, keyName, decodeJson_ofJson freeFirst shallowFirst,
      ih freeRest shallowRest]

/-- A dictionary of free-form values is decoded as it is. -/
theorem decodeDict_ofJson {n : Nat} {spelled : Bool} {fields : List (String × Json)}
    (free : (Json.object fields).IsFreeForm) (shallow : ∀ f ∈ fields, f.2.depth ≤ n) :
    decodeDict (decodeJson n spelled) (ofJson (.object fields)) = .ok fields := by
  simp [decodeDict, ofJson, isVoid, untagged, decodeEntries_ofJsonFields free.parts shallow,
    free.sorted.ofList_eq]

theorem decodeWord64_ofNat {n : Nat} (fits : n < wordSize 64) :
    decodeWord64 (ofJson (.ofNat n)) = .ok n := by
  have bound : (n : Int) < wordSize 64 := by exact_mod_cast fits
  simp [decodeWord64, decodeNat, ofJson, Json.ofNat, untagged, bound]

/-- A field that is known and new is taken in. -/
theorem takeFields_cons {σ : Type} {shape : Shape σ} {name : String}
    {take : Document → σ → Decoded σ} (found : Dict.find? name shape.fields = some take)
    {seen : List String} (new : name ∉ seen) {d : Document} {draft next : σ}
    (taken : take d draft = .ok next) (rest : List (Key × Document)) :
    takeFields shape seen ((.name name, d) :: rest) draft =
      takeFields shape (name :: seen) rest next := by
  simp only [takeFields, keyName, found, if_neg new, taken]

end Document

/-! ## Parts of a context -/

theorem Character.decode_toJson {c : Character} (memory : (Json.object c.memory).IsFreeForm)
    (shallow : ∀ f ∈ c.memory, f.2.depth ≤ depthLimit - 3) :
    decodeRecord .json Character.shape {} (ofJson c.toJson) = .ok c := by
  have dict := @decodeDict_ofJson _ true _ memory shallow
  simp only [ofJson] at dict
  simp [decodeRecord, Character.toJson, Character.shape, ofJson, ofJsonFields, isVoid, untagged,
    Document.takeFields, keyName, Dict.find?, decodeText, dict, Except.map]

theorem Chat.decodeItems_messages (messages : List String) :
    decodeItems (decodeRecord .json Chat.messageShape "")
        (ofJsonItems (messages.map fun m => .object [("message", .string m)])) =
      .ok messages := by
  induction messages with
  | nil => rfl
  | cons m rest ih =>
    rw [List.map_cons, ofJsonItems, decodeItems, ih]
    rfl

theorem Chat.decode_metadata {n : Nat} (fits : n < wordSize 64) :
    decodeRecord .json Chat.metadataShape 0
        (ofJson (.object [("public_message_count", .ofNat n)])) = .ok n := by
  have found : Dict.find? "public_message_count" Chat.metadataShape.fields =
      some fun d _ => decodeWord64 d := rfl
  have fields : Document.takeFields Chat.metadataShape []
      [(.name "public_message_count", ofJson (.ofNat n))] 0 = .ok n :=
    takeFields_cons found List.not_mem_nil (decodeWord64_ofNat fits) []
  simp only [decodeRecord, ofJson, ofJsonFields, isVoid, untagged, Bool.false_eq_true, if_false]
  exact fields

theorem Chat.decode_toJson {c : Chat} (fits : c.messageCount < wordSize 64) :
    decodeRecord .json (Chat.shape .json) {} (ofJson c.toJson) = .ok c := by
  obtain ⟨messages, messageCount⟩ := c
  have firstFound : Dict.find? "last_messages" (Chat.shape .json).fields =
      some fun d c => (decodeList (decodeRecord .json Chat.messageShape "") d).map fun ms =>
        { c with messages := ms } := rfl
  have secondFound : Dict.find? "chat_metadata" (Chat.shape .json).fields =
      some fun d c => (decodeRecord .json Chat.metadataShape 0 d).map fun n =>
        { c with messageCount := n } := rfl
  have first : ((decodeList (decodeRecord .json Chat.messageShape "")
      (ofJson (.array (messages.map fun m => .object [("message", .string m)])))).map
        fun ms => { ({} : Chat) with messages := ms }) = .ok { messages } := by
    simp only [decodeList, ofJson, isVoid, untagged]
    rw [if_neg (by decide), Chat.decodeItems_messages]
    rfl
  have second : ((decodeRecord .json Chat.metadataShape 0
      (ofJson (.object [("public_message_count", .ofNat messageCount)]))).map
        fun n => { ({ messages } : Chat) with messageCount := n }) =
        .ok { messages, messageCount } := by
    rw [Chat.decode_metadata fits]
    rfl
  have fields : Document.takeFields (Chat.shape .json) []
      [(.name "last_messages",
          ofJson (.array (messages.map fun m => .object [("message", .string m)]))),
       (.name "chat_metadata", ofJson (.object [("public_message_count", .ofNat messageCount)]))]
      {} = .ok { messages, messageCount } := by
    have secondNew : "chat_metadata" ∉ ["last_messages"] := by decide
    exact (takeFields_cons firstFound List.not_mem_nil first _).trans
      (takeFields_cons secondFound secondNew second [])
  simp only [decodeRecord, Chat.toJson, ofJson, ofJsonFields, isVoid, untagged,
    Bool.false_eq_true, if_false]
  exact fields

namespace Context

/-- The free-form slots after both parts: a slot that is named like the character is one
    field too many, all others are taken in. -/
theorem takeFields_extra {c : Character} {k : Chat} {extra done : List (String × Json)}
    (free : ∀ f ∈ extra, f.2.IsFreeForm) (shallow : ∀ f ∈ extra, f.2.depth ≤ depthLimit - 1)
    (noChat : Dict.find? "chat" extra = none) :
    takeFields .json (ofJsonFields extra) ⟨some c, some k, done⟩ =
      if Dict.has "character" extra then .error (.duplicateField "character")
      else .ok ⟨some c, some k, Dict.override done extra⟩ := by
  induction extra generalizing done with
  | nil => rfl
  | cons f rest ih =>
    obtain ⟨name, j⟩ := f
    obtain ⟨freeFirst, freeRest⟩ := List.forall_mem_cons.1 free
    obtain ⟨shallowFirst, shallowRest⟩ := List.forall_mem_cons.1 shallow
    have notChat : name ≠ "chat" := by
      rintro rfl
      simp [Dict.find?] at noChat
    by_cases isCharacter : name = "character"
    · simp [ofJsonFields, takeFields, keyName, isCharacter, Dict.has, Dict.find?]
    · have noChatRest : Dict.find? "chat" rest = none := by
        simpa [Dict.find?, notChat] using noChat
      have has : Dict.has "character" ((name, j) :: rest) = Dict.has "character" rest := by
        simp [Dict.has, Dict.find?, isCharacter]
      simp only [ofJsonFields, takeFields, keyName, if_neg isCharacter, if_neg notChat,
        decodeJson_ofJson freeFirst shallowFirst, has]
      exact ih freeRest shallowRest noChatRest

theorem depth_memory_le {c : Character} {n : Nat} (shallow : c.toJson.depth ≤ n + 2) :
    ∀ f ∈ c.memory, f.2.depth ≤ n := by
  have fields := Json.fieldsDepth_le_iff.1 (Nat.le_of_succ_le_succ shallow)
  have memory : (Json.object c.memory).depth ≤ n + 1 :=
    fields ("memory", .object c.memory) (by simp)
  exact Json.fieldsDepth_le_iff.1 (Nat.le_of_succ_le_succ memory)

/-- What a saved context comes to as a document. -/
theorem ofDocument_toJson {ctx : Context} (h : ctx.IsStorable)
    (shallow : ctx.toJson.depth ≤ depthLimit) :
    ofDocument .json (ofJson ctx.toJson) =
      if Dict.has "character" ctx.extra then .error (.duplicateField "character") else .ok ctx := by
  have fields := Json.fieldsDepth_le_iff.1 (Nat.le_of_succ_le_succ shallow)
  obtain ⟨character, others⟩ := List.forall_mem_cons.1 fields
  obtain ⟨-, extra⟩ := List.forall_mem_cons.1 others
  have parts := @takeFields_extra ctx.character ctx.chat ctx.extra [] h.extra.parts extra h.noChat
  have all : Dict.override [] ctx.extra = ctx.extra := h.extra.sorted.ofList_eq
  rw [all] at parts
  have decodedCharacter := Character.decode_toJson h.memory (depth_memory_le character)
  have decodedChat := Chat.decode_toJson h.messageCount
  have taken : takeFields .json (ofJsonFields (("character", ctx.character.toJson) ::
      ("chat", ctx.chat.toJson) :: ctx.extra)) {} =
        if Dict.has "character" ctx.extra then .error (.duplicateField "character")
        else .ok ⟨some ctx.character, some ctx.chat, ctx.extra⟩ := by
    rw [← parts, ofJsonFields, ofJsonFields]
    simp only [takeFields, keyName, decodedCharacter, decodedChat, if_true,
      show ("chat" : String) ≠ "character" by decide, if_false]
  simp only [ofDocument, toJson, ofJson, isVoid, untagged, taken, Bool.false_eq_true, if_false]
  split <;> rfl

theorem readsBack_numbers {ctx : Context} (h : ctx.IsStorable)
    (numbers : ∀ n ∈ Json.fieldsNumbers ctx.character.memory ++ Json.fieldsNumbers ctx.extra,
      n.ReadsBack) : ∀ n ∈ ctx.toJson.numbers, n.ReadsBack := by
  have count : Number.ReadsBack (.int ctx.chat.messageCount) :=
    Number.readsBack_int (by omega) (by exact_mod_cast h.messageCount)
  have noMessages : Json.itemsNumbers
      (ctx.chat.messages.map fun m => .object [("message", .string m)]) = [] := by
    simp [Json.itemsNumbers_eq_flatMap, Json.numbers, Json.fieldsNumbers]
  simp only [List.mem_append] at numbers
  intro n mem
  simp only [toJson, Character.toJson, Chat.toJson, Json.ofNat, Json.numbers, Json.fieldsNumbers,
    noMessages, List.mem_append, List.mem_cons, List.not_mem_nil, or_false, false_or] at mem
  rcases mem with memory | rfl | extra
  · exact numbers n (.inl memory)
  · exact count
  · exact numbers n (.inr extra)

/-- What a saved context comes to when its text is loaded. -/
theorem ofJsonText_toText {ctx : Context} (h : ctx.IsStorable)
    (numbers : ∀ n ∈ Json.fieldsNumbers ctx.character.memory ++ Json.fieldsNumbers ctx.extra,
      n.ReadsBack)
    (shallow : ctx.toJson.depth ≤ depthLimit) :
    ofJsonText ctx.toText =
      if Dict.has "character" ctx.extra then .error (.duplicateField "character") else .ok ctx := by
  have read : Json.read ctx.toText = ⟨ofJson ctx.toJson, none⟩ :=
    Json.read_pretty (readsBack_numbers h numbers)
  rw [ofJsonText, read]
  simp only [ofDocument_toJson h shallow]
  split
  · rename_i none
    cases none
  · rfl

/-- **Saving and loading a context that edits lead to.** However a context begins and
    whatever is done to it, no slot is named like the chat, and a slot is named like the
    character only if an edit can write to that name. A context with such a slot is
    refused when it is loaded after it was saved, and every other one is loaded as it was:
    as far as the texts of its free-form numbers read back, and if it is not too deep. -/
theorem reload_edits {start : Context} (isStart : IsStart start) (edits : List Edit) :
    let ctx := edits.foldl edit start
    Dict.find? "chat" ctx.extra = none ∧
      ((∀ e ∈ edits, ¬ e.MayWrite "character") → Dict.find? "character" ctx.extra = none) ∧
      ((∀ n ∈ Json.fieldsNumbers ctx.character.memory ++ Json.fieldsNumbers ctx.extra,
          n.ReadsBack) →
        ctx.toJson.depth ≤ depthLimit →
        ofJsonText ctx.toText =
          if Dict.has "character" ctx.extra then .error (.duplicateField "character")
          else .ok ctx) := by
  intro ctx
  obtain ⟨storable, noCharacter⟩ := isStorable_of_isStart isStart
  have kept : ctx.IsStorable := storable.edits edits
  exact ⟨kept.noChat, fun off => (find?_character_edits start off).trans noCharacter,
    ofJsonText_toText kept⟩

/-- A write beside the parts, a number that a chain puts into the memory, and a rule that
    writes to the scenario: what is saved is loaded. -/
theorem reload_edits_of_three :
    let edits : List Edit :=
      [.write "inject.pre" .set "x",
       .chain [{ actions := [.memoryNumber "mood" .set (some 2) none] }] {} (Generator.ofWords []),
       .progressive {} {} [.firing "a" [("character.scenario", .one "night")]]]
    let ctx := edits.foldl edit {}
    IsStart {} ∧ (∀ e ∈ edits, ¬ e.MayWrite "character") ∧
      Json.fieldsNumbers ctx.character.memory ++ Json.fieldsNumbers ctx.extra = [.int 2] ∧
      Number.ReadsBack (.int 2) ∧ ctx.toJson.depth ≤ depthLimit ∧
      ofJsonText ctx.toText = .ok ctx := by
  intro edits ctx
  obtain ⟨-, noCharacter, reload⟩ := reload_edits .empty edits
  have off : ∀ e ∈ edits, ¬ e.MayWrite "character" := by
    simp [edits, Edit.MayWrite, defaultTargets]
  have numbers :
      Json.fieldsNumbers ctx.character.memory ++ Json.fieldsNumbers ctx.extra = [.int 2] := by
    decide +kernel
  have two : Number.ReadsBack (.int 2) := Number.readsBack_int (by decide) (by decide)
  have shallow : ctx.toJson.depth ≤ depthLimit := by decide +kernel
  refine ⟨.empty, off, numbers, two, shallow, ?_⟩
  rw [reload (by rw [numbers]; simpa using two) shallow, if_neg]
  simp [Dict.has, noCharacter off]

/-- A write to the bare name of the character: what is saved is refused. -/
theorem reload_character_written :
    let ctx := edit {} (.write "character" .set "x")
    Dict.find? "character" ctx.extra = some (.string "x") ∧
      ofJsonText ctx.toText = .error (.duplicateField "character") := by
  intro ctx
  have storable : ctx.IsStorable := (isStorable_of_isStart .empty).1.edit _
  have slot : ctx.extra = [("character", .string "x")] := by decide +kernel
  have noNumbers :
      Json.fieldsNumbers ctx.character.memory ++ Json.fieldsNumbers ctx.extra = [] := by
    decide +kernel
  have shallow : ctx.toJson.depth ≤ depthLimit := by decide +kernel
  have reload := ofJsonText_toText storable (by simp [noNumbers]) shallow
  rw [slot] at reload ⊢
  exact ⟨rfl, reload⟩

end Context

end ChatRules
