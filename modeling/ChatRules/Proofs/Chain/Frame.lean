import ChatRules.Proofs.Chain.State
import ChatRules.Proofs.Context.Write
import ChatRules.Proofs.Json.FreeForm
import Mathlib.Data.List.Forall2

/-!
# What a chain leaves alone

The context that a chain run ends with is what the actions of its executed blocks have made
of the one that it began with. They only append to the text fields, only set the keys of
the memory that they name, and reach nothing else. Between them gates are decided; these
draw random numbers, but look at the context without changing it.

Results:

* `change_act`: all that an action can do to a context.
* `performed_run`: a run performs the actions of its executed blocks, and does nothing
  else to the context.
* `Performed.induction`: what each of these changes keeps, a run keeps.
* `Performed.text`: the texts that are appended to a field.
* `run_frame`: what is left alone by a run, and the texts that it appends.
-/

namespace ChatRules

/-! ## Appended texts -/

theorem exists_appendText (base value : String) :
    ∃ added, appendText base value = base ++ added := by
  unfold appendText
  split
  · exact ⟨"", by simp⟩
  · split
    · rename_i empty
      exact ⟨value, by simp [String.isEmpty_iff.1 empty]⟩
    · exact ⟨"\n\n" ++ value, String.append_assoc⟩

/-- To append texts leaves the text that was there at the beginning. -/
theorem exists_foldl_appendText (texts : List String) (base : String) :
    ∃ added, texts.foldl appendText base = base ++ added := by
  induction texts generalizing base with
  | nil => exact ⟨"", by simp⟩
  | cons text rest ih =>
    obtain ⟨first, eq⟩ := exists_appendText base text
    obtain ⟨others, after⟩ := ih (appendText base text)
    exact ⟨first ++ others, by rw [List.foldl_cons, after, eq, String.append_assoc]⟩

/-- The texts of which an action appends one to a field; there are none if it does not
    append to the field. -/
def BlockAction.choices (lists : List (String × List String)) (field : TextField) :
    BlockAction → List String
  | .append f text => if f = field then [text] else []
  | .appendRandom listId f => if f = field then (Dict.find? listId lists).getD [] else []
  | .memoryNumber _ _ _ _ | .memoryText _ _ _ => []

/-- The key of the memory that an action names. -/
def BlockAction.memoryKey? : BlockAction → Option String
  | .append _ _ | .appendRandom _ _ => none
  | .memoryNumber key _ _ _ | .memoryText key _ _ => some key

namespace Chain

variable {σ : Type} [RandomSource σ]

/-! ## Actions -/

variable {lists : List (String × List String)} {ctx after : Context}

/-- A text that is appended to a field. -/
theorem fst_appendField (ctx : Context) (field : TextField) (text : String) :
    (appendField ctx field text).1 = ctx.writeField field .append text := by
  simp [appendField, Context.writeInPlace_path]

theorem isFreeForm_numberValue (x : Float) : (numberValue x).IsFreeForm := by
  unfold numberValue
  split
  · exact .int _
  · exact .ofFloat x

/-- What an action can do: append a text to the one field for which it has choices, set the
    key of the memory that it names, or nothing. -/
inductive ActionChange (lists : List (String × List String)) (ctx : Context) (a : BlockAction) :
    Context → Prop
  | text {field : TextField} {text : String} (chosen : text ∈ a.choices lists field)
    (only : ∀ other, other ≠ field → a.choices lists other = []) :
    ActionChange lists ctx a (ctx.writeField field .append text)
  | memory {key : String} {value : Json} (named : a.memoryKey? = some key)
    (free : value.IsFreeForm) (noText : ∀ field, a.choices lists field = []) :
    ActionChange lists ctx a (setMemory ctx key value)
  | nothing (noText : ∀ field, a.choices lists field = []) : ActionChange lists ctx a ctx

theorem change_act (lists : List (String × List String)) (ctx : Context) (g : σ)
    (a : BlockAction) : ActionChange lists ctx a (act lists ctx g a).1 := by
  cases a with
  | append field text =>
    simp only [act, fst_appendField]
    exact .text (by simp [BlockAction.choices]) fun other ne => by
      simp [BlockAction.choices, Ne.symm ne]
  | appendRandom listId field =>
    simp only [act]
    split
    · rename_i unknown
      exact .nothing fun other => by simp [BlockAction.choices, unknown]
    · rename_i items found
      split
      · rename_i empty
        exact .nothing fun other => by
          simp [BlockAction.choices, found, List.isEmpty_iff.1 empty]
      · rename_i filled
        simp only [fst_appendField]
        -- The index that is drawn is one of the list.
        have inside : (RandomSource.index g items.length).1 < items.length :=
          RandomSource.index_lt g (List.length_pos_iff.2 fun nil => filled (by simp [nil]))
        refine .text ?_ fun other ne => by simp [BlockAction.choices, Ne.symm ne]
        simp [BlockAction.choices, found, List.getD, inside]
  | memoryNumber key mode value text =>
    simp only [act]
    split
    · exact .nothing fun _ => rfl
    · exact .memory rfl (isFreeForm_numberValue _) fun _ => rfl
  | memoryText key op text => exact .memory rfl (.string _) fun _ => rfl

namespace ActionChange

variable {a : BlockAction}

theorem chat (h : ActionChange lists ctx a after) : after.chat = ctx.chat := by
  cases h <;> rfl

theorem extra (h : ActionChange lists ctx a after) : after.extra = ctx.extra := by
  cases h <;> rfl

/-- An action appends a text to a field if it has choices for it, and else leaves it. -/
theorem field (h : ActionChange lists ctx a after) (field : TextField) :
    (a.choices lists field = [] ∧ after.character.text field = ctx.character.text field) ∨
      ∃ text ∈ a.choices lists field,
        after.character.text field = appendText (ctx.character.text field) text := by
  cases h with
  | @text target text chosen only =>
    by_cases eq : field = target
    · subst eq
      exact .inr ⟨text, chosen, Character.text_setText_self _ _ _⟩
    · exact .inl ⟨only field eq, Character.text_setText_of_ne _ eq _⟩
  | memory _ _ noText => exact .inl ⟨noText field, by cases field <;> rfl⟩
  | nothing noText => exact .inl ⟨noText field, rfl⟩

theorem find?_memory (h : ActionChange lists ctx a after) {key : String}
    (ne : a.memoryKey? ≠ some key) :
    Dict.find? key after.character.memory = Dict.find? key ctx.character.memory := by
  cases h with
  | text => simp [Context.writeField]
  | memory named =>
    exact Dict.find?_insert_of_ne (fun eq => ne (by rw [named, eq])) _ _
  | nothing => rfl

end ActionChange

/-! ## Actions one after the other -/

/-- Actions that are carried out one after the other. Each may draw from something else than
    what the one before it left. -/
inductive Performed (lists : List (String × List String)) :
    Context → List BlockAction → Context → Prop
  | nil (ctx : Context) : Performed lists ctx [] ctx
  | cons {σ : Type} [RandomSource σ] {ctx after : Context} {a : BlockAction}
    {rest : List BlockAction} (g : σ) (later : Performed lists (act lists ctx g a).1 rest after) :
    Performed lists ctx (a :: rest) after

namespace Performed

variable {actions others : List BlockAction}

theorem append {last : Context} (h : Performed lists ctx actions after)
    (h' : Performed lists after others last) : Performed lists ctx (actions ++ others) last := by
  induction h with
  | nil => exact h'
  | cons g _ ih => exact .cons g (ih h')

/-- What the change of each action keeps, all of them keep. -/
theorem induction {P : Context → Prop} (h : Performed lists ctx actions after)
    (change : ∀ a ∈ actions, ∀ before after, ActionChange lists before a after →
      P before → P after)
    (initial : P ctx) : P after := by
  induction h with
  | nil => exact initial
  | cons g _ ih =>
    obtain ⟨first, rest⟩ := List.forall_mem_cons.1 change
    exact ih rest (first _ _ (change_act lists _ g _) initial)

/-- The actions that have choices for a field append one each, in order. -/
theorem text (h : Performed lists ctx actions after) (field : TextField) :
    ∃ texts,
      List.Forall₂ (fun text choices => text ∈ choices) texts
        ((actions.map (·.choices lists field)).filter (· ≠ [])) ∧
      after.character.text field = texts.foldl appendText (ctx.character.text field) := by
  induction h with
  | nil => exact ⟨[], .nil, rfl⟩
  | @cons _ _ ctx after a rest g _ ih =>
    obtain ⟨texts, chosen, eq⟩ := ih
    rcases (change_act lists ctx g a).field field with ⟨none, same⟩ | ⟨text, mem, appended⟩
    · refine ⟨texts, ?_, by rw [eq, same]⟩
      rwa [List.map_cons, List.filter_cons_of_neg (by simp [none])]
    · refine ⟨text :: texts, ?_, by rw [eq, appended, List.foldl_cons]⟩
      rw [List.map_cons, List.filter_cons_of_pos (by simpa using List.ne_nil_of_mem mem)]
      exact .cons mem chosen

end Performed

/-! ## Runs -/

/-- The actions of the blocks that were executed, one block after the other. -/
def executedActions (blocks : List Block) (outcomes : List BlockOutcome) : List BlockAction :=
  (blocks.zip outcomes).flatMap fun e => if e.2.executed then e.1.actions else []

namespace State

variable (input : ChainInput) (derived : List (String × Float))

theorem performed_acts (lists : List (String × List String)) (st : State σ)
    (actions : List BlockAction) :
    Performed lists st.context actions (st.acts lists actions).context := by
  induction actions generalizing st with
  | nil => exact .nil _
  | cons a rest ih =>
    obtain ⟨context, generator, position⟩ := st
    exact .cons generator (ih ⟨_, _, position⟩)

/-- A block that is executed performs its actions; its condition leaves the context. -/
theorem performed_step (st : State σ) (b : Block) :
    Performed input.lists st.context
      (if (st.outcome input derived b).executed then b.actions else [])
      (st.step input derived b).context := by
  have acted (generator : σ) (position : Position) :
      Performed input.lists st.context b.actions
        (acts input.lists ⟨st.context, generator, position⟩ b.actions).context :=
    performed_acts input.lists ⟨st.context, generator, position⟩ b.actions
  unfold step
  dsimp only
  split
  · exact acted _ _
  · exact .nil _

theorem performed_steps (st : State σ) (blocks : List Block) :
    Performed input.lists st.context
      (executedActions blocks (st.outcomes input derived blocks))
      (st.steps input derived blocks).context := by
  induction blocks generalizing st with
  | nil => exact .nil _
  | cons b rest ih => exact (performed_step input derived st b).append (ih _)

end State

/-- A run performs the actions of its executed blocks, and nothing else. -/
theorem performed_run (blocks : List Block) (input : ChainInput) (ctx : Context) (g : σ) :
    let after := run blocks input ctx g
    Performed input.lists ctx (executedActions blocks after.outcomes) after.context := by
  obtain ⟨outcomes, state⟩ := outcomes_state_run blocks input ctx g
  have performed := State.performed_steps input (derivedNumbers input ctx) ⟨ctx, g, {}⟩ blocks
  rw [← outcomes, ← state] at performed
  exact performed

/-- **What a chain leaves alone, and what it appends.** The chat and the free-form slots
    stay. A text field is the text that was there, with one text appended for each action
    of an executed block that has choices for the field, in order, and so it still begins
    with what was there. A key of the memory stays that no action of an executed block
    names. To decide the condition of a block leaves the whole context. -/
theorem run_frame (blocks : List Block) (input : ChainInput) (ctx : Context) (g : σ) :
    let after := run blocks input ctx g
    let actions := executedActions blocks after.outcomes
    after.context.chat = ctx.chat ∧ after.context.extra = ctx.extra ∧
      (∀ field, ∃ texts,
        List.Forall₂ (fun text choices => text ∈ choices) texts
          ((actions.map (·.choices input.lists field)).filter (· ≠ [])) ∧
        after.context.character.text field = texts.foldl appendText (ctx.character.text field) ∧
        ∃ added, after.context.character.text field = ctx.character.text field ++ added) ∧
      (∀ key, (∀ a ∈ actions, a.memoryKey? ≠ some key) →
        Dict.find? key after.context.character.memory = Dict.find? key ctx.character.memory) ∧
      ∀ derived (begun : ChainRun σ) (b : Block),
        (begun.decideBlock input derived b).2.context = begun.context := by
  intro after actions
  have performed : Performed input.lists ctx actions after.context :=
    performed_run blocks input ctx g
  refine ⟨?_, ?_, fun field => ?_, fun key unnamed => ?_, fun _ _ _ => rfl⟩
  · exact performed.induction (P := fun c => c.chat = ctx.chat)
      (fun _ _ _ _ change same => change.chat.trans same) rfl
  · exact performed.induction (P := fun c => c.extra = ctx.extra)
      (fun _ _ _ _ change same => change.extra.trans same) rfl
  · obtain ⟨texts, chosen, eq⟩ := performed.text field
    obtain ⟨added, begins⟩ := exists_foldl_appendText texts (ctx.character.text field)
    exact ⟨texts, chosen, eq, added, eq.trans begins⟩
  · exact performed.induction
      (P := fun c => Dict.find? key c.character.memory = Dict.find? key ctx.character.memory)
      (fun a mem _ _ change same => (change.find?_memory (unnamed a mem)).trans same) rfl

/-- A block that appends a text and one that is drawn from a list, and that sets one of two
    keys of the memory, before a fallback that is not executed. -/
theorem run_frame_of_drawn_text :
    let blocks : List Block :=
      [{ actions := [.append .personality "Kind.", .appendRandom "sweets" .personality,
           .appendRandom "none" .scenario, .memoryText "note" .set "met"] },
       { kind := .fallback
         actions := [.append .scenario "Night.", .memoryText "mood" .set "sad"] }]
    let input : ChainInput := { lists := [("none", []), ("sweets", ["cake", "pie"])] }
    let ctx : Context :=
      { character := { personality := "Shy.", memory := [("mood", .string "glad")] } }
    let g : Replay := ⟨[1]⟩
    let after := run blocks input ctx g
    (∀ a ∈ executedActions blocks after.outcomes, a.memoryKey? ≠ some "mood") ∧
      Dict.find? "mood" after.context.character.memory = some (.string "glad") ∧
      Dict.find? "note" after.context.character.memory = some (.string "met") ∧
      after.context.character.personality = "Shy.\n\nKind.\n\npie" ∧
      after.context.character.scenario = "" := by
  intro blocks input ctx g after
  have unnamed : ∀ a ∈ executedActions blocks after.outcomes, a.memoryKey? ≠ some "mood" := by
    decide +kernel
  obtain ⟨-, -, -, memory, -⟩ := run_frame blocks input ctx g
  exact ⟨unnamed, (memory "mood" unnamed).trans rfl, by decide +kernel, by decide +kernel,
    by decide +kernel⟩

end Chain

end ChatRules
