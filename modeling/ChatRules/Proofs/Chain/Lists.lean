import ChatRules.Proofs.Chain.Frame
import ChatRules.Proofs.Chain.Gates
import Mathlib.Data.List.Nodup

/-!
# Lists in the course of a run

Four kinds of gates ask how the history mentions a list of terms, and the lists are counted
once more before the first block. The gates look at the messages that there are when they are
decided, the count at those that there were at the beginning. Since no action reaches the
messages, all of them say the same at every moment of a run.

Results:

* `mentions_nothing`: an empty message mentions nothing.
* `find?_listCounts`: the count of a list, under its name.
* `GateView.agrees`: what the gates about a list say of each other.
* `State.chat_of_mem_visited`: the chat stays what it was at every moment of a run.
* `lists_agree`: so do the gates about lists and the counts.
-/

namespace ChatRules

namespace Chain

/-! ## Messages -/

/-- The spaces around an empty message leave no room for a term between spaces. -/
theorem mentions_nothing (term : String) : mentions "" term = false := by
  simp only [mentions]
  by_cases empty : (Text.normalize term).isEmpty = true
  · simp [empty]
  · have long : 0 < (Text.normalize term).toList.length := by
      rw [List.length_pos_iff]
      intro nil
      apply empty
      rw [String.isEmpty_iff]
      exact String.toList_eq_nil_iff.1 nil
    have room : Text.holds (" " ++ "" ++ " ") (" " ++ Text.normalize term ++ " ") = false := by
      rw [Bool.eq_false_iff]
      intro held
      have infixed := Text.holds_iff.1 held
      have short := infixed.length_le
      simp only [String.toList_append, List.length_append] at short
      have one : " ".toList.length = 1 := rfl
      have zero : "".toList.length = 0 := rfl
      omega
    rw [room, Bool.and_false]

theorem mentionsAny_nothing (terms : List String) : mentionsAny "" terms = false := by
  simp [mentionsAny, mentions_nothing]

/-- What the last message mentions is what a window of one message mentions. Without any
    message neither mentions anything. -/
theorem lastMentions_eq (v : GateView) (terms : List String) :
    lastMentions v terms =
      (recent v.context.chat.messages 1).any fun m => mentionsAny m terms := by
  unfold lastMentions recent Context.lastMessage?
  rcases List.eq_nil_or_concat v.context.chat.messages with none | ⟨before, last, eq⟩
  · have normalized : Text.normalize "" = "" := by decide +kernel
    simp [none, normalized, mentionsAny_nothing]
  · simp [eq]

/-- Some of the last messages mention a list exactly if their number is not zero. -/
theorem any_mentionsAny_iff (messages : List String) (window : Nat) (terms : List String) :
    ((recent messages window).any fun m => mentionsAny m terms) = true ↔
      mentionCount messages window terms ≠ 0 := by
  rw [mentionCount, ← Nat.pos_iff_ne_zero, List.length_filter_pos_iff, List.any_eq_true]

/-! ## Counts -/

/-- The lists are counted each under a name of its own. -/
theorem find?_listCounts {lists : List (String × List String)} (sorted : Dict.Sorted lists)
    (ctx : Context) (window : Nat) (listId : String) :
    Dict.find? (countStart ++ listId) (listCounts ctx lists window) =
      (Dict.find? listId lists).map fun terms =>
        Float.ofNat (mentionCount ctx.chat.messages window terms) := by
  have injective : Function.Injective (countStart ++ · : String → String) := by
    intro a b eq
    have chars : countStart.toList ++ a.toList = countStart.toList ++ b.toList := by
      rw [← String.toList_append, ← String.toList_append]
      exact congrArg String.toList eq
    exact String.toList_inj.1 (List.append_cancel_left chars)
  have unique : ((lists.map fun e => (countStart ++ e.1,
      Float.ofNat (mentionCount ctx.chat.messages window e.2))).map (·.1)).Nodup := by
    rw [List.map_map]
    have keys : ((lists.map (·.1)).map (countStart ++ ·)).Nodup :=
      List.Nodup.map injective sorted.nodup
    rwa [List.map_map] at keys
  have listed : listCounts ctx lists window = Dict.ofList (lists.map fun e =>
      (countStart ++ e.1, Float.ofNat (mentionCount ctx.chat.messages window e.2))) := rfl
  rw [listed, Dict.find?_ofList unique]
  exact Dict.find?_map_key (fun same => injective same)
    (fun _ terms => Float.ofNat (mentionCount ctx.chat.messages window terms)) listId lists

/-- The derived number of a list is its count, unless the input has a number of that name. -/
theorem find?_derivedNumbers {input : ChainInput} (sorted : Dict.Sorted input.lists)
    {listId : String} (free : Dict.find? (countStart ++ listId) input.derived = none)
    (ctx : Context) :
    Dict.find? (countStart ++ listId) (derivedNumbers input ctx) =
      (Dict.find? listId input.lists).map fun terms =>
        Float.ofNat (mentionCount ctx.chat.messages input.window terms) := by
  rw [derivedNumbers, Dict.find?_override_of_none free, find?_listCounts sorted]

end Chain

/-! ## Gates -/

/-- The list that a gate is about. -/
def Gate.listId? : Gate → Option String
  | .anyInList listId | .noneInList listId => some listId
  | .countInHistory listId _ _ _ | .historyContainsList listId _ => some listId
  | _ => none

namespace Chain

variable {σ : Type} [RandomSource σ]

namespace GateView

/-- Whether a gate passes before it is negated. -/
def passes (v : GateView) (g : σ) (gate : Gate) : Bool := (decideGate v g gate).1.1

/-- How many messages in a window mention one of the terms. A gate without a window of its own
    has that of the input. -/
def count (v : GateView) (window : Option Nat) (terms : List String) : Nat :=
  mentionCount v.context.chat.messages (window.getD v.window) terms

/-- What the gates about a list of terms say of each other, whatever is drawn. -/
structure Agrees (σ : Type) [RandomSource σ] (v : GateView) (listId : String)
    (terms : List String) : Prop where
  /-- The gate that counts compares the count of its window, and tells it. -/
  counted : ∀ window op value (g : σ),
    decideGate v g (.countInHistory listId window op value) =
      ((op.holds (Float.ofNat (v.count window terms)) value,
        windowText listId (window.getD v.window) ++
          comparisonText (numberText (Float.ofNat (v.count window terms))) op value), g)
  /-- The history has the list exactly if the count of the same window is not zero. -/
  contained : ∀ window (g : σ),
    v.passes g (.historyContainsList listId window) = true ↔ v.count window terms ≠ 0
  /-- The last message is a window of one message, also where there is none. -/
  last : ∀ g : σ,
    v.passes g (.anyInList listId) = v.passes g (.historyContainsList listId (some 1))
  /-- A list is mentioned or it is not. -/
  unmentioned : ∀ g : σ, v.passes g (.noneInList listId) = !v.passes g (.anyInList listId)

variable {v : GateView} {listId : String} {terms : List String}

/-- The gates about a list that is known agree, whatever the messages are. -/
theorem agrees (known : Dict.find? listId v.lists = some terms) : v.Agrees σ listId terms := by
  constructor
  · intro window op value g
    simp only [decideGate, withList, known]
    rfl
  · intro window g
    simp only [passes, decideGate, withList, known]
    exact any_mentionsAny_iff _ _ _
  · intro g
    simp only [passes, decideGate, withList, known, Option.getD_some]
    exact lastMentions_eq v terms
  · intro g
    simp only [passes, decideGate, withList, known]

/-- No gate passes that is about a list that is not known. -/
theorem passes_of_unknown (unknown : Dict.find? listId v.lists = none) {gate : Gate}
    (about : gate.listId? = some listId) (g : σ) : v.passes g gate = false := by
  cases gate with
  | anyInList id | noneInList id | countInHistory id | historyContainsList id =>
    cases about
    simp only [passes, decideGate, withList, unknown]
  | _ => cases about

end GateView

/-! ## Runs -/

namespace State

variable (input : ChainInput) (derived : List (String × Float))

/-- The states that actions go through, the first and the last one included. -/
def visitedByActs (lists : List (String × List String)) (st : State σ) :
    List BlockAction → List (State σ)
  | [] => [st]
  | a :: rest => st :: visitedByActs lists (st.acts lists [a]) rest

/-- The state in which a block is decided, and has not acted yet. -/
def decided (st : State σ) (b : Block) : State σ :=
  ⟨st.context, (st.condition input derived b).2, st.position.after (st.outcome input derived b)⟩

/-- The states that a run goes through: before every block, before and after every action of
    the blocks that are executed, and at the end. -/
def visited (input : ChainInput) (derived : List (String × Float)) :
    State σ → List Block → List (State σ)
  | st, [] => [st]
  | st, b :: rest =>
    st :: ((if (st.outcome input derived b).executed then
        (st.decided input derived b).visitedByActs input.lists b.actions
      else []) ++ visited input derived (st.step input derived b) rest)

variable {input derived} {st moment : State σ}

theorem getLast?_visited (blocks : List Block) :
    (st.visited input derived blocks).getLast? = some (st.steps input derived blocks) := by
  induction blocks generalizing st with
  | nil => rfl
  | cons b rest ih =>
    have after : (st.step input derived b).steps input derived rest =
        st.steps input derived (b :: rest) := rfl
    rw [visited, ← List.cons_append, List.getLast?_append, ih, after, Option.some_or]

/-- The states in which blocks are met are among those that the run goes through. -/
theorem mem_visited_of_mem_met {blocks : List Block} {m : Block × State σ}
    (mem : m ∈ st.met input derived blocks) : m.2 ∈ st.visited input derived blocks := by
  induction blocks generalizing st with
  | nil => cases mem
  | cons b rest ih =>
    rw [visited]
    rcases List.mem_cons.1 mem with rfl | later
    · exact List.mem_cons_self
    · exact List.mem_cons_of_mem _ (List.mem_append_right _ (ih later))

theorem chat_acts (lists : List (String × List String)) (actions : List BlockAction) :
    (st.acts lists actions).context.chat = st.context.chat :=
  (performed_acts lists st actions).induction (P := fun c => c.chat = st.context.chat)
    (fun _ _ _ _ change same => change.chat.trans same) rfl

theorem chat_of_mem_visitedByActs {lists : List (String × List String)}
    {actions : List BlockAction} (mem : moment ∈ st.visitedByActs lists actions) :
    moment.context.chat = st.context.chat := by
  induction actions generalizing st with
  | nil => rw [List.mem_singleton.1 mem]
  | cons a rest ih =>
    rcases List.mem_cons.1 mem with rfl | later
    · rfl
    · rw [ih later, chat_acts]

theorem chat_step (b : Block) :
    (st.step input derived b).context.chat = st.context.chat :=
  (performed_step input derived st b).induction (P := fun c => c.chat = st.context.chat)
    (fun _ _ _ _ change same => change.chat.trans same) rfl

/-- At every moment of a run the chat is the one that the run began with. -/
theorem chat_of_mem_visited {blocks : List Block}
    (mem : moment ∈ st.visited input derived blocks) :
    moment.context.chat = st.context.chat := by
  induction blocks generalizing st with
  | nil => rw [List.mem_singleton.1 mem]
  | cons b rest ih =>
    rcases List.mem_cons.1 mem with rfl | mem
    · rfl
    · rcases List.mem_append.1 mem with acting | later
      · split at acting
        · rw [chat_of_mem_visitedByActs acting, decided]
        · cases acting
      · rw [ih later, chat_step]

end State

/-- **The gates about lists agree at every moment of a run.** A run goes through states, from
    the one that it begins in to the one that it ends in; blocks are decided in these states,
    and between them actions are carried out. In each of them the gates about a known list
    agree with each other; and the number that was derived for the list before the first block
    is the count that a gate without a window of its own still comes to, unless the input has
    a number of that name. No gate passes that is about an unknown list. -/
theorem lists_agree (blocks : List Block) (input : ChainInput) (ctx : Context) (g : σ)
    (sorted : Dict.Sorted input.lists) :
    let derived := derivedNumbers input ctx
    let begun : State σ := ⟨ctx, g, {}⟩
    let visited := begun.visited input derived blocks
    (visited.head? = some begun ∧
      visited.getLast? = some (run blocks input ctx g).state ∧
      ∀ m ∈ begun.met input derived blocks, m.2 ∈ visited) ∧
    ∀ moment ∈ visited, ∀ listId,
      let v := moment.view input derived
      match Dict.find? listId input.lists with
      | some terms =>
        v.Agrees σ listId terms ∧
          (Dict.find? (countStart ++ listId) input.derived = none →
            Dict.find? (countStart ++ listId) derived = some (Float.ofNat (v.count none terms)))
      | none => ∀ gate : Gate, gate.listId? = some listId → ∀ g : σ, v.passes g gate = false := by
  intro derived begun visited
  refine ⟨⟨?_, ?_, fun _ mem => State.mem_visited_of_mem_met mem⟩, ?_⟩
  · show (begun.visited input derived blocks).head? = some begun
    cases blocks <;> rfl
  · rw [(outcomes_state_run blocks input ctx g).2]
    exact State.getLast?_visited blocks
  · intro moment mem listId v
    have chat : moment.context.chat = ctx.chat := State.chat_of_mem_visited mem
    split
    · rename_i terms known
      refine ⟨GateView.agrees known, fun free => ?_⟩
      have found := find?_derivedNumbers sorted free ctx
      rw [known, Option.map_some, ← chat] at found
      exact found
    · rename_i unknown
      intro gate about g
      exact GateView.passes_of_unknown unknown about g

/-- The last of three messages is outside the list, and a count of another list is given. After
    the block has appended the very word, its own condition would come to the same. -/
theorem lists_agree_after_append :
    let blocks : List Block :=
      [{ conditions := [.gate false (.derivedNumber "count.sweets" .greaterEqual 2)]
         actions := [.append .personality "cake", .memoryText "note" .set "cake"] }]
    let input : ChainInput :=
      { lists := [("sours", ["lime"]), ("sweets", ["cake", "pie"])]
        derived := [("count.sours", 7)] }
    let ctx : Context := { chat := { messages := ["Cake!", "Pie, please.", "Cupcakes?"] } }
    let g : Generator := .ofWords []
    let derived := derivedNumbers input ctx
    let after := (run blocks input ctx g).state
    let v := after.view input derived
    Dict.Sorted input.lists ∧ after.context.character.personality = "cake" ∧
      v.count none ["cake", "pie"] = 2 ∧
      Dict.find? "count.sweets" derived = some (Float.ofNat (v.count none ["cake", "pie"])) ∧
      v.passes g (.anyInList "sweets") = v.passes g (.historyContainsList "sweets" (some 1)) ∧
      v.passes g (.noneInList "salts") = false := by
  intro blocks input ctx g derived after v
  have sorted : Dict.Sorted input.lists := by
    simp only [Dict.Sorted, input]
    decide
  obtain ⟨⟨-, last, -⟩, agree⟩ := lists_agree blocks input ctx g sorted
  have moment := agree after (List.mem_of_getLast? last)
  obtain ⟨sweets, counted⟩ := moment "sweets"
  exact ⟨sorted, by decide +kernel, by decide +kernel, counted rfl, sweets.last g,
    moment "salts" (.noneInList "salts") rfl g⟩

end Chain

end ChatRules
