import ChatRules.Chain.Gate
import ChatRules.Proofs.Condition.Window

/-!
# Gates about the history

Two kinds of gates look at the last messages: one counts those that mention a list, one asks
whether there are any. Like the count of a condition they look at no message before their
window, so that with any history in front they come to the same, and say the same.

Results:

* `recent_append`: messages before the window are not among the recent ones.
* `decideGate_append`: nor do they matter to a gate about the history.
* `counts_within_window`: counts of conditions and of gates see exactly their window.
-/

namespace ChatRules

/-- The window of a gate about the history: its own, or else the one that is given. -/
def Gate.historyWindow? (given : Nat) : Gate → Option Nat
  | .countInHistory _ window _ _ | .historyContainsList _ window => some (window.getD given)
  | _ => none

namespace Chain

variable {σ : Type} [RandomSource σ]

/-- Messages before the window are not among the recent ones. -/
theorem recent_append {latest : List String} {window : Nat} (filled : window ≤ latest.length)
    (before : List String) : recent (before ++ latest) window = recent latest window := by
  rw [recent, recent, drop_append_window filled]

/-- One view of the messages sees those of another one and older ones, and the same lists. -/
structure GateView.SeesMore (v latest : GateView) : Prop where
  messages : latest.context.chat.messages <:+ v.context.chat.messages
  lists : v.lists = latest.lists
  window : v.window = latest.window

/-- **A gate about the history does not depend on messages before its window**, and on nothing
    else in the context. -/
theorem decideGate_append {v latest : GateView} (more : v.SeesMore latest) {gate : Gate}
    {window : Nat} (about : gate.historyWindow? latest.window = some window)
    (filled : window ≤ latest.context.chat.messages.length) (g : σ) :
    decideGate v g gate = decideGate latest g gate := by
  obtain ⟨before, messages⟩ := more.messages
  have same : recent v.context.chat.messages window =
      recent latest.context.chat.messages window := by
    rw [← messages, recent_append filled]
  cases gate with
  | countInHistory listId own op value =>
    obtain rfl : own.getD latest.window = window := Option.some.inj about
    simp only [decideGate, withList, mentionCount, more.lists, more.window, same]
  | historyContainsList listId own =>
    obtain rfl : own.getD latest.window = window := Option.some.inj about
    simp only [decideGate, withList, more.lists, more.window, same]
  | _ => cases about

end Chain

/-- **Counts see exactly their window.** A count is decided on the items of the value that its
    source gives. Its reason tells, from first to last and none twice, the places in the window
    at the end of the list whose items have a term; how many these are, of how many items that
    were considered; and it passes exactly if there are enough of them. With any items in front
    of a list that fills the window it passes alike and comes to the same number. So does a gate
    about the history, whatever messages stand before its window. -/
theorem counts_within_window {σ : Type} [RandomSource σ] :
    (∀ (terms : List String) (window least : Nat) (mode : MatchMode) (source : String),
      let test := Test.countInWindow terms window least mode
      (∀ read, (test.evaluate read source).result =
        (read source).result.map (test.judge source)) ∧
      (∀ value?, ∃ places, (test.judge source value?).CountsWindow (countedItems value?) terms
        window least mode places) ∧
      ∀ before value? latest?, countedItems value? = before ++ countedItems latest? →
        window ≤ (countedItems latest?).length →
          (test.judge source value?).ok = (test.judge source latest?).ok ∧
          Dict.find? "count" (test.judge source value?).details =
            Dict.find? "count" (test.judge source latest?).details) ∧
    ∀ (v latest : Chain.GateView) (gate : Gate) (window : Nat) (g : σ),
      v.SeesMore latest → gate.historyWindow? latest.window = some window →
        window ≤ latest.context.chat.messages.length →
          Chain.decideGate v g gate = Chain.decideGate latest g gate := by
  constructor
  · intro terms window least mode source test
    refine ⟨fun read => Test.result_evaluate_countInWindow read source, fun value? => ?_, ?_⟩
    · exact ⟨_, Test.countsWindow_judge source value?⟩
    · intro before value? latest? longer filled
      exact Test.judge_countInWindow_append longer filled source
  · intro v latest gate window g more about filled
    exact Chain.decideGate_append more about filled g

/-- The last three of five messages fill the window. Of the messages before it one would count,
    and of those in it one has the term within a word only. -/
theorem counts_within_window_of_three :
    let latest := ["Cake, please", "Cupcakes?", "PIE!"]
    let all := ["A cake.", "No."] ++ latest
    let test := Test.countInWindow ["cake", "pie"] 3 2 .word
    let gate := Gate.countInHistory "sweets" none .equal 2
    let view (messages : List String) : Chain.GateView :=
      { context := { chat := { messages } }, lists := [("sweets", ["cake", "pie"])], window := 3 }
    let g : Generator := .ofWords []
    (∃ places, (test.judge "history.raw" (some (.list all))).CountsWindow all ["cake", "pie"] 3 2
        .word places) ∧
      hitsInWindow all ["cake", "pie"] 3 .word = [2, 4] ∧
      countedItems (some (.list all)) = ["A cake.", "No."] ++ countedItems (some (.list latest)) ∧
      3 ≤ (countedItems (some (.list latest))).length ∧
      (test.judge "history.raw" (some (.list all))).ok =
        (test.judge "history.raw" (some (.list latest))).ok ∧
      Dict.find? "count" (test.judge "history.raw" (some (.list all))).details =
        Dict.find? "count" (test.judge "history.raw" (some (.list latest))).details ∧
      (view all).SeesMore (view latest) ∧
      gate.historyWindow? (view latest).window = some 3 ∧
      Chain.decideGate (view all) g gate = Chain.decideGate (view latest) g gate := by
  intro latest all test gate view g
  obtain ⟨counts, gates⟩ := @counts_within_window Generator _
  obtain ⟨-, told, alike⟩ := counts ["cake", "pie"] 3 2 .word "history.raw"
  have more : (view all).SeesMore (view latest) := ⟨⟨["A cake.", "No."], rfl⟩, rfl, rfl⟩
  have filled : 3 ≤ (countedItems (some (.list latest))).length := by decide
  obtain ⟨passes, counted⟩ :=
    alike ["A cake.", "No."] (some (.list all)) (some (.list latest)) rfl filled
  exact ⟨told (some (.list all)), by decide +kernel, rfl, filled, passes, counted, more, rfl,
    gates (view all) (view latest) gate 3 g more rfl (by decide)⟩

end ChatRules
