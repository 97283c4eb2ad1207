import ChatRules.Context
import ChatRules.Text.Search

/-!
# Lists of terms in messages

A normalized message mentions a term if the words of the normalized term stand in
it one after the other. The recent messages are those in a window at the end of
the history.

Models `recent_history`, `mentions` and `derive_list_counts` (`SPEC_FULL.md` §2.7).

Results:

* `recent_length`: the window is filled as far as there are messages.
-/

namespace ChatRules.Chain

/-- The last messages, normalized, the oldest first. -/
def recent (messages : List String) (window : Nat) : List String :=
  (messages.drop (messages.length - window)).map Text.normalize

/-- Whether a normalized text mentions a term. A term without words is never mentioned. -/
def mentions (text term : String) : Bool :=
  let term := Text.normalize term
  !term.isEmpty && Text.holds (" " ++ text ++ " ") (" " ++ term ++ " ")

/-- Whether a normalized text mentions one of several terms. -/
def mentionsAny (text : String) (terms : List String) : Bool := terms.any (mentions text)

/-- How many of the last messages mention one of several terms. -/
def mentionCount (messages : List String) (window : Nat) (terms : List String) : Nat :=
  ((recent messages window).filter fun m => mentionsAny m terms).length

/-- What stands before the name of a list to make it a derived number. -/
def countStart : String := "count."

/-- For every list, how many of the last messages mention one of its terms. -/
def listCounts (ctx : Context) (lists : List (String × List String)) (window : Nat) :
    List (String × Float) :=
  Dict.ofList (lists.map fun (id, terms) =>
    (countStart ++ id, Float.ofNat (mentionCount ctx.chat.messages window terms)))

theorem recent_length (messages : List String) (window : Nat) :
    (recent messages window).length = min window messages.length := by
  simp [recent]
  omega

end ChatRules.Chain
