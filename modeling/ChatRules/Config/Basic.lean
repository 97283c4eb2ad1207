import ChatRules.Progressive.Run
import ChatRules.Source.Builtin

/-!
# Configurations

What tunes the running of rules and blocks: strict reads, the targets that may be
written to and their names, the sources that modules may read, lists of terms,
the window of the history, and a seed.

Models `EngineConfig` with `registry`, `aliases`, `progressive_options` and `chain_input`
(`SPEC_FULL.md` §3.3).
-/

namespace ChatRules

/-- The window of the history where none is given. -/
def defaultWindow : Nat := 10

/-- A configuration. -/
structure Config where
  version : Nat := 1
  strictReads : Bool := false
  allowedTargets : List String :=
    ["character.personality", "character.scenario", "character.example_dialogs"]
  targetAliases : List (String × String) := []
  allowlists : List (String × List String) := []
  lists : List (String × List String) := []
  historyWindow : Nat := defaultWindow
  seed : Option Nat := none
deriving DecidableEq, Repr

namespace Config

/-- The version of configurations that is understood. -/
def currentVersion : Nat := 1

/-- The standard sources with the restrictions of the configuration. -/
def registry (c : Config) : Registry :=
  c.allowlists.foldl (fun r e => r.setAllowlist e.1 e.2) .standard

/-- The names of targets: those of the configuration over the ones always known. -/
def aliases (c : Config) : List (String × String) :=
  Dict.override defaultAliases c.targetAliases

/-- The targets that may be written to, in order and each once. -/
def targetSet (c : Config) : List String :=
  (Dict.ofList (c.allowedTargets.map fun t => (t, ()))).map (·.1)

/-- The options of a progressive run. -/
def progressiveOptions (c : Config) : ProgressiveOptions where
  allowedTargets := c.targetSet
  aliases := c.aliases
  strict := c.strictReads

/-- Lists of terms over those of the configuration. -/
def mergedLists (c : Config) (lists : List (String × List String)) :
    List (String × List String) :=
  Dict.override c.lists lists

end Config

end ChatRules
