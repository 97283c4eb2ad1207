import ChatRules.Regex.Meaning
import ChatRules.Regex.Parse
import ChatRules.Regex.Search

/-!
# Regular expressions

A pattern with its flags is compiled once and searched for in texts. The flags `g`, `u` and
`y` are accepted and change nothing. Which patterns are accepted, and what they match, is up
to an engine; conditions are validated and evaluated alike with every one.

The standard engine has the syntax of patterns with their classes, groups, repetitions and
anchors. Of the properties of characters it knows the general categories, the scripts and
those of `CharSet.binaryProperties`; it refuses the others, such as `Math`, `Dash`,
`XID_Start`, the ages, the extensions of scripts and the kinds of breaks. The size by which
it finds a pattern too large is an estimate.

Models `build_regex` (`SPEC_FULL.md` §2.2).

Results:

* `compile_withoutIgnored`: flags that are accepted without effect can be left out.
-/

namespace ChatRules

/-- A compiled pattern, as its first match in a text. -/
structure Regex where
  find? : String → Option Regex.Match

namespace Regex

/-- Why a pattern is refused. -/
inductive CompileError where
  | unsupportedFlag (flag : Char)
  | refused (message : String)
deriving DecidableEq, Repr

/-- The text of an error. -/
def CompileError.message : CompileError → String
  | .unsupportedFlag flag => "unsupported regex flag: " ++ flag.toString
  | .refused message => message

/-- The options that flags stand for. -/
structure Options where
  ignoreCase : Bool := false
  multiLine : Bool := false
  dotAll : Bool := false
  ignoreBlanks : Bool := false
deriving DecidableEq, Repr

/-- Whether a flag is accepted and changes nothing. -/
def isIgnored (flag : Char) : Bool := flag = 'g' || flag = 'u' || flag = 'y'

/-- The options with one more flag. -/
def Options.add (o : Options) : Char → Except CompileError Options
  | 'i' => .ok { o with ignoreCase := true }
  | 'm' => .ok { o with multiLine := true }
  | 's' => .ok { o with dotAll := true }
  | 'x' => .ok { o with ignoreBlanks := true }
  | flag => if isIgnored flag then .ok o else .error (.unsupportedFlag flag)

/-- The options that a text of flags stands for. -/
def Options.ofChars (flags : List Char) : Except CompileError Options :=
  flags.foldlM Options.add {}

/-- What compiles patterns. -/
class Engine where
  /-- The compiled pattern, or why the pattern is refused. -/
  build : Options → String → Except String Regex

/-- Compiles a pattern. The flags are looked at before the pattern. -/
def compile [Engine] (pattern flags : String) : Except CompileError Regex := do
  let options ← Options.ofChars flags.toList
  (Engine.build options pattern).mapError .refused

/-! ## The standard engine -/

/-- The expression of a pattern. -/
def exprOf (o : Options) (pattern : String) : Except Error Expr := do
  let flags : Flags :=
    { ignoreCase := o.ignoreCase, multiLine := o.multiLine, dotAll := o.dotAll }
  let (e, _) ← (← parse pattern o.ignoreBlanks).expr flags
  return e

instance standard : Engine where
  build o pattern :=
    match exprOf o pattern with
    | .error e => .error (e.report pattern)
    | .ok e =>
      if sizeLimit < e.weight then
        .error ("Compiled regex exceeds size limit of " ++ toString sizeLimit ++ " bytes.")
      else .ok ⟨e.program.find?⟩

/-! ## Flags without effect -/

theorem Options.add_of_isIgnored {flag : Char} (ignored : isIgnored flag = true) (o : Options) :
    o.add flag = .ok o := by
  simp only [isIgnored, Bool.or_eq_true, decide_eq_true_eq] at ignored
  rcases ignored with (rfl | rfl) | rfl <;> rfl

theorem Options.foldlM_add_filter (flags : List Char) (o : Options) :
    (flags.filter (!isIgnored ·)).foldlM Options.add o = flags.foldlM Options.add o := by
  induction flags generalizing o with
  | nil => rfl
  | cons flag rest ih =>
    cases ignored : isIgnored flag with
    | true =>
      rw [List.filter_cons_of_neg (by simp [ignored]), List.foldlM_cons, add_of_isIgnored ignored]
      exact ih o
    | false =>
      rw [List.filter_cons_of_pos (by simp [ignored]), List.foldlM_cons, List.foldlM_cons]
      simp only [ih]

/-- Flags that are accepted without effect can be left out, wherever they stand. -/
theorem compile_withoutIgnored [Engine] (pattern flags : String) :
    compile pattern (String.ofList (flags.toList.filter (!isIgnored ·))) =
      compile pattern flags := by
  rw [compile, compile, String.toList_ofList, Options.ofChars, Options.ofChars,
    Options.foldlM_add_filter]

end Regex

end ChatRules
