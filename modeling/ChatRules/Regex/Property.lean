import ChatRules.Regex.CharSet
import ChatRules.Regex.Pattern
import ChatRules.Text.Picture
import ChatRules.Text.Script

/-!
# Classes by name

The classes that a pattern can name: digits, blanks and word characters, the
classes between brackets and colons, and the Unicode properties and scripts. Names of
properties are compared without regard to case, spaces, hyphens and underscores.

Results:

* `isCompared_of_mem_normalizeName`: the form that names are compared in has no spaces,
  hyphens, underscores and capital letters.
-/

namespace ChatRules.Regex

open Text Text.Category

namespace CharSet

/-- Digits, blanks or word characters, of Unicode or of ASCII only. -/
def ofLetterClass (unicode : Bool) : LetterClass → CharSet
  | .digit => if unicode then .runs [decimalNumber] else .range '0' '9'
  | .space =>
    if unicode then .runs [blank] else ofRanges [('\t', '\r'), (' ', ' ')]
  | .word =>
    if unicode then
      .union (.runs (alphabetic ++ mark ++ [decimalNumber, connectorPunctuation]))
        (.range '\u200c' '\u200d')
    else ofRanges [('0', '9'), ('A', 'Z'), ('_', '_'), ('a', 'z')]

/-- The classes between brackets and colons. -/
def ofAsciiName (name : String) : CharSet :=
  match name with
  | "alnum" => ofRanges [('0', '9'), ('A', 'Z'), ('a', 'z')]
  | "alpha" => ofRanges [('A', 'Z'), ('a', 'z')]
  | "ascii" => .range '\x00' '\x7f'
  | "blank" => ofRanges [('\t', '\t'), (' ', ' ')]
  | "cntrl" => ofRanges [('\x00', '\x1f'), ('\x7f', '\x7f')]
  | "digit" => .range '0' '9'
  | "graph" => .range '!' '~'
  | "lower" => .range 'a' 'z'
  | "print" => .range ' ' '~'
  | "punct" => ofRanges [('!', '/'), (':', '@'), ('[', '\x60'), ('\x7b', '~')]
  | "space" => ofRanges [('\t', '\r'), (' ', ' ')]
  | "upper" => .range 'A' 'Z'
  | "word" => ofRanges [('0', '9'), ('A', 'Z'), ('_', '_'), ('a', 'z')]
  | "xdigit" => ofRanges [('0', '9'), ('A', 'F'), ('a', 'f')]
  | _ => .none

/-- The general categories, by their short and long names. -/
def categories : List (List String × CharSet) :=
  [(["c", "other"], .complement (.runs (letter ++ mark ++ number ++ punctuation ++ symbol ++
      separator))),
   (["cc", "control", "cntrl"], .runs [control]),
   (["cf", "format"], .runs [formatCharacter]),
   (["cn", "unassigned"], .complement (.runs assigned)),
   (["co", "privateuse"], .runs [privateUse]),
   (["cs", "surrogate"], .none),
   (["l", "letter"], .runs letter),
   (["lc", "casedletter"], .runs casedLetter),
   (["ll", "lowercaseletter"], .runs [lowercaseLetter]),
   (["lm", "modifierletter"], .runs [modifierLetter]),
   (["lo", "otherletter"], .runs [otherLetter]),
   (["lt", "titlecaseletter"], .runs [titlecaseLetter]),
   (["lu", "uppercaseletter"], .runs [uppercaseLetter]),
   (["m", "mark", "combiningmark"], .runs mark),
   (["mc", "spacingmark"], .runs [spacingMark]),
   (["me", "enclosingmark"], .runs [enclosingMark]),
   (["mn", "nonspacingmark"], .runs [nonspacingMark]),
   (["n", "number"], .runs number),
   (["nd", "decimalnumber", "digit"], .runs [decimalNumber]),
   (["nl", "letternumber"], .runs [letterNumber]),
   (["no", "othernumber"], .runs [otherNumber]),
   (["p", "punctuation", "punct"], .runs punctuation),
   (["pc", "connectorpunctuation"], .runs [connectorPunctuation]),
   (["pd", "dashpunctuation"], .runs [dashPunctuation]),
   (["pe", "closepunctuation"], .runs [closePunctuation]),
   (["pf", "finalpunctuation"], .runs [finalPunctuation]),
   (["pi", "initialpunctuation"], .runs [initialPunctuation]),
   (["po", "otherpunctuation"], .runs [otherPunctuation]),
   (["ps", "openpunctuation"], .runs [openPunctuation]),
   (["s", "symbol"], .runs symbol),
   (["sc", "currencysymbol"], .runs [currencySymbol]),
   (["sk", "modifiersymbol"], .runs [modifierSymbol]),
   (["sm", "mathsymbol"], .runs [mathSymbol]),
   (["so", "othersymbol"], .runs [otherSymbol]),
   (["z", "separator"], .runs separator),
   (["zl", "lineseparator"], .runs [lineSeparator]),
   (["zp", "paragraphseparator"], .runs [paragraphSeparator]),
   (["zs", "spaceseparator"], .runs [spaceSeparator]),
   (["any"], .all),
   (["assigned"], .runs assigned),
   (["ascii"], .range '\x00' '\x7f')]

/-- The properties that a character has or has not. -/
def binaryProperties : List (List String × CharSet) :=
  [(["alphabetic", "alpha"], .runs alphabetic),
   (["lowercase", "lower"],
      .union (.runs [lowercaseLetter])
        (difference (.runs [Additions.otherCased]) (.runs [otherUppercase]))),
   (["uppercase", "upper"], .runs [uppercaseLetter, otherUppercase]),
   (["cased"], .runs cased),
   (["caseignorable", "ci"], .runs caseIgnorable),
   (["graphemeextend", "grext"], .runs graphemeExtend),
   (["whitespace", "wspace", "space"], .runs [blank]),
   (["asciihexdigit", "ahex"], ofAsciiName "xdigit"),
   (["hexdigit", "hex"],
      ofRanges [('0', '9'), ('A', 'F'), ('a', 'f'), ('\uff10', '\uff19'), ('\uff21', '\uff26'),
        ('\uff41', '\uff46')]),
   (["emoji"], .runs [emoji]),
   (["emojipresentation", "epres"], .runs [emojiPresentation]),
   (["emojimodifier", "emod"], .runs [emojiModifier]),
   (["emojimodifierbase", "ebase"], .runs [emojiModifierBase]),
   (["emojicomponent", "ecomp"], .runs [emojiComponent]),
   (["extendedpictographic", "extpict"], .runs [extendedPictographic]),
   (["ideographic", "ideo"], .runs [ideographic]),
   (["regionalindicator", "ri"], .range '🇦' '🇿'),
   (["joincontrol", "joinc"], .range '\u200c' '\u200d')]

/-- The scripts. -/
def scripts : List (List String × CharSet) := Text.scripts.map fun s => (s.1, .runs [s.2])

end CharSet

/-- The first entry with a name. -/
def named? (table : List (List String × CharSet)) (name : String) : Option CharSet :=
  (table.find? fun e => e.1.contains name).map (·.2)

/-- A name in the form that names are compared in. -/
def normalizeName (name : String) : String :=
  let squeeze (cs : List Char) : List Char :=
    (cs.filter fun c => c.toNat < 128 && c != ' ' && c != '_' && c != '-').map Char.toLower
  match name.toList with
  | a :: b :: rest =>
    if a.toLower = 'i' && b.toLower = 's' then
      let short := squeeze rest
      String.ofList (if short = ['c'] then ['i', 's', 'c'] else short)
    else String.ofList (squeeze (a :: b :: rest))
  | cs => String.ofList (squeeze cs)

/-- Whether a character counts when names are compared. -/
def isCompared (c : Char) : Bool :=
  c.toNat < 128 && c != ' ' && c != '_' && c != '-' && !c.isUpper

theorem isCompared_toLower {c : Char} (ascii : c.toNat < 128) (space : c ≠ ' ') (under : c ≠ '_')
    (hyphen : c ≠ '-') : isCompared c.toLower := by
  have all : ∀ n : Fin 128, Char.ofNat n ≠ ' ' → Char.ofNat n ≠ '_' → Char.ofNat n ≠ '-' →
      isCompared (Char.ofNat n).toLower := by decide +kernel
  have here := all ⟨c.toNat, ascii⟩
  rw [Char.ofNat_toNat] at here
  exact here space under hyphen

/-- The form that names are compared in has no spaces, hyphens, underscores and capital
    letters. -/
theorem isCompared_of_mem_normalizeName {c : Char} {name : String}
    (mem : c ∈ (normalizeName name).toList) : isCompared c := by
  have squeezed {cs : List Char} (h : c ∈ (cs.filter fun c =>
      c.toNat < 128 && c != ' ' && c != '_' && c != '-').map Char.toLower) : isCompared c := by
    obtain ⟨d, kept, rfl⟩ := List.mem_map.1 h
    have counts := (List.mem_filter.1 kept).2
    simp only [Bool.and_eq_true, decide_eq_true_eq, bne_iff_ne] at counts
    obtain ⟨⟨⟨ascii, space⟩, under⟩, hyphen⟩ := counts
    exact isCompared_toLower ascii space under hyphen
  unfold normalizeName at mem
  split at mem
  · split at mem
    · rw [String.toList_ofList] at mem
      split at mem
      · -- An `is` stays before the single letter `c`.
        have letters : c = 'i' ∨ c = 's' ∨ c = 'c' := by simpa using mem
        rcases letters with rfl | rfl | rfl <;> rfl
      · exact squeezed mem
    · exact squeezed (String.toList_ofList ▸ mem)
  · exact squeezed (String.toList_ofList ▸ mem)

example : (normalizeName "Is_Greek", normalizeName "isc") = ("greek", "isc") := by decide +kernel

/-- The class with a name: a property before a category, and a category before a script,
    except for the names that a property shares with a category, where the category
    wins. -/
def byName (name : String) : Except ErrorKind CharSet :=
  let name := normalizeName name
  let property :=
    if name = "cf" || name = "sc" || name = "lc" then none
    else named? CharSet.binaryProperties name
  match (property.or (named? CharSet.categories name)).or (named? CharSet.scripts name) with
  | some set => .ok set
  | none => .error .propertyNotFound

/-- The class of the characters for which a property has a value. -/
def byValue (name value : String) : Except ErrorKind CharSet :=
  let name := normalizeName name
  let among (table : List (List String × CharSet)) : Except ErrorKind CharSet :=
    match named? table (normalizeName value) with
    | some set => .ok set
    | none => .error .propertyValueNotFound
  if name = "gc" || name = "generalcategory" then among CharSet.categories
  else if name = "sc" || name = "script" then among CharSet.scripts
  else if (named? CharSet.binaryProperties name).isSome then .error .propertyValueNotFound
  else .error .propertyNotFound

/-- The class that a name stands for, and whether the name itself negates it. -/
def PropertyName.set : PropertyName → Except ErrorKind (CharSet × Bool)
  | .letter c => (byName (String.singleton c)).map (·, false)
  | .name s => (byName s).map (·, false)
  | .value negated property wanted => (byValue property wanted).map (·, negated)

end ChatRules.Regex
