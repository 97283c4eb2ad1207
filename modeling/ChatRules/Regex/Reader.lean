import ChatRules.Regex.Pattern
import ChatRules.Text.Property

/-!
# The reader of patterns

A pattern is read from left to right. The state of the reader is the text that
is left, the place in the pattern, whether blanks are ignored, and the names
given to groups. A step that fails says where.

Results:

* `skip_suffix`: skipping blanks and comments only takes from the front.
-/

namespace ChatRules.Regex

/-- The state of the reader. -/
structure ReadState where
  rest : List Char
  position : Position := .start
  ignoreBlanks : Bool := false
  names : List (String × Span) := []

/-- A step of the reader. -/
abbrev Reader := StateT ReadState (Except Error)

namespace Reader

/-- Fails at a stretch. -/
def fail {α : Type} (kind : ErrorKind) (span : Span) (other : Option Span := none) : Reader α :=
  throw ⟨kind, span, other⟩

/-- The place in the pattern. -/
def place : Reader Position := return (← get).position

/-- The empty stretch at the place. -/
def here : Reader Span := do
  let p ← place
  return ⟨p, p⟩

/-- The stretch from a place to this one. -/
def since (first : Position) : Reader Span := return ⟨first, ← place⟩

/-- The next character. -/
def peek? : Reader (Option Char) := return (← get).rest.head?

/-- The stretch of the next character. -/
def charSpan : Reader Span := do
  let s ← get
  match s.rest with
  | [] => return ⟨s.position, s.position⟩
  | c :: _ => return ⟨s.position, s.position.after c⟩

/-- Goes past a character; whether another one follows. -/
def bump : Reader Bool := do
  let s ← get
  match s.rest with
  | [] => return false
  | c :: rest =>
    set { s with rest, position := s.position.after c }
    return !rest.isEmpty

/-- Goes past blanks and comments, which reach to the end of a line. -/
def skip (inComment : Bool) : List Char → Position → List Char × Position
  | [], p => ([], p)
  | c :: rest, p =>
    if inComment then skip (c != '\n') rest (p.after c)
    else if Text.isBlank c then skip false rest (p.after c)
    else if c = '#' then skip true rest (p.after c)
    else (c :: rest, p)

theorem skip_suffix (inComment : Bool) (text : List Char) (p : Position) :
    (skip inComment text p).1 <:+ text := by
  induction text generalizing inComment p with
  | nil => exact List.suffix_refl []
  | cons c rest ih =>
    unfold skip
    split
    · exact (ih _ _).trans (List.suffix_cons c rest)
    · split
      · exact (ih _ _).trans (List.suffix_cons c rest)
      · split
        · exact (ih _ _).trans (List.suffix_cons c rest)
        · exact List.suffix_refl _

/-- Goes past blanks and comments where they are ignored. -/
def bumpSpace : Reader Unit := do
  let s ← get
  if s.ignoreBlanks then
    let (rest, position) := skip false s.rest s.position
    set { s with rest, position }

/-- Goes past a character and what is ignored after it; whether another one follows. -/
def bumpAndSpace : Reader Bool := do
  if ← bump then
    bumpSpace
    return !(← get).rest.isEmpty
  else return false

/-- Goes past a given text, if it comes next. -/
def bumpIf (text : List Char) : Reader Bool := do
  let s ← get
  if text.isPrefixOf s.rest then
    set { s with
      rest := s.rest.drop text.length
      position := text.foldl Position.after s.position }
    return true
  else return false

/-- The character after the next one, where blanks and comments are ignored. -/
def peekSpace? : Reader (Option Char) := do
  let s ← get
  let after := s.rest.drop 1
  if s.ignoreBlanks then return skipOnce false after else return after.head?
where
  skipOnce (inComment : Bool) : List Char → Option Char
    | [] => none
    | c :: rest =>
      if Text.isBlank c then skipOnce inComment rest
      else if !inComment && c == '#' then skipOnce true rest
      else some c

/-- The characters of a kind that come next, at most `fuel`. -/
def collect (isWanted : Char → Bool) (step : Reader Bool) : Nat → Reader (List Char)
  | 0 => return []
  | fuel + 1 => do
    match ← peek? with
    | some c =>
      if isWanted c then
        let _ ← step
        return c :: (← collect isWanted step fuel)
      else return []
    | none => return []

/-- As many steps as there are characters left. -/
def fuel : Reader Nat := return (← get).rest.length + 1

end Reader

end ChatRules.Regex
