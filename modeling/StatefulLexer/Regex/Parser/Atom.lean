/-
The smallest parts of a pattern: characters, escapes, short classes, properties
and assertions.

What follows a backslash decides everything. Inside hexadecimal escapes and
property names, verbose mode skips blanks between any two characters.
-/
import StatefulLexer.Regex.Reader
import StatefulLexer.Regex.Pattern

set_option autoImplicit false

namespace StatefulLexer.Regex

/-! ## Characters -/

/-- The characters that mean something in a pattern. -/
def metaChars : List Char :=
  ['\\', '.', '+', '*', '?', '(', ')', '|', '[', ']', '\x7b', '\x7d', '^', '$', '#', '&', '-', '~']

/-- The character means something in a pattern. -/
def isMeta (c : Char) : Bool := metaChars.contains c

/-- The characters that a backslash makes stand for themselves: the ASCII
characters other than letters, digits and the two angle brackets. -/
def isEscapable (c : Char) : Bool :=
  decide (c.toNat < 0x80) && !c.isAlphanum && c != '<' && c != '>'

/-- The characters that have a letter of their own. -/
def controlOf? : Char → Option Char
  | 'a' => some '\x07'
  | 'f' => some '\x0c'
  | 't' => some '\t'
  | 'n' => some '\n'
  | 'r' => some '\r'
  | 'v' => some '\x0b'
  | _ => none

/-- The value of a hexadecimal digit. -/
def hexValue? (c : Char) : Option Nat :=
  if '0' ≤ c ∧ c ≤ '9' then some (c.toNat - '0'.toNat)
  else if 'a' ≤ c ∧ c ≤ 'f' then some (c.toNat - 'a'.toNat + 10)
  else if 'A' ≤ c ∧ c ≤ 'F' then some (c.toNat - 'A'.toNat + 10)
  else none

/-- The character with a code, if there is one. -/
def scalar? (code : Nat) : Option Char :=
  if h : code.isValidChar then some (Char.ofNatAux code h) else none

/-- A part of a pattern that is also allowed to stand at either end of a range
in a class, or alone there, unless it is an assertion or the dot. -/
inductive Atom where
  | literal (l : Literal)
  | dot (region : Region)
  | assertion (region : Region) (kind : Assertion)
  | property (region : Region) (negated : Bool) (query : PropertyQuery)
  | short (region : Region) (negated : Bool) (kind : ShortClass)

namespace Atom

/-- The stretch of an atom. -/
def region : Atom → Region
  | literal l => l.region
  | dot r => r
  | assertion r _ => r
  | property r _ _ => r
  | short r _ _ => r

/-- The atom as a pattern. -/
def toPattern : Atom → Pattern
  | literal l => .literal l
  | dot r => .dot r
  | assertion r kind => .assertion r kind
  | property r negated query => .property r negated query
  | short r negated kind => .short r negated kind

end Atom

/-! ## Hexadecimal escapes -/

/-- The digits of an escape without braces: `count` of them, the reader standing
at the first. The value so far is `code`. -/
def hexFixed (code : Nat) : Nat → Reader → Except Fault (Nat × Reader)
  | 0, r => .ok (code, r)
  | count + 1, r =>
    match r.peek? with
    | none => fault .escapeUnexpectedEnd r.point
    | some c =>
      match hexValue? c with
      | none => fault .hexDigitInvalid r.charRegion
      | some v => hexFixed (16 * code + v) count r.advanceSkip

/-- The digits of an escape in braces, up to the closing brace. `brace` is the
place of the opening one. -/
def hexBraced (brace : Place) (r : Reader) (digits : List Char) :
    Except Fault (List Char × Reader) :=
  match h : r.rest with
  | [] => fault .escapeUnexpectedEnd ⟨brace, r.place⟩
  | (c, _) :: _ =>
    if c = '}' then .ok (digits, r)
    else if (hexValue? c).isSome then
      have := r.length_advanceSkip_lt h
      hexBraced brace r.advanceSkip (digits ++ [c])
    else fault .hexDigitInvalid r.charRegion
termination_by r.rest.length

/-- A hexadecimal escape; the reader stands at its letter, behind the backslash
at `start`. -/
def hexEscape (start : Place) (letter : HexLetter) (r : Reader) : Except Fault (Atom × Reader) := do
  let r := r.advanceSkip
  match r.peek? with
  | none => fault .escapeUnexpectedEnd r.point
  | some '{' =>
    let brace := r.place
    let first := r.advance.place
    let (digits, r) ← hexBraced brace r.advanceSkip []
    let last := r.place
    let r := r.advanceSkip
    if digits.isEmpty then fault .hexEmpty ⟨brace, r.place⟩
    else
      let code := digits.foldl (fun n c => 16 * n + (hexValue? c).getD 0) 0
      match scalar? code with
      | none => fault .hexNotScalar ⟨first, last⟩
      | some c => .ok (.literal ⟨⟨start, r.place⟩, c, .hexBraced letter⟩, r)
  | some _ =>
    let first := r.place
    let (code, r) ← hexFixed 0 letter.digits r
    match scalar? code with
    | none => fault .hexNotScalar ⟨first, r.place⟩
    | some c => .ok (.literal ⟨⟨start, r.place⟩, c, .hex letter⟩, r)

/-! ## Properties -/

/-- The text up to a closing brace. -/
def propertyName (r : Reader) (name : List Char) : Except Fault (List Char × Reader) :=
  match h : r.rest with
  | [] => fault .escapeUnexpectedEnd r.point
  | (c, _) :: _ =>
    have := r.length_advanceSkip_lt h
    if c = '}' then .ok (name, r) else propertyName r.advanceSkip (name ++ [c])
termination_by r.rest.length

/-- The text before and behind the first place where `sign` stands. -/
def splitAtFirst? (sign : List Char) : List Char → Option (List Char × List Char)
  | [] => none
  | c :: text =>
    if sign.isPrefixOf (c :: text) then some ([], (c :: text).drop sign.length)
    else (splitAtFirst? sign text).map fun (before, behind) => (c :: before, behind)

/-- The query that a name in braces is. A sign of inequality is looked for
first, then a colon, then a sign of equality. -/
def queryOf (name : List Char) : PropertyQuery :=
  match splitAtFirst? ['!', '='] name with
  | some (property, value) => .valued .notEqual property value
  | none =>
    match splitAtFirst? [':'] name with
    | some (property, value) => .valued .colon property value
    | none =>
      match splitAtFirst? ['='] name with
      | some (property, value) => .valued .equal property value
      | none => .named name

/-- A class of characters with a property; the reader stands at its letter,
behind the backslash at `start`. -/
def propertyEscape (start : Place) (negated : Bool) (r : Reader) :
    Except Fault (Atom × Reader) := do
  let r := r.advanceSkip
  match r.peek? with
  | none => fault .escapeUnexpectedEnd r.point
  | some '{' =>
    let (name, r) ← propertyName r.advanceSkip []
    let r := r.advance
    .ok (.property ⟨start, r.place⟩ negated (queryOf name), r)
  | some '\\' => fault .propertyInvalid r.charRegion
  | some c =>
    let r := r.advanceSkip
    .ok (.property ⟨start, r.place⟩ negated (.letter c), r)

/-! ## Word boundaries -/

/-- The word boundaries with a name in braces. -/
def boundaryOfName? (name : List Char) : Option Assertion :=
  if name = "start".toList then some .wordStart
  else if name = "end".toList then some .wordEnd
  else if name = "start-half".toList then some .wordStartHalf
  else if name = "end-half".toList then some .wordEndHalf
  else none

/-- The characters of such names. -/
def isBoundaryChar (c : Char) : Bool := c.isAlpha || c == '-'

/-- The name of a word boundary in braces, if that is what the brace at the
reader begins. A brace with something else than a letter behind it is left for
the count of a repetition. `start` is the place of the backslash. -/
def namedBoundary? (start : Place) (r : Reader) : Except Fault (Option (Assertion × Reader)) :=
  let brace := r.place
  let r := r.advanceSkip
  match r.peek? with
  | none => fault .wordBoundaryOrCountUnclosed ⟨start, r.place⟩
  | some c =>
    if isBoundaryChar c then
      let first := r.place
      let (name, r) := r.readWhile isBoundaryChar []
      if r.peek? = some '}' then
        match boundaryOfName? name with
        | some kind => .ok (some (kind, r.advance))
        | none => fault .wordBoundaryUnrecognized ⟨first, r.place⟩
      else fault .wordBoundaryUnclosed ⟨brace, r.place⟩
    else .ok none

/-! ## Escapes -/

/-- The short class of a letter. -/
def shortOf? : Char → Option (Bool × ShortClass)
  | 'd' => some (false, .digit)
  | 's' => some (false, .space)
  | 'w' => some (false, .word)
  | 'D' => some (true, .digit)
  | 'S' => some (true, .space)
  | 'W' => some (true, .word)
  | _ => none

/-- The letter of a hexadecimal escape. -/
def hexLetterOf? : Char → Option HexLetter
  | 'x' => some .x
  | 'u' => some .u
  | 'U' => some .U
  | _ => none

/-- The assertions with a letter or an angle bracket. -/
def assertionOf? : Char → Option Assertion
  | 'A' => some .textStart
  | 'z' => some .textEnd
  | 'b' => some .wordBoundary
  | 'B' => some .notWordBoundary
  | '<' => some .wordStartAngle
  | '>' => some .wordEndAngle
  | _ => none

/-- **An escape;** the reader stands at the backslash. -/
def escape (r : Reader) : Except Fault (Atom × Reader) := do
  let start := r.place
  let r := r.advance
  match r.peek? with
  | none => fault .escapeUnexpectedEnd ⟨start, r.place⟩
  | some c =>
    let region : Region := ⟨start, r.advance.place⟩
    if c.isDigit then fault .backreferenceUnsupported region
    else if let some letter := hexLetterOf? c then hexEscape start letter r
    else if c = 'p' ∨ c = 'P' then propertyEscape start (c == 'P') r
    else
      let r := r.advance
      if let some (negated, kind) := shortOf? c then .ok (.short region negated kind, r)
      else if isEscapable c then .ok (.literal ⟨region, c, .escaped⟩, r)
      else if let some control := controlOf? c then
        .ok (.literal ⟨region, control, .control c⟩, r)
      else
        match assertionOf? c with
        | none => fault .escapeUnrecognized region
        | some kind =>
          if c = 'b' ∧ r.peek? = some '{' then
            match ← namedBoundary? start r with
            | some (named, r) => .ok (.assertion ⟨start, r.place⟩ named, r)
            | none => .ok (.assertion region kind, r)
          else .ok (.assertion region kind, r)

/-- **An atom outside of a class;** the reader stands at its first character. -/
def atom (r : Reader) : Except Fault (Atom × Reader) :=
  match r.peek? with
  | some '\\' => escape r
  | some '.' => .ok (.dot r.charRegion, r.advance)
  | some '^' => .ok (.assertion r.charRegion .lineStart, r.advance)
  | some '$' => .ok (.assertion r.charRegion .lineEnd, r.advance)
  | some c => .ok (.literal ⟨r.charRegion, c, .plain⟩, r.advance)
  | none => fault .escapeUnexpectedEnd r.point

/-- **An atom inside of a class,** where only the backslash is special. -/
def classAtom (r : Reader) : Except Fault (Atom × Reader) :=
  match r.peek? with
  | some '\\' => escape r
  | some c => .ok (.literal ⟨r.charRegion, c, .plain⟩, r.advance)
  | none => fault .escapeUnexpectedEnd r.point

end StatefulLexer.Regex
