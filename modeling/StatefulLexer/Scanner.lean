/-
Scanners.

A scanner is a table, a buffer with a place in it, and the states the scanner is
and was in. Every step takes a match off the front of what lies ahead and turns
it into a token. A match that was found behind a gap waits until the gap has
been handed out.
-/
import StatefulLexer.Table
import StatefulLexer.Text.Excerpt
import StatefulLexer.Token

set_option autoImplicit false

namespace StatefulLexer

/-- A scanner over a buffer. -/
structure Scanner where
  table : Table
  cursor : Cursor
  position : Position
  state : StateId
  /-- The remembered states, last one first. -/
  stack : List StateId
  /-- The matches that were found already and are to be taken first, each with the
  state that it was found in. -/
  pending : List (StateId × RuleMatch)

/-- The type and the categories of a token: those of its rule, unless the text is
one of the keywords of that. -/
def Rule.produce (r : Rule) (text : String) : KeywordOverride :=
  (r.keywords.lookup text).getD ⟨r.tokenType, r.categories⟩

/-- What is needed to go on in another buffer. -/
structure SavedPlace where
  line : Nat
  col : Nat
  state : String
  /-- The remembered states, first one first. -/
  stack : List String
deriving DecidableEq, Repr

/-- **A scanner at the start of a buffer.** -/
def Table.scanner (t : Table) (buffer : List Char) : Scanner :=
  { table := t
    cursor := Cursor.start buffer
    position := {}
    state := t.start
    stack := []
    pending := [] }

namespace Scanner

/-! ## Looking at a scanner -/

/-- The name of the present state. -/
def stateName (s : Scanner) : String := (s.table.state s.state).name

/-- The names of the remembered states, first one first. -/
def stackNames (s : Scanner) : List String :=
  s.stack.reverse.map fun id => (s.table.state id).name

/-- The byte offset of the place. -/
def offset (s : Scanner) : Nat := s.cursor.offset

/-- The whole buffer was scanned. -/
def isAtEnd (s : Scanner) : Bool := s.pending.isEmpty && s.cursor.atEnd

/-- The whole buffer. -/
def buffer (s : Scanner) : List Char := s.cursor.text

/-- What is needed to go on in another buffer. -/
def save (s : Scanner) : SavedPlace :=
  { line := s.position.line, col := s.position.col, state := s.stateName, stack := s.stackNames }

/-- A message that points at a token, or at the place of the scanner. -/
def formatError (s : Scanner) (token : Option Token) (message : String) : String :=
  match token with
  | some t => Excerpt.render s.buffer t.offset t.line t.col message
  | none => Excerpt.render s.buffer s.offset s.position.line s.position.col message

/-! ## States -/

/-- The scanner after a transition. Going back without a remembered state changes
nothing. -/
def transit (s : Scanner) : Transition → Scanner
  | .stay => s
  | .push target => { s with state := target, stack := s.state :: s.stack }
  | .next target => { s with state := target }
  | .pop =>
    match s.stack with
    | [] => s
    | target :: stack => { s with state := target, stack }

/-- The number of a state that exists. -/
def resolve (s : Scanner) (name : String) : Except LexError StateId :=
  match s.table.stateId? name with
  | some id => .ok id
  | none => .error (.unknownState name)

/-- The scanner in the named state. -/
def setState (s : Scanner) (name : String) : Except LexError Scanner := do
  return s.transit (.next (← s.resolve name))

/-- The scanner in the named state, with the present one remembered. -/
def pushState (s : Scanner) (name : String) : Except LexError Scanner := do
  return s.transit (.push (← s.resolve name))

/-- The scanner in the state that was remembered last. -/
def popState (s : Scanner) : Scanner := s.transit .pop

/-! ## Buffers -/

/-- The scanner with more text at the end of its buffer. -/
def feed (s : Scanner) (text : List Char) : Scanner :=
  { s with cursor := s.cursor.feed text }

/-- **The scanner over another buffer,** from its start: in the start state, or as
saved if all saved states exist. -/
def reset (s : Scanner) (buffer : List Char) (saved : Option SavedPlace) :
    Except LexError Scanner :=
  match saved with
  | none => .ok (s.table.scanner buffer)
  | some p => do
    let state ← s.resolve p.state
    let stack ← p.stack.mapM s.resolve
    return {
      table := s.table
      cursor := Cursor.start buffer
      position := ⟨p.line, p.col⟩
      state
      stack := stack.reverse
      pending := [] }

/-! ## Steps -/

/-- The scanner at byte `stop`, behind the text up to there. -/
def advance (s : Scanner) (stop : Nat) (countLines : Bool) : Scanner :=
  let text := s.cursor.slice ⟨s.offset, stop⟩
  { s with
    cursor := s.cursor.advance text.length
    position := s.position.after countLines text }

/-- The rule of a match that was found in a state. -/
def ruleOf (s : Scanner) (state : StateId) (m : RuleMatch) : Rule :=
  (s.table.state state).rule m.rule

/-- The token of a match that was found in a state. -/
def tokenOf (s : Scanner) (state : StateId) (m : RuleMatch) : Token :=
  let rule := s.ruleOf state m
  let text := String.ofList (s.cursor.slice m.span)
  -- The value is made from what the capture group took part with, if it did.
  let source := (m.value.map fun span => String.ofList (s.cursor.slice span)).getD text
  let produced := rule.produce text
  { tokenType := produced.tokenType
    value := (rule.value.map (· source)).getD source
    text
    offset := m.span.start
    lineBreaks := lineBreaks rule.lineBreaks (s.cursor.slice ⟨s.offset, m.span.stop⟩)
    line := s.position.line
    col := s.position.col
    categories := produced.categories }

/-- The scanner behind a match, in the state that its rule leads to. -/
def consume (s : Scanner) (state : StateId) (m : RuleMatch) : Scanner :=
  let rule := s.ruleOf state m
  (s.advance m.span.stop rule.lineBreaks).transit rule.transition

/-- The message for input that nothing matches. -/
def unmatchedMessage : String := "invalid syntax"

/-- The error for input that nothing matches, at the place of the scanner. -/
def unmatchedError (s : Scanner) : LexError :=
  .unmatchedInput s.offset s.position.line s.position.col (s.formatError none unmatchedMessage)

/-- What a step gives. -/
inductive Step where
  /-- The buffer was scanned before. -/
  | finished
  /-- A match, the state it was found in, and the scanner behind it. -/
  | matched (state : StateId) (m : RuleMatch) (behind : Scanner)
  /-- Nothing matches; the scanner is at the end of the buffer. -/
  | unmatched (error : LexError) (behind : Scanner)

/-- **A step.** A match that is waiting is taken first. -/
def step (s : Scanner) : Step :=
  match s.pending with
  | (state, m) :: pending => .matched state m ({ s with pending }.consume state m)
  | [] =>
    if s.cursor.atEnd then .finished
    else
      match (s.table.state s.state).choose s.cursor with
      | some (m, queued) =>
        let pending := queued.toList.map fun q => (s.state, q)
        .matched s.state m ({ s with pending }.consume s.state m)
      | none => .unmatched s.unmatchedError (s.advance s.cursor.finish true)

/-- The number of characters ahead. -/
def left (s : Scanner) : Nat := s.cursor.ahead.length

/-! ## Staying at a place

An empty match leaves the scanner where it is, in the same state or in another
one. At one place the state alone decides what is matched there. A scanner that
stays there pops a remembered state, or is in a state it has not been in since
the last pop, or else repeats itself for ever; that bounds how often it can stay
before it moves on. -/

/-- The number of steps that a scanner may stay at a place before it is certain
that it never leaves. -/
def patience (s : Scanner) : Nat := (s.stack.length + 2) * (s.table.states.length + 1)

/-- The patience left behind a step: all of it again if the step moved the
scanner on, one less if it stayed. -/
def patienceBehind (patience : Nat) (s behind : Scanner) : Option Nat :=
  if behind.left < s.left then some behind.patience
  else if behind.left = s.left ∧ 0 < patience then some (patience - 1)
  else none

/-- Behind a step there is less text ahead, or as much and less patience. -/
theorem patienceBehind_lt {patience rest : Nat} {s behind : Scanner}
    (h : patienceBehind patience s behind = some rest) :
    Prod.Lex (· < ·) (· < ·) (behind.left, rest) (s.left, patience) := by
  unfold patienceBehind at h
  split at h
  next h_lt => exact Prod.Lex.left _ _ h_lt
  next =>
    split at h
    next h_stay =>
      obtain ⟨h_eq, h_pos⟩ := h_stay
      rw [h_eq, ← Option.some.inj h]
      exact Prod.Lex.right _ (Nat.sub_lt h_pos Nat.one_pos)
    next => exact absurd h (by simp)

/-! ## Tokens -/

/-- What a scanner hands out. -/
inductive Item where
  | token (t : Token)
  | error (e : LexError)
deriving DecidableEq, Repr

/-- The next token as far as the patience goes. -/
def nextWithin (patience : Nat) (s : Scanner) : Option Item × Scanner :=
  match s.step with
  | .finished => (none, s)
  | .unmatched e behind => (some (.error e), behind)
  | .matched state m behind =>
    if (s.ruleOf state m).ignore then
      match _h : patienceBehind patience s behind with
      | some rest => nextWithin rest behind
      | none => (none, behind)
    else (some (.token (s.tokenOf state m)), behind)
termination_by (s.left, patience)
decreasing_by exact patienceBehind_lt (by assumption)

/-- **The next token,** and the scanner behind it. Matches of ignored rules are
passed over. -/
def next (s : Scanner) : Option Item × Scanner := s.nextWithin s.patience

/-- All tokens as far as the patience goes. -/
def allWithin (patience : Nat) (s : Scanner) : List Item × Scanner :=
  match s.next with
  | (none, behind) => ([], behind)
  | (some item, behind) =>
    match _h : patienceBehind patience s behind with
    | some rest =>
      let (items, last) := allWithin rest behind
      (item :: items, last)
    | none => ([item], behind)
termination_by (s.left, patience)
decreasing_by exact patienceBehind_lt (by assumption)

/-- **All tokens** up to the end, and the scanner there. -/
def all (s : Scanner) : List Item × Scanner := s.allWithin s.patience

end Scanner

end StatefulLexer
