/-
Regular expressions as they are matched.

An expression is what remains of a pattern when spelling and flags are gone. The
constructors of the type are not used to build one: `repeated`, `sequence` and
`choice` do, and they simplify as they build. Which expression a pattern becomes
matters in two ways. The least length of a match is computed from it, and where
a choice has a common beginning, drawing that out changes which way is tried
first.
-/
import StatefulLexer.Text.Span
import StatefulLexer.Unicode.Classes

set_option autoImplicit false

namespace StatefulLexer.Regex

/-! ## Assertions -/

/-- The assertions about words. -/
inductive WordLook where
  | boundary
  | notBoundary
  | start
  | finish
  | startHalf
  | finishHalf
deriving DecidableEq, Repr

/-- An assertion about the characters on both sides of a place. -/
inductive Look where
  | textStart
  | textEnd
  /-- The start of a line; `returns` tells whether a carriage return ends one. -/
  | lineStart (returns : Bool)
  /-- The end of a line. -/
  | lineEnd (returns : Bool)
  /-- An assertion about words; `unicode` tells whether all word characters count
  or ASCII ones alone. -/
  | word (kind : WordLook) (unicode : Bool)
deriving DecidableEq, Repr

/-- There is a word character. -/
def isWordChar (unicode : Bool) (c : Option Char) : Bool :=
  match c with
  | none => false
  | some c => (if unicode then CharSet.word else CharSet.asciiWord).contains c

/-- An assertion about words, for what is before and behind the place. -/
def WordLook.holds (before behind : Bool) : WordLook → Bool
  | boundary => before != behind
  | notBoundary => before == behind
  | start => !before && behind
  | finish => before && !behind
  | startHalf => !before
  | finishHalf => !behind

/-- **An assertion holds** between the characters `before` and `behind`, of which
there is none at an end of the buffer. A carriage return and a newline behind it
are one line end. -/
def Look.holds (before behind : Option Char) : Look → Bool
  | textStart => before.isNone
  | textEnd => behind.isNone
  | lineStart returns =>
    before.isNone || before == some '\n'
      || (returns && before == some '\r' && behind != some '\n')
  | lineEnd returns =>
    if returns then
      behind.isNone || behind == some '\r' || (behind == some '\n' && before != some '\r')
    else behind.isNone || behind == some '\n'
  | word kind unicode => kind.holds (isWordChar unicode before) (isWordChar unicode behind)

/-! ## Expressions -/

/-- **A regular expression.** Sequences and choices are nested to the right. -/
inductive Expr where
  | empty
  | literal (text : List Char)
  /-- A character of a set; `unicode` tells whether the set was one of all
  characters or one of ASCII alone. It matches the same in both cases, but sets
  of the two kinds are never equal. -/
  | set (s : CharSet) (unicode : Bool)
  | look (l : Look)
  | rep (least : Nat) (most : Option Nat) (greedy : Bool) (sub : Expr)
  | capture (index : Nat) (sub : Expr)
  | seq (first rest : Expr)
  | alt (first rest : Expr)
deriving DecidableEq, Repr

namespace Expr

/-- The expression that never matches. -/
def fail : Expr := .set CharSet.none false

/-! ## Lengths -/

/-- A combination of two lengths that is known only if both are. -/
def both (f : Nat → Nat → Nat) : Option Nat → Option Nat → Option Nat
  | some a, some b => some (f a b)
  | _, _ => none

/-- **The least number of bytes of a match.** It is not known below something
that never matches, not even where that may be left out. -/
def leastLength : Expr → Option Nat
  | empty => some 0
  | literal text => some (byteSize text)
  | set s _ => s.leastSize
  | look _ => some 0
  | rep least _ _ sub => sub.leastLength.map (· * least)
  | capture _ sub => sub.leastLength
  | seq first rest => both (· + ·) first.leastLength rest.leastLength
  | alt first rest => both min first.leastLength rest.leastLength

/-- The greatest number of bytes of a match, where there is one and it is
known. -/
def greatestLength : Expr → Option Nat
  | empty => some 0
  | literal text => some (byteSize text)
  | set s _ => s.greatestSize
  | look _ => some 0
  | rep _ most _ sub => both (· * ·) sub.greatestLength most
  | capture _ sub => sub.greatestLength
  | seq first rest => both (· + ·) first.greatestLength rest.greatestLength
  | alt first rest => both max first.greatestLength rest.greatestLength

/-- The number of capture groups. -/
def captureCount : Expr → Nat
  | empty => 0
  | literal _ => 0
  | set _ _ => 0
  | look _ => 0
  | rep _ _ _ sub => sub.captureCount
  | capture _ sub => sub.captureCount + 1
  | seq first rest => first.captureCount + rest.captureCount
  | alt first rest => first.captureCount + rest.captureCount

/-- A measure of how much there is to an expression: the steps of a machine in
which every repetition has its own copy of what it repeats, with one step for a
range of characters. It is not the memory that a machine takes; see
`stateLimit`. -/
def stateCount : Expr → Nat
  | empty => 1
  | literal text => byteSize text
  | set s _ => s.ranges.length
  | look _ => 1
  | rep least none _ sub => max least 1 * sub.stateCount + 1
  | rep _ (some most) _ sub => most * (sub.stateCount + 1)
  | capture _ sub => sub.stateCount + 2
  | seq first rest => first.stateCount + rest.stateCount
  | alt first rest => first.stateCount + rest.stateCount + 1

/-! ## Building expressions -/

/-- A set of characters, of all or of ASCII alone. A set of one is a literal, and
a set of none has no kind. -/
def ofSet (s : CharSet) (unicode : Bool) : Expr :=
  match s.only? with
  | some c => .literal [c]
  | none => if s.isEmpty then .fail else .set s unicode

/-- **A repetition.** What matches nothing but the empty text need not be
repeated more than once, and to repeat something once is not to repeat it. -/
def repeated (least : Nat) (most : Option Nat) (greedy : Bool) (sub : Expr) : Expr :=
  -- A round that takes no character cannot be told from none or from many.
  let still := sub.greatestLength == some 0
  let least := if still then min least 1 else least
  let most := if still then some ((most.map (min · 1)).getD 1) else most
  if least = 0 ∧ most = some 0 then .empty
  else if least = 1 ∧ most = some 1 then sub
  else .rep least most greedy sub

/-- The members of a sequence. -/
def factors : Expr → List Expr
  | seq first rest => first :: rest.factors
  | empty => []
  | e => [e]

/-- Members as a sequence, as they are. -/
def ofFactors : List Expr → Expr
  | [] => .empty
  | [e] => e
  | e :: es => .seq e (ofFactors es)

/-- Neighbouring literals joined. -/
def joinLiterals : List Expr → List Expr
  | [] => []
  | .literal a :: es =>
    match joinLiterals es with
    | .literal b :: rest => .literal (a ++ b) :: rest
    | rest => .literal a :: rest
  | e :: es => e :: joinLiterals es

/-- **A sequence.** Sequences in it are opened, and neighbouring literals
become one. -/
def sequence (es : List Expr) : Expr := ofFactors (joinLiterals (es.flatMap factors))

/-- The branches of a choice. -/
def branches : Expr → List Expr
  | alt first rest => first :: rest.branches
  | e => [e]

/-- Branches as a choice, as they are. -/
def ofBranches : List Expr → Expr
  | [] => .fail
  | [e] => e
  | e :: es => .alt e (ofBranches es)

/-- The character of a literal of one. -/
def char? : Expr → Option Char
  | literal [c] => some c
  | _ => none

/-- The set of an expression that is one. -/
def set? : Expr → Option CharSet
  | set s _ => some s
  | _ => none

/-- A choice between single characters, or between sets of either kind, is a set
of all characters. -/
def merged? (es : List Expr) : Option Expr :=
  match es.mapM char? with
  | some cs => some (ofSet (CharSet.ofList cs) true)
  | none => (es.mapM set?).map fun sets => ofSet (CharSet.unions sets) true

/-- A choice between branches that are none themselves. -/
def choiceOf (es : List Expr) : Expr := (merged? es).getD (ofBranches es)

/-- The members of a sequence of at least two. -/
def factors? : Expr → Option (List Expr)
  | seq first rest => some (first :: rest.factors)
  | _ => none

/-- The longest common beginning of two lists. -/
def commonStart : List Expr → List Expr → List Expr
  | a :: as, b :: bs => if a = b then a :: commonStart as bs else []
  | _, _ => []

/-- The common beginning of the branches, if each is a sequence, and what is
behind it in each of them. -/
def drawnOut? (es : List Expr) : Option (List Expr × List (List Expr)) :=
  match es.mapM factors? with
  | some (first :: second :: more) =>
    let start := (second :: more).foldl commonStart first
    if start.isEmpty then none
    else some (start, (first :: second :: more).map (·.drop start.length))
  | _ => none

/-- **A choice.** Choices in it are opened. A beginning that is common to all
branches is drawn out: what begins them is then matched before any branch is
chosen. -/
def choice (es : List Expr) : Expr :=
  let es := es.flatMap branches
  match merged? es with
  | some e => e
  | none =>
    match drawnOut? es with
    | none => ofBranches es
    | some (start, rests) =>
      -- No beginning is left in common, so the rests are not searched for one.
      sequence (start ++ [choiceOf ((rests.map sequence).flatMap branches)])

end Expr

end StatefulLexer.Regex
