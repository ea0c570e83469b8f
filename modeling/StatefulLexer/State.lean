/-
Compiled states.

A state chooses a rule for the place in front of it. Of the rules that match
there the first is chosen, however long its match. Rules that match nothing but
single characters need no search, as long as they come before every rule that
does; they are kept in a table by character.
-/
import StatefulLexer.Rule
import StatefulLexer.Text.Cursor

set_option autoImplicit false

namespace StatefulLexer

/-- The number of a rule in its state. Of two rules the one with the lower number
is preferred. -/
abbrev RuleId := Nat

/-- What a state does with input that no rule matches. -/
inductive Unmatched where
  /-- It is reported as an error. -/
  | report
  /-- The rest of the buffer is a token of the rule. -/
  | takeRest (rule : RuleId)
  /-- What lies before the next match is a token of the rule. -/
  | takeGap (rule : RuleId)
deriving DecidableEq, Repr

/-- A compiled state. -/
structure State where
  name : String := ""
  /-- All rules, in the order of their priority. -/
  rules : List Rule := []
  /-- The rules that are chosen by the next character alone. -/
  fast : List (Char × RuleId) := []
  /-- The patterns that are searched for, each with its rule. -/
  searched : List (RuleId × Regex.Compiled) := []
  unmatched : Unmatched := .report

instance : Inhabited State := ⟨{}⟩

/-- The rule of a number. -/
def State.rule (s : State) (id : RuleId) : Rule := s.rules.getD id default

/-! ## Assembling a state -/

/-- The part of a state that has been assembled. -/
structure StateSoFar where
  /-- The rules, last one first. -/
  rules : List Rule := []
  fast : List (Char × RuleId) := []
  /-- The patterns to be searched for, last one first. -/
  searched : List (RuleId × Regex.Compiled) := []
  unmatched : Unmatched := .report
  /-- Rules of single characters may still go into the table. -/
  fastAllowed : Bool

namespace StateSoFar

/-- The characters of a rule, for those that have no rule yet. -/
def addFast (fast : List (Char × RuleId)) (id : RuleId) (chars : List Char) :
    List (Char × RuleId) :=
  chars.foldl (fun fast c => if (fast.lookup c).isSome then fast else fast ++ [(c, id)]) fast

/-- One more rule, whatever it is for. A rule that has to be searched for keeps
those behind it out of the table. -/
def add (s : StateSoFar) (r : Rule) : StateSoFar :=
  let id := s.rules.length
  let s := { s with rules := r :: s.rules }
  match r.pattern, r.fastChars with
  -- A rule without a pattern is chosen only where nothing matches.
  | none, _ => s
  | some p, some chars =>
    if s.fastAllowed then { s with fast := addFast s.fast id chars }
    else { s with searched := (id, p) :: s.searched }
  | some p, none => { s with searched := (id, p) :: s.searched, fastAllowed := false }

/-- What the state does with unmatched input, with one more rule in it. -/
def withRole (s : StateSoFar) (r : Rule) (name : String) : Except LexError Unmatched :=
  match r.role, s.unmatched with
  | .ordinary, unmatched => .ok unmatched
  | .error, .report => .ok (.takeRest s.rules.length)
  | .fallback, .report => .ok (.takeGap s.rules.length)
  | _, _ => .error (.multipleErrorRules r.tokenType name)

/-- One more rule, unless there is one for unmatched input already and this is
another. -/
def push (s : StateSoFar) (r : Rule) (name : String) : Except LexError StateSoFar := do
  let unmatched ← s.withRole r name
  return { s.add r with unmatched }

end StateSoFar

/-- The patterns that are searched for. -/
def State.patterns (s : State) : List Regex.Compiled := s.searched.map Prod.snd

/-- **A state, compiled** from its rules in normal form. With a rule for what lies
before the next match, every rule has to be searched for. -/
def State.compile (decls : List RuleDecl) (ctx : RuleContext) : Except LexError State := do
  let empty : StateSoFar := { fastAllowed := !decls.any (·.options.fallback) }
  let s ← decls.foldlM (fun s decl => do s.push (← decl.compile ctx) ctx.stateName) empty
  let state : State :=
    { name := ctx.stateName
      rules := s.rules.reverse
      fast := s.fast
      searched := s.searched.reverse
      unmatched := s.unmatched }
  if Regex.fits (state.patterns.map (·.expr)) then return state else throw .regexTooLarge

namespace State

/-- The characters that are chosen by, in ascending order. -/
def fastChars (s : State) : List Char :=
  (s.fast.map Prod.fst).mergeSort fun a b => decide (a ≤ b)

/-- The patterns of the state as one, with a capture group around each. -/
def combinedPattern (s : State) : String := String.ofList (Regex.combinedText s.patterns)

end State

/-! ## Choosing a rule -/

/-- A match of a rule: the bytes it takes, and those that the capture group of the
rule took part with. -/
structure RuleMatch where
  rule : RuleId
  span : Span
  value : Option Span := none
deriving DecidableEq, Repr

/-- The match of a rule whose pattern was found at a place. -/
def Rule.matchOf (r : Rule) (id : RuleId) (c : Cursor) (found : Regex.Found) : RuleMatch :=
  { rule := id
    span := c.spanAhead 0 found.width
    value :=
      if r.hasValueGroup then
        (found.captures.find? (·.index == 1)).map fun g => c.spanAhead g.start g.stop
      else none }

/-- The match of a rule at a place. -/
def Rule.match? (r : Rule) (id : RuleId) (c : Cursor) : Option RuleMatch :=
  r.pattern.bind fun p => (p.expr.match? c.behind c.ahead).map (r.matchOf id c)

namespace State

/-- The match of the first rule that is searched for and matches at a place. -/
def matchAt? (s : State) (c : Cursor) : Option RuleMatch :=
  s.searched.findSome? fun (id, p) =>
    (p.expr.match? c.behind c.ahead).map fun found => (s.rule id).matchOf id c found

/-- The match at the first place where a rule matches: this one, or one of the
`n` next. -/
def findWithin (s : State) : Nat → Cursor → Option RuleMatch
  | 0, c => s.matchAt? c
  | n + 1, c =>
    match s.matchAt? c with
    | some m => some m
    | none => s.findWithin n c.next

/-- The match that the next character decides. -/
def fastMatch? (s : State) (c : Cursor) : Option RuleMatch :=
  match c.ahead with
  | [] => none
  | x :: _ => (s.fast.lookup x).map fun id => { rule := id, span := c.spanAhead 0 1 }

/-- **The choice of a state** at a place: a match, and the one behind it if that
had to be found first. There is none if nothing matches and the state has no
rule for that. -/
def choose (s : State) (c : Cursor) : Option (RuleMatch × Option RuleMatch) :=
  match s.fastMatch? c with
  | some m => some (m, none)
  | none =>
    match s.unmatched with
    | .report => (s.matchAt? c).map fun m => (m, none)
    | .takeRest r =>
      some ((s.matchAt? c).getD { rule := r, span := ⟨c.offset, c.finish⟩ }, none)
    | .takeGap r =>
      match s.findWithin c.ahead.length c with
      | some m =>
        if m.span.start = c.offset then some (m, none)
        else some ({ rule := r, span := ⟨c.offset, m.span.start⟩ }, some m)
      | none => some ({ rule := r, span := ⟨c.offset, c.finish⟩ }, none)

end State

end StatefulLexer
