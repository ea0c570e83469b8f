/-
Compiled rules.

A rule is checked on its own before it becomes part of a state. The checks come
in a fixed order, and the first that fails is reported: what the options say
about unmatched input and about states, then the pattern, then what the pattern
can match.
-/
import StatefulLexer.Declaration.Normal
import StatefulLexer.LexError
import StatefulLexer.Regex.Compose
import StatefulLexer.Regex.Machine

set_option autoImplicit false

namespace StatefulLexer

/-- The number of a state in its table. -/
abbrev StateId := Nat

/-- What a rule does to the state after it matched. -/
inductive Transition where
  | stay
  | push (target : StateId)
  | pop
  | next (target : StateId)
deriving DecidableEq, Repr, Inhabited

/-- What a rule is for: input that it matches, or input that nothing matches. -/
inductive RuleRole where
  | ordinary
  /-- It takes the rest of the buffer. -/
  | error
  /-- It takes what lies before the next match. -/
  | fallback
deriving DecidableEq, Repr, Inhabited

/-- A compiled rule. -/
structure Rule where
  tokenType : String
  role : RuleRole
  /-- What is matched. A rule for unmatched input may have nothing to match. -/
  pattern : Option Regex.Compiled
  /-- The characters of a rule that matches single characters and does nothing
  else that would need a closer look. -/
  fastChars : Option (List Char)
  /-- Newlines in the text of the rule count as line breaks. -/
  lineBreaks : Bool
  transition : Transition
  value : Option (String → String)
  keywords : KeywordTable
  /-- The names of the categories and of their ancestors. -/
  categories : List String
  ignore : Bool
  /-- The pattern has a capture group, and the value is what it captured. -/
  hasValueGroup : Bool
deriving Inhabited

/-- What a rule is compiled in: the name of its state, and the names of all. -/
structure RuleContext where
  stateName : String
  stateNames : List String

namespace RuleContext

/-- The lexer has more than one state. -/
def hasStates (ctx : RuleContext) : Bool := decide (1 < ctx.stateNames.length)

/-- The number of the state of that name. -/
def stateId? (ctx : RuleContext) (name : String) : Option StateId := ctx.stateNames.idxOf? name

end RuleContext

/-! ## Options -/

namespace RuleOptions

/-- The number of ways in which the options change the state. -/
def transitionCount (o : RuleOptions) : Nat :=
  o.push.toList.length + o.pop.toList.length + o.next.toList.length

/-- The rule is for input that nothing matches. -/
def takesUnmatched (o : RuleOptions) : Bool := o.error || o.fallback

/-- What the rule is for. -/
def role (o : RuleOptions) : RuleRole :=
  if o.fallback then .fallback else if o.error then .error else .ordinary

/-- **The transition of a rule.** There is at most one, to a state that exists,
and none without other states. -/
def transition (o : RuleOptions) (tokenType : String) (ctx : RuleContext) :
    Except LexError Transition :=
  let target (name : String) : Except LexError StateId :=
    match ctx.stateId? name with
    | some id => .ok id
    | none => .error (.missingState name tokenType ctx.stateName)
  -- Whether there are states at all is asked before how many ways are taken.
  if o.transitionCount = 0 then .ok .stay
  else if !ctx.hasStates then .error (.statelessTransition tokenType)
  else if 1 < o.transitionCount then .error (.multipleTransitions tokenType)
  else
    match o.push, o.next, o.pop with
    | some name, _, _ => (target name).map .push
    | none, some name, _ => (target name).map .next
    | none, none, some 1 => .ok .pop
    | none, none, count => .error (.popCount tokenType ctx.stateName (count.getD 0))

end RuleOptions

/-! ## Patterns -/

/-- The pattern of a matcher. A regular expression is read and written out again,
which leaves its comments behind. -/
def Matcher.toPattern : Matcher → Except LexError (List Char)
  | literal text => .ok (Regex.grouped (Regex.escapeText text.toList))
  | regex pattern =>
    (Regex.Pattern.canonical pattern.toList).mapError (.regexSyntax pattern.toList)

/-- The pattern of a match list: its first matchers are preferred. -/
def patternOf (matchers : List Matcher) : Except LexError Regex.Compiled := do
  let text := Regex.unionOf (← matchers.mapM Matcher.toPattern)
  (Regex.Compiled.ofText text).mapError (.regexSyntax text)

/-- The pattern matches somewhere in a text that is a newline. -/
def Regex.Compiled.matchesNewline (p : Regex.Compiled) : Bool := p.expr.occurs [] ['\n']

/-- **The checks of a pattern:** it does not match the empty text, captures at
most one group, and matches no newline unless that was declared. -/
def Regex.Compiled.check (p : Regex.Compiled) (tokenType : String) (lineBreaks : Bool) :
    Except LexError Unit :=
  let text := String.ofList p.text
  if p.expr.leastLength = some 0 then .error (.emptyMatch tokenType text)
  else if 1 < p.expr.captureCount then
    .error (.captureGroups tokenType text p.expr.captureCount)
  else if lineBreaks then .ok ()
  else if !Regex.fits [p.expr] then .error .regexTooLarge
  else if p.matchesNewline then .error (.undeclaredLineBreaks tokenType text)
  else .ok ()

/-- The pattern of a rule, checked. -/
def RuleDecl.pattern (d : RuleDecl) (lineBreaks : Bool) :
    Except LexError (Option Regex.Compiled) := do
  if d.options.matchers.isEmpty then return none
  else
    let p ← patternOf d.options.matchers
    p.check d.tokenType lineBreaks
    return some p

/-! ## Rules -/

/-- The characters of a match list of single characters, for a rule that needs
no closer look. -/
def RuleOptions.fastChars (o : RuleOptions) (t : Transition) : Option (List Char) :=
  if t = .stay ∧ !o.takesUnmatched ∧ o.value.isNone ∧ o.keywords.isEmpty ∧ !o.matchers.isEmpty then
    o.matchers.mapM Matcher.singleChar?
  else none

/-- **A rule, compiled.** -/
def RuleDecl.compile (d : RuleDecl) (ctx : RuleContext) : Except LexError Rule := do
  let o := d.options
  if o.error ∧ o.fallback then throw (.errorAndFallback d.tokenType)
  let transition ← o.transition d.tokenType ctx
  if o.takesUnmatched ∧ transition ≠ .stay then throw (.fallbackTransition d.tokenType)
  let lineBreaks := o.lineBreaks || o.takesUnmatched
  let pattern ← d.pattern lineBreaks
  return {
    tokenType := d.tokenType
    role := o.role
    pattern
    fastChars := o.fastChars transition
    lineBreaks
    transition
    value := o.value
    keywords := KeywordTable.ofSpecs o.keywords o.categories
    categories := Category.flatten o.categories
    ignore := o.ignore
    hasValueGroup := (pattern.map fun p => p.expr.captureCount == 1).getD false }

end StatefulLexer
