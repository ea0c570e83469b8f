/-
Declarations of rules, as the user of the library writes them.

A lexer is declared as named rules, in the order of their priority. The name is
the type of the tokens. A rule is a literal, a regular expression, a record of
options around several of both, a list of rules, or a directive to take over the
rules of another state.
-/
import StatefulLexer.Keyword

set_option autoImplicit false

namespace StatefulLexer

/-- One thing to be matched: a text as it is, or a regular expression. -/
inductive Matcher where
  | literal (text : String)
  | regex (pattern : String)
deriving DecidableEq, Repr

namespace Matcher

/-- The character of a literal of one. -/
def singleChar? : Matcher → Option Char
  | literal text =>
    match text.toList with
    | [c] => some c
    | _ => none
  | regex _ => none

/-- The order in which matchers are tried: literals before regular expressions,
and long literals before short ones. -/
def le : Matcher → Matcher → Bool
  | literal a, literal b => decide (b.utf8ByteSize ≤ a.utf8ByteSize)
  | literal _, regex _ => true
  | regex _, literal _ => false
  | regex _, regex _ => true

/-- **Matchers in the order in which they are tried.** Otherwise they keep the
order they were written in. -/
def sort (ms : List Matcher) : List Matcher := ms.mergeSort le

end Matcher

/-- What is to be matched, and what is to be done about it. -/
structure RuleOptions where
  matchers : List Matcher := []
  /-- The match may hold newlines. -/
  lineBreaks : Bool := false
  /-- The state to go to after remembering the present one. -/
  push : Option String := none
  /-- The number of remembered states to go back by. -/
  pop : Option Nat := none
  /-- The state to go to. -/
  next : Option String := none
  /-- The rule takes the rest of the buffer when nothing matches. -/
  error : Bool := false
  /-- The rule takes everything up to the next match when nothing matches. -/
  fallback : Bool := false
  /-- What makes the value of a token from its text. -/
  value : Option (String → String) := none
  keywords : List KeywordSpec := []
  categories : List Category := []
  /-- The tokens of the rule are left out. -/
  ignore : Bool := false

/-- A rule as declared. -/
inductive RuleSpec where
  | literal (text : String)
  | regex (pattern : String)
  | list (specs : List RuleSpec)
  | options (options : RuleOptions)
  /-- The rules of another state, at this place. -/
  | splice (state : String)
deriving Inhabited

/-- The rule that matches one thing. -/
def RuleSpec.ofMatcher : Matcher → RuleSpec
  | .literal text => .literal text
  | .regex pattern => .regex pattern

/-- A list of named rules. -/
abbrev RuleList := List (String × RuleSpec)

/-- A state as declared. -/
structure StateSpec where
  name : String
  rules : RuleList

/-- A lexer as declared. The shared rules belong to every state; without a start
state the lexer starts in the first. -/
structure LexerSpec where
  states : List StateSpec
  shared : RuleList := []
  start : Option String := none

/-- The lexer of rules without states: it has one state, named `start`. -/
def LexerSpec.ofRules (rules : RuleList) : LexerSpec :=
  { states := [{ name := "start", rules }] }

end StatefulLexer
