/-
What can go wrong when a lexer is compiled or used.
-/
import StatefulLexer.Regex.Fault

set_option autoImplicit false

namespace StatefulLexer

/-- A mistake in a declaration, or input that cannot be handled. -/
inductive LexError where
  /-- A pattern cannot be read. -/
  | regexSyntax (pattern : List Char) (fault : Regex.Fault)
  /-- The machine of a pattern would be too large. -/
  | regexTooLarge
  /-- A rule can match the empty text. -/
  | emptyMatch (tokenType pattern : String)
  /-- A rule has more than one capture group. -/
  | captureGroups (tokenType pattern : String) (count : Nat)
  /-- A state has a second rule for what nothing matches. -/
  | multipleErrorRules (tokenType state : String)
  /-- A rule is to change the state where there is only one. -/
  | statelessTransition (tokenType : String)
  /-- A rule for what nothing matches is to change the state. -/
  | fallbackTransition (tokenType : String)
  /-- A rule is to take what nothing matches in both ways. -/
  | errorAndFallback (tokenType : String)
  /-- A rule is to change the state in several ways. -/
  | multipleTransitions (tokenType : String)
  /-- A rule is to go back by more or fewer states than one. -/
  | popCount (tokenType state : String) (count : Nat)
  /-- A rule is to go to a state that does not exist. -/
  | missingState (target tokenType state : String)
  /-- A directive names a state that does not exist. -/
  | missingInclude (target state : String)
  /-- A rule can match a newline and does not say so. -/
  | undeclaredLineBreaks (tokenType pattern : String)
  /-- A lexer has no states. -/
  | noStates
  /-- Two states have one name. -/
  | duplicateState (state : String)
  /-- The start state does not exist. -/
  | unknownStartState (state : String)
  /-- Nothing matches at a place of the buffer. -/
  | unmatchedInput (offset line col : Nat) (message : String)
  /-- A state that was asked for does not exist. -/
  | unknownState (state : String)
  /-- Tokens of one type belong to different categories. -/
  | overlappingTokenType (tokenType : String)
deriving DecidableEq, Repr

namespace LexError

/-- A name in single quotes. -/
def quote (name : String) : String := "'" ++ name ++ "'"

/-- A remark on the token that an error is about. -/
def forToken (tokenType : String) : String := " (for token " ++ quote tokenType ++ ")"

/-- **The error in words.** -/
def message : LexError → String
  | regexSyntax pattern fault => quote (String.ofList pattern) ++ " " ++ fault.report pattern
  | regexTooLarge => "error building NFA"
  | emptyMatch tokenType pattern =>
    "Pattern " ++ quote pattern ++ " of token " ++ quote tokenType ++ " matches the empty string"
  | captureGroups tokenType pattern count =>
    "Pattern " ++ quote pattern ++ " of token " ++ quote tokenType ++ " has " ++ toString count
      ++ " capture groups, at most one is allowed. Use (?: ... ) instead"
  | multipleErrorRules tokenType state =>
    "Multiple error rules not allowed (for token " ++ quote tokenType ++ " in state "
      ++ quote state ++ ")"
  | statelessTransition tokenType =>
    "State-switching options are not allowed in stateless lexers" ++ forToken tokenType
  | fallbackTransition tokenType =>
    "State-switching options are not allowed on error or fallback tokens" ++ forToken tokenType
  | errorAndFallback tokenType =>
    "A rule can't be an error rule and a fallback rule" ++ forToken tokenType
  | multipleTransitions tokenType =>
    "Only one of push, pop and next is allowed" ++ forToken tokenType
  | popCount tokenType state count =>
    "pop must be 1 (in token " ++ quote tokenType ++ " of state " ++ quote state ++ ", got "
      ++ toString count ++ ")"
  | missingState target tokenType state =>
    "Missing state " ++ quote target ++ " (in token " ++ quote tokenType ++ " of state "
      ++ quote state ++ ")"
  | missingInclude target state =>
    "Cannot include nonexistent state " ++ quote target ++ " (in state " ++ quote state ++ ")"
  | undeclaredLineBreaks tokenType pattern =>
    "Rule " ++ quote tokenType ++ " should declare line_breaks: " ++ quote pattern
  | noStates => "At least one state is required"
  | duplicateState state => "Duplicate state " ++ quote state
  | unknownStartState state => "Unknown start state " ++ quote state
  | unmatchedInput _ _ _ message => message
  | unknownState state => "Unknown state " ++ quote state
  | overlappingTokenType tokenType =>
    "There are overlapping token names with different categories: " ++ quote tokenType

end LexError

end StatefulLexer
