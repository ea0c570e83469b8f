/-
Declarations in normal form.

A list of rules stands for several: literals and regular expressions that follow
each other make up one rule, and everything else is a rule, or a directive, of
its own. In normal form there are no lists, and every rule is a record of
options with its matchers in the order in which they are tried.
-/
import StatefulLexer.Declaration

set_option autoImplicit false

namespace StatefulLexer

/-- A rule in normal form. -/
structure RuleDecl where
  tokenType : String
  options : RuleOptions

/-- A rule in normal form, or a directive to take over the rules of a state. -/
inductive RuleEntry where
  | rule (decl : RuleDecl)
  | splice (state : String)

/-- A record of options as a rule in normal form. -/
def RuleDecl.ofOptions (tokenType : String) (o : RuleOptions) : RuleDecl :=
  { tokenType, options := { o with matchers := Matcher.sort o.matchers } }

/-- The rule of the matchers that followed each other, if there are any. -/
def RuleEntry.ofRun (tokenType : String) (run : List Matcher) : List RuleEntry :=
  if run.isEmpty then [] else [.rule (.ofOptions tokenType { matchers := run })]

mutual

/-- **A rule as declared, in normal form.** -/
def RuleSpec.normalize (tokenType : String) : RuleSpec → List RuleEntry
  | .literal text => [.rule (.ofOptions tokenType { matchers := [.literal text] })]
  | .regex pattern => [.rule (.ofOptions tokenType { matchers := [.regex pattern] })]
  | .list specs => RuleSpec.normalizeList tokenType [] specs
  | .options o => [.rule (.ofOptions tokenType o)]
  | .splice state => [.splice state]

/-- The rest of a list in normal form. The matchers of `run` stand before it and
have not found their rule yet. -/
def RuleSpec.normalizeList (tokenType : String) (run : List Matcher) :
    List RuleSpec → List RuleEntry
  | [] => RuleEntry.ofRun tokenType run
  | .literal text :: specs => RuleSpec.normalizeList tokenType (run ++ [.literal text]) specs
  | .regex pattern :: specs => RuleSpec.normalizeList tokenType (run ++ [.regex pattern]) specs
  | spec :: specs =>
    RuleEntry.ofRun tokenType run ++ spec.normalize tokenType
      ++ RuleSpec.normalizeList tokenType [] specs

end

/-- Named rules in normal form. -/
def RuleList.normalize (rules : RuleList) : List RuleEntry :=
  rules.flatMap fun (name, spec) => spec.normalize name

end StatefulLexer
