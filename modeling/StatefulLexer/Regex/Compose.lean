/-
Patterns made of patterns.

The matchers of a rule are written into one pattern, each in a group of its own
so that it cannot reach into its neighbours. The pattern of a rule is also kept
as a tree, from which its capture groups can be taken out again.

Patterns that are too large are refused. An engine bounds the memory that its
machines take, which depends on how it lays them out and on how it shares the
bytes of neighbouring characters. Here the steps of a plain machine are counted
instead, so `fits` is an approximation of such a bound, and where the two part
neither contains the other: `a{163841}` does not fit here, though an engine that
shares more may take it, and `\w{300}` fits here, though its machine may be too
large for one that spells out all bytes. Nothing that is proved of rules, states
and tables depends on which expressions fit.
-/
import StatefulLexer.Regex.Meaning

set_option autoImplicit false

namespace StatefulLexer.Regex

/-! ## Texts of patterns -/

/-- The pattern that matches a text as it is. -/
def escapeText (text : List Char) : List Char :=
  text.flatMap fun c => if isMeta c then ['\\', c] else [c]

/-- The pattern in a group that does not capture. -/
def grouped (pattern : List Char) : List Char := "(?:".toList ++ pattern ++ [')']

/-- The pattern in a group that captures. -/
def captured (pattern : List Char) : List Char := '(' :: (pattern ++ [')'])

/-- Patterns with bars between them. -/
def barred : List (List Char) → List Char
  | [] => []
  | [p] => p
  | p :: q :: patterns => p ++ '|' :: barred (q :: patterns)

/-- **The union of patterns:** their choice, in which those that come first are
preferred. -/
def unionOf (patterns : List (List Char)) : List Char := grouped (barred (patterns.map grouped))

/-! ## Patterns without capture groups -/

mutual

/-- The pattern with groups that do not capture in place of those that do. -/
def Pattern.withoutCaptures : Pattern → Pattern
  | .group region (.flags flags) sub => .group region (.flags flags) sub.withoutCaptures
  | .group region _ sub => .group region (.flags ⟨[], []⟩) sub.withoutCaptures
  | .repetition region op greedy sub => .repetition region op greedy sub.withoutCaptures
  | .alternation region branches => .alternation region (Pattern.allWithoutCaptures branches)
  | .concat region items => .concat region (Pattern.allWithoutCaptures items)
  | p => p

/-- Patterns without capture groups. -/
def Pattern.allWithoutCaptures : List Pattern → List Pattern
  | [] => []
  | p :: patterns => p.withoutCaptures :: Pattern.allWithoutCaptures patterns

end

/-! ## Patterns of rules -/

/-- A pattern that was read: its text, its tree and its expression. -/
structure Compiled where
  text : List Char
  tree : Pattern
  expr : Expr

/-- A pattern that can be read. -/
def Compiled.ofText (text : List Char) : Except Fault Compiled := do
  let tree ← Pattern.parse text
  let (expr, _) ← tree.meaning {}
  return { text, tree, expr }

/-- The number of states that machines may have together. It is chosen so that
literals are refused about where they would be by a bound on memory. -/
def stateLimit : Nat := 327680

/-- The number of states that the machines of expressions have together. -/
def stateTotal (es : List Expr) : Nat := es.foldl (fun total e => total + e.stateCount) 0

/-- The machines of the expressions have few enough states. This stands for a
bound on memory, which it approximates. -/
def fits (es : List Expr) : Bool := decide (stateTotal es ≤ stateLimit)

/-- The patterns of a state as one, with a capture group around each. -/
def combinedText (patterns : List Compiled) : List Char :=
  unionOf (patterns.map fun p => captured p.tree.withoutCaptures.render)

end StatefulLexer.Regex
