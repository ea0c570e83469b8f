/-
What is left to be matched.

A stack holds what is left, next thing on top. To match is to move: a move takes
the top of a stack apart, until it asks for a character, or nothing is left.
-/
import StatefulLexer.Regex.Expr

set_option autoImplicit false

namespace StatefulLexer.Regex

/-! ## Stacks -/

/-- A thing that is left to be matched. -/
inductive Frame where
  /-- An expression. -/
  | expr (e : Expr)
  /-- Further rounds of a repetition, any number of them. -/
  | loop (greedy : Bool) (e : Expr)
  /-- The end of a branch of a choice; `second` tells of which. -/
  | join (second : Bool)
  /-- The end of a capture group. -/
  | close (index : Nat)
deriving DecidableEq, Repr

/-- What is left to be matched, next thing first. -/
abbrev Stack := List Frame

/-- What can be done with a stack. -/
inductive Move where
  /-- Nothing is left. -/
  | done
  /-- A character of the set is needed. -/
  | consume (wanted : Char → Bool) (rest : Stack)
  /-- Something else is left instead. -/
  | become (rest : Stack)
  /-- The same, where the assertion holds. -/
  | check (l : Look) (rest : Stack)
  /-- A capture group begins. -/
  | opened (index : Nat) (rest : Stack)
  /-- A capture group ends. -/
  | closed (index : Nat) (rest : Stack)
  /-- Two things are possible, the first one is preferred. -/
  | fork (first second : Stack)

/-- Another round of a repetition, or what is behind it. A greedy repetition
prefers another round. -/
def Move.again (greedy : Bool) (round behind : Stack) : Move :=
  if greedy then .fork round behind else .fork behind round

/-- What is left of a repetition behind one of its obligatory rounds. A
repetition without a greatest number of rounds is a loop from there on. -/
def Frame.more (least : Nat) (most : Option Nat) (greedy : Bool) (e : Expr) : Frame :=
  if least = 0 ∧ most = none then .loop greedy e else .expr (.rep least most greedy e)

/-- **What can be done with a stack.** A repetition without bounds is a loop. If
a round of it can match the empty text, the loop is entered through a fork of
its own, so that the first round is tried like any other. -/
def move : Stack → Move
  | [] => .done
  | .join _ :: k => .become k
  | .close index :: k => .closed index k
  | .loop greedy e :: k => .again greedy (.expr e :: .loop greedy e :: k) k
  | .expr .empty :: k => .become k
  | .expr (.literal []) :: k => .become k
  | .expr (.literal (c :: text)) :: k => .consume (· == c) (.expr (.literal text) :: k)
  | .expr (.set s _) :: k => .consume s.contains k
  | .expr (.look l) :: k => .check l k
  | .expr (.capture index e) :: k => .opened index (.expr e :: .close index :: k)
  | .expr (.seq first rest) :: k => .become (.expr first :: .expr rest :: k)
  | .expr (.alt first rest) :: k =>
    .fork (.expr first :: .join false :: k) (.expr rest :: .join true :: k)
  | .expr (.rep 0 (some 0) _ _) :: k => .become k
  | .expr (.rep 0 (some (most + 1)) greedy e) :: k =>
    .again greedy (.expr e :: .expr (.rep 0 (some most) greedy e) :: k) k
  | .expr (.rep 0 none greedy e) :: k =>
    if e.leastLength.getD 0 = 0 then .again greedy (.expr e :: .loop greedy e :: k) k
    else .become (.loop greedy e :: k)
  | .expr (.rep (least + 1) most greedy e) :: k =>
    .become (.expr e :: .more least (most.map (· - 1)) greedy e :: k)

end StatefulLexer.Regex
