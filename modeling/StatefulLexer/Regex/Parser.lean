/-
Reading a pattern.

The parser works from left to right and stops at the first fault; the depth of
the tree is checked when all of it has been read. A body is what stands in a
group, or the pattern as a whole: branches with bars between them, each a row of
items.
-/
import StatefulLexer.Regex.Parser.Class
import StatefulLexer.Regex.Parser.Group
import StatefulLexer.Regex.Printer

set_option autoImplicit false

namespace StatefulLexer.Regex

/-! ## Bodies -/

/-- A row of items as a pattern. -/
def concatOf (region : Region) (items : List Pattern) : Pattern :=
  match items with
  | [] => .empty region
  | [item] => item
  | items => .concat region items

/-- The part of a body that has been read. -/
structure BodySoFar where
  /-- Where the body begins. -/
  start : Place
  /-- The finished branches, last one first. -/
  branches : List Pattern := []
  /-- Where the current branch begins. -/
  branchStart : Place
  /-- The items of the current branch, last one first. -/
  items : List Pattern := []

namespace BodySoFar

/-- An empty body at a place. -/
def startAt (p : Place) : BodySoFar := { start := p, branchStart := p }

/-- One more item. -/
def push (b : BodySoFar) (item : Pattern) : BodySoFar := { b with items := item :: b.items }

/-- The current branch, which ends at a place. -/
def branch (b : BodySoFar) (p : Place) : Pattern :=
  concatOf ⟨b.branchStart, p⟩ b.items.reverse

/-- A bar from `p` to `q` ends the branch. -/
def bar (b : BodySoFar) (p q : Place) : BodySoFar :=
  { b with branches := b.branch p :: b.branches, branchStart := q, items := [] }

/-- The body as a pattern, which ends at a place. -/
def finish (b : BodySoFar) (p : Place) : Pattern :=
  match b.branches with
  | [] => b.branch p
  | branches => .alternation ⟨b.start, p⟩ (b.branch p :: branches).reverse

end BodySoFar

/-- What a repetition operator can stand behind: any item but a change of
flags. -/
def repeatable? : List Pattern → Option (Pattern × List Pattern)
  | [] => none
  | .setFlags _ _ :: _ => none
  | .empty _ :: _ => none
  | item :: items => some (item, items)

/-- A repetition of `item` that ends at a place. -/
def repetitionOf (item : Pattern) (rep : Repeating) (p : Place) : Pattern :=
  .repetition ⟨item.region.start, p⟩ rep.op rep.greedy item

/-- **A body,** up to the closing parenthesis or the end of the pattern. Each
round reads at least one character, so as many rounds as there are characters
are enough. -/
def body : Nat → Reader → BodySoFar → Except Fault (Pattern × Reader)
  | 0, r, b => .ok (b.finish r.place, r)
  | rounds + 1, r, b =>
    let r := r.skip
    match r.peek? with
    | none => .ok (b.finish r.place, r)
    | some ')' => .ok (b.finish r.place, r)
    | some '|' => body rounds r.advance (b.bar r.place r.advance.place)
    | some '(' => do
      match ← opening r with
      | (.setFlags region flags, r) =>
        let r := { r with verbose := (flags.state? .verbose).getD r.verbose }
        body rounds r (b.push (.setFlags region flags))
      | (.group region kind, r) =>
        let outside := r.verbose
        let inside :=
          match kind with
          | .flags flags => (flags.state? .verbose).getD outside
          | _ => outside
        let (sub, r) ← body rounds { r with verbose := inside } (.startAt r.place)
        if r.peek?.isNone then fault .groupUnclosed region
        else
          let r := { r.advance with verbose := outside }
          body rounds r (b.push (.group ⟨region.start, r.place⟩ kind sub))
    | some '[' => do
      let (item, r) ← bracketedClass r
      body rounds r (b.push item)
    | some '{' =>
      match repeatable? b.items with
      | none => fault .repetitionMissing r.point
      | some (item, items) => do
        let (rep, r) ← counted r
        body rounds r { b with items := repetitionOf item rep r.place :: items }
    | some c =>
      match signOp? c with
      | some op =>
        match repeatable? b.items with
        | none => fault .repetitionMissing r.point
        | some (item, items) =>
          let (rep, r) := signed op r
          body rounds r { b with items := repetitionOf item rep r.place :: items }
      | none => do
        let (item, r) ← atom r
        body rounds r (b.push item.toPattern)

/-! ## Depth -/

/-- The first of several checks that fails. -/
def orElseFault (first : Option Fault) (second : Option Fault) : Option Fault :=
  match first with
  | some f => some f
  | none => second

/-- The fault of a node that is nested too deep, where `depth` nodes lie around
it. -/
def tooDeep? (depth : Nat) (region : Region) : Option Fault :=
  if nestingLimit ≤ depth then some { cause := .nestingTooDeep, region } else none

mutual

/-- The first node of a class set, outermost first, that is nested too deep. -/
def ClassSet.tooDeep? (depth : Nat) : ClassSet → Option Fault
  | .bracketed region _ set =>
    orElseFault (Regex.tooDeep? depth region) (set.tooDeep? (depth + 1))
  | .union region sets =>
    orElseFault (Regex.tooDeep? depth region) (ClassSet.anyTooDeep? (depth + 1) sets)
  | .combine region _ left right =>
    orElseFault (Regex.tooDeep? depth region)
      (orElseFault (left.tooDeep? (depth + 1)) (right.tooDeep? (depth + 1)))
  | _ => none

/-- The first node of several class sets that is nested too deep. -/
def ClassSet.anyTooDeep? (depth : Nat) : List ClassSet → Option Fault
  | [] => none
  | s :: sets => orElseFault (s.tooDeep? depth) (ClassSet.anyTooDeep? depth sets)

end

mutual

/-- The first node of a pattern, outermost first, that is nested too deep. -/
def Pattern.tooDeep? (depth : Nat) : Pattern → Option Fault
  | .bracketed region _ set =>
    orElseFault (Regex.tooDeep? depth region) (set.tooDeep? (depth + 1))
  | .repetition region _ _ sub =>
    orElseFault (Regex.tooDeep? depth region) (sub.tooDeep? (depth + 1))
  | .group region _ sub =>
    orElseFault (Regex.tooDeep? depth region) (sub.tooDeep? (depth + 1))
  | .alternation region branches =>
    orElseFault (Regex.tooDeep? depth region) (Pattern.anyTooDeep? (depth + 1) branches)
  | .concat region items =>
    orElseFault (Regex.tooDeep? depth region) (Pattern.anyTooDeep? (depth + 1) items)
  | _ => none

/-- The first node of several patterns that is nested too deep. -/
def Pattern.anyTooDeep? (depth : Nat) : List Pattern → Option Fault
  | [] => none
  | p :: patterns => orElseFault (p.tooDeep? depth) (Pattern.anyTooDeep? depth patterns)

end

/-! ## Patterns -/

/-- **The tree of a pattern.** -/
def Pattern.parse (text : List Char) : Except Fault Pattern := do
  let r := Reader.ofText text
  let (p, r) ← body (text.length + 1) r (.startAt r.place)
  if r.peek?.isSome then fault .groupUnopened r.charRegion
  else
    match p.tooDeep? 0 with
    | some f => .error f
    | none => .ok p

/-- The canonical spelling of a pattern. -/
def Pattern.canonical (text : List Char) : Except Fault (List Char) :=
  (Pattern.parse text).map Pattern.render

end StatefulLexer.Regex
