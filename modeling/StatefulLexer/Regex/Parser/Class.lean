/-
Bracketed classes.

A class is a union of items, or several unions with operators between them,
which take effect from left to right. An opening bracket inside a class begins a
named class if it can be read as one, and otherwise a class in the class.
-/
import StatefulLexer.Regex.Parser.Atom

set_option autoImplicit false

namespace StatefulLexer.Regex

/-! ## Gathering items -/

/-- The items read so far, last one first, and the stretch they take up. -/
structure Gathered where
  region : Region
  items : List ClassSet := []

namespace Gathered

/-- No items yet, at a place. -/
def startAt (p : Place) : Gathered := { region := .point p }

/-- One more item. The stretch begins with the first. -/
def push (g : Gathered) (item : ClassSet) : Gathered :=
  { region := ⟨if g.items.isEmpty then item.region.start else g.region.start, item.region.stop⟩
    items := item :: g.items }

/-- The items as one set. -/
def toSet (g : Gathered) : ClassSet :=
  match g.items with
  | [] => .empty g.region
  | [item] => item
  | items => .union g.region items.reverse

end Gathered

/-- The set up to an operator or to the end: what was waiting on the left of an
operator, combined with what was read behind it. -/
def combineWith (waiting : Option (ClassOp × ClassSet)) (set : ClassSet) : ClassSet :=
  match waiting with
  | none => set
  | some (op, left) => .combine ⟨left.region.start, set.region.stop⟩ op left set

/-! ## The head of a class -/

/-- What the beginning of a class says: whether it is negated, the items that
were literal only because they came first, and the stretch of it all. -/
structure ClassHead where
  negated : Bool
  gathered : Gathered
  region : Region

/-- Hyphens at the beginning of a class stand for themselves. -/
def leadingHyphens (start : Place) (r : Reader) (g : Gathered) :
    Except Fault (Gathered × Reader) :=
  match h : r.rest with
  | [] => fault .classUnclosed (if g.items.isEmpty then ⟨start, r.place⟩ else .point start)
  | (c, _) :: _ =>
    have := r.length_advanceSkip_lt h
    if c = '-' then
      leadingHyphens start r.advanceSkip (g.push (.literal ⟨r.charRegion, '-', .plain⟩))
    else .ok (g, r)
termination_by r.rest.length

/-- The beginning of a class; the reader stands at the bracket. A closing
bracket that comes first stands for itself. -/
def classHead (r : Reader) : Except Fault (ClassHead × Reader) := do
  let start := r.place
  let r := r.advanceSkip
  let negated := r.peek? == some '^'
  let r := if negated then r.advanceSkip else r
  let (g, r) ← leadingHyphens start r (.startAt r.place)
  if g.items.isEmpty ∧ r.peek? = some ']' then
    let g := g.push (.literal ⟨r.charRegion, ']', .plain⟩)
    let r := r.advanceSkip
    if r.peek?.isNone then fault .classUnclosed ⟨start, r.place⟩
    else .ok (⟨negated, g, ⟨start, r.place⟩⟩, r)
  else .ok (⟨negated, g, ⟨start, r.place⟩⟩, r)

/-! ## Named classes -/

/-- A class with a name in colons, if one can be read at the bracket. -/
def namedClass? (r : Reader) : Option (ClassSet × Reader) := do
  let start := r.place
  let r ← r.after? ['[', ':']
  let negated := r.peek? == some '^'
  let r := if negated then r.advance else r
  let name := (r.rest.map Prod.fst).takeWhile (· ≠ ':')
  let r ← r.after? (name ++ [':', ']'])
  let kind ← NamedClass.ofName? name
  return (.named ⟨start, r.place⟩ negated kind, r)

/-! ## Items and ranges -/

/-- An atom as an item of a class. -/
def Atom.toClassSet : Atom → Except Fault ClassSet
  | .literal l => .ok (.literal l)
  | .property r negated query => .ok (.property r negated query)
  | .short r negated kind => .ok (.short r negated kind)
  | .dot r => fault .classEscapeInvalid r
  | .assertion r _ => fault .classEscapeInvalid r

/-- An atom as an end of a range. -/
def Atom.toBoundary : Atom → Except Fault Literal
  | .literal l => .ok l
  | a => fault .classRangeBoundary a.region

/-- An item or a range. `head` is the stretch that is marked if the class has no
end. -/
def classItem (head : Region) (r : Reader) : Except Fault (ClassSet × Reader) := do
  let (first, r) ← classAtom r
  let r := r.skip
  match r.peek? with
  | none => fault .classUnclosed head
  | some c =>
    -- Before a closing bracket a hyphen stands for itself, and two of them are
    -- the sign of a difference.
    if c ≠ '-' ∨ r.peekBehind? = some ']' ∨ r.peekBehind? = some '-' then
      return (← first.toClassSet, r)
    else
      let r := r.advanceSkip
      if r.peek?.isNone then fault .classUnclosed head
      else
        let (last, r) ← classAtom r
        let region : Region := ⟨first.region.start, last.region.stop⟩
        let low ← first.toBoundary
        let high ← last.toBoundary
        if low.char ≤ high.char then .ok (.range region low high, r)
        else fault .classRangeInvalid region

/-- An operator at the reader. -/
def classOp? (r : Reader) : Option (ClassOp × Reader) :=
  match r.peek?, r.peekSecond? with
  | some '&', some '&' => some (.inter, r.advance.advance)
  | some '-', some '-' => some (.diff, r.advance.advance)
  | some '~', some '~' => some (.symmDiff, r.advance.advance)
  | _, _ => none

/-! ## Classes -/

/-- **The rest of a class,** up to the closing bracket. Each round reads at
least one character, so as many rounds as there are characters are enough. -/
def classBody (head : Region) : Nat → Reader → Gathered → Option (ClassOp × ClassSet) →
    Except Fault (ClassSet × Reader)
  | 0, _, _, _ => fault .classUnclosed head
  | rounds + 1, r, g, waiting =>
    let r := r.skip
    match r.peek? with
    | none => fault .classUnclosed head
    | some '[' =>
      match namedClass? r with
      | some (item, r) => classBody head rounds r (g.push item) waiting
      | none => do
        let start := r.place
        let (inner, r) ← classHead r
        let (set, r) ← classBody inner.region rounds r inner.gathered none
        let r := r.advance
        classBody head rounds r (g.push (.bracketed ⟨start, r.place⟩ inner.negated set)) waiting
    | some ']' => .ok (combineWith waiting g.toSet, r)
    | some _ =>
      match classOp? r with
      | some (op, r) =>
        classBody head rounds r (.startAt r.place) (some (op, combineWith waiting g.toSet))
      | none => do
        let (item, r) ← classItem head r
        classBody head rounds r (g.push item) waiting

/-- **A bracketed class;** the reader stands at the opening bracket. -/
def bracketedClass (r : Reader) : Except Fault (Pattern × Reader) := do
  let start := r.place
  let (head, r) ← classHead r
  let (set, r) ← classBody head.region (r.rest.length + 1) r head.gathered none
  let r := r.advance
  return (.bracketed ⟨start, r.place⟩ head.negated set, r)

end StatefulLexer.Regex
