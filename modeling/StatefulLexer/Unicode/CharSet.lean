/-
Sets of characters.

A set is a list of code ranges, ascending and apart from each other, which is
the form `ofRanges` and the operations give. The codes between `0xD7FF` and
`0xE000` are no characters, so the one is next to the other: `above` and `below`
step over the gap. Ranges that end and begin there are not joined, for their
codes do not touch, and a complement takes both ends into it.
-/
set_option autoImplicit false

namespace StatefulLexer

/-- The code points from `first` to `last`, both included. -/
structure CodeRange where
  first : Nat
  last : Nat
deriving DecidableEq, Repr

/-- A set of characters. -/
structure CharSet where
  ranges : List CodeRange
deriving DecidableEq, Repr

namespace CodeRange

/-- The code point lies in the range. -/
def contains (r : CodeRange) (code : Nat) : Bool := decide (r.first ≤ code ∧ code ≤ r.last)

end CodeRange

namespace CharSet

/-- The greatest code point. -/
def lastCode : Nat := 0x10FFFF

/-- The code point lies in the set. -/
def containsCode (s : CharSet) (code : Nat) : Bool := s.ranges.any (·.contains code)

/-- The character lies in the set. -/
def contains (s : CharSet) (c : Char) : Bool := s.containsCode c.toNat

/-! ## Building sets -/

/-- The set without characters. -/
def none : CharSet := ⟨[]⟩

/-- The set of all characters. -/
def all : CharSet := ⟨[⟨0, lastCode⟩]⟩

/-- `r` and the ranges behind it, which are sorted by their first code, joined
where they touch. -/
def joinFrom (r : CodeRange) : List CodeRange → List CodeRange
  | [] => [r]
  | q :: rest =>
    if q.first ≤ r.last + 1 then joinFrom ⟨r.first, max r.last q.last⟩ rest
    else r :: joinFrom q rest

/-- Ranges that are sorted by their first code, joined where they touch. -/
def join : List CodeRange → List CodeRange
  | [] => []
  | r :: rest => joinFrom r rest

/-- The characters in any of the ranges. A range that runs backwards is empty. -/
def ofRanges (rs : List CodeRange) : CharSet :=
  ⟨join ((rs.filter fun r => r.first ≤ r.last).mergeSort fun a b => a.first ≤ b.first)⟩

/-- The characters from `first` to `last`. -/
def range (first last : Char) : CharSet := ofRanges [⟨first.toNat, last.toNat⟩]

/-- The set of one character. -/
def single (c : Char) : CharSet := ⟨[⟨c.toNat, c.toNat⟩]⟩

/-- The set of the listed characters. -/
def ofList (cs : List Char) : CharSet := ofRanges (cs.map fun c => ⟨c.toNat, c.toNat⟩)

/-! ## Union -/

/-- The characters of either set. -/
def union (s t : CharSet) : CharSet := ofRanges (s.ranges ++ t.ranges)

/-- The characters of any of the sets. -/
def unions (sets : List CharSet) : CharSet := ofRanges (sets.flatMap (·.ranges))

/-! ## Complement -/

/-- The code of the next character. -/
def above (code : Nat) : Nat := if code = 0xD7FF then 0xE000 else code + 1

/-- The code of the character before. -/
def below (code : Nat) : Nat := if code = 0xE000 then 0xD7FF else code - 1

/-- What lies behind the range `r`, between it and the ranges that follow. Two
ranges that meet at the gap in the codes have no character between them; what
lies there is then read backwards, and is the two characters that meet. -/
def gaps (r : CodeRange) : List CodeRange → List CodeRange
  | [] => if r.last < lastCode then [⟨above r.last, lastCode⟩] else []
  | q :: rest =>
    let first := above r.last
    let last := below q.first
    ⟨min first last, max first last⟩ :: gaps q rest

/-- **The complement.** It holds the characters that are not in the set, and the
two at the gap in the codes if the set has a range that ends at the one and a
range that begins at the other. The ranges around those two may touch; a union
joins them. -/
def complement (s : CharSet) : CharSet :=
  match s.ranges with
  | [] => all
  | r :: rest => ⟨(if 0 < r.first then [⟨0, below r.first⟩] else []) ++ gaps r rest⟩

/-! ## Intersection and differences -/

/-- The codes of both ranges. -/
def common? (r q : CodeRange) : Option CodeRange :=
  let first := max r.first q.first
  let last := min r.last q.last
  if first ≤ last then some ⟨first, last⟩ else Option.none

/-- The characters of both sets. -/
def inter (s t : CharSet) : CharSet :=
  ⟨s.ranges.flatMap fun r => t.ranges.filterMap (common? r)⟩

/-- What is left of a range when the ranges of a set are cut out of it. -/
def cutOut (r : CodeRange) : List CodeRange → List CodeRange
  | [] => [r]
  | q :: rest =>
    if q.last < r.first then cutOut r rest
    else if r.last < q.first then [r]
    else
      let front := if r.first < q.first then [⟨r.first, below q.first⟩] else []
      front ++ if q.last < r.last then cutOut ⟨above q.last, r.last⟩ rest else []

/-- The characters of the first set that are not in the second. -/
def diff (s t : CharSet) : CharSet := ⟨s.ranges.flatMap fun r => cutOut r t.ranges⟩

/-- The characters of exactly one of the sets. -/
def symmDiff (s t : CharSet) : CharSet := (s.union t).diff (s.inter t)

/-! ## Looking at a set -/

/-- The set has no ranges. -/
def isEmpty (s : CharSet) : Bool := s.ranges.isEmpty

/-- The character of a set that has only one. A code at the gap is that of no character. -/
def only? (s : CharSet) : Option Char :=
  match s.ranges with
  | [r] =>
    if r.first = r.last ∧ r.first.isValidChar then some (Char.ofNat r.first) else Option.none
  | _ => Option.none

/-- The size in bytes of a code point in UTF-8. -/
def codeSize (code : Nat) : Nat :=
  if code < 0x80 then 1 else if code < 0x800 then 2 else if code < 0x10000 then 3 else 4

/-- The size in bytes of the smallest character of the set. -/
def leastSize (s : CharSet) : Option Nat := s.ranges.head?.map (codeSize ·.first)

/-- The size in bytes of the greatest character of the set. -/
def greatestSize (s : CharSet) : Option Nat := s.ranges.getLast?.map (codeSize ·.last)

end CharSet

end StatefulLexer
