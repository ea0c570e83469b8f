/-
Places in the text of a pattern.

A place has a byte offset, and a line and a column for messages. The characters
of a pattern are paired with their places once, before the pattern is read, so
whoever reads them need not count.
-/
set_option autoImplicit false

namespace StatefulLexer.Regex

/-- A place in the text of a pattern. Lines and columns count from one, columns
in characters. -/
structure Place where
  offset : Nat := 0
  line : Nat := 1
  column : Nat := 1
deriving DecidableEq, Repr

/-- The place behind a character. -/
def Place.after (p : Place) (c : Char) : Place :=
  if c = '\n' then ⟨p.offset + c.utf8Size, p.line + 1, 1⟩
  else ⟨p.offset + c.utf8Size, p.line, p.column + 1⟩

/-- A stretch of a pattern. -/
structure Region where
  start : Place
  stop : Place
deriving DecidableEq, Repr

namespace Region

/-- The empty stretch at a place. -/
def point (p : Place) : Region := ⟨p, p⟩

/-- The stretch lies in one line. -/
def inOneLine (r : Region) : Bool := r.start.line == r.stop.line

/-- The order by start, and by end for the same start. -/
def le (a b : Region) : Bool :=
  decide (a.start.offset < b.start.offset ∨
    (a.start.offset = b.start.offset ∧ a.stop.offset ≤ b.stop.offset))

end Region

/-- The characters of a pattern with their places, the first at `p`. -/
def placed (p : Place) : List Char → List (Char × Place)
  | [] => []
  | c :: text => (c, p) :: placed (p.after c) text

/-- The place behind a text. -/
def Place.afterAll (p : Place) (text : List Char) : Place := text.foldl Place.after p

@[simp] theorem length_placed (p : Place) (text : List Char) :
    (placed p text).length = text.length := by
  induction text generalizing p with
  | nil => rfl
  | cons c text ih => simp [placed, ih]

@[simp] theorem map_fst_placed (p : Place) (text : List Char) :
    (placed p text).map Prod.fst = text := by
  induction text generalizing p with
  | nil => rfl
  | cons c text ih => simp [placed, ih]

end StatefulLexer.Regex
