/-
Lines and columns.

Both count from one, and a column counts characters, not bytes. The position
behind a text is the fold of one step per character; whether a newline begins a
new line is the caller's choice, because a lexer rule that does not declare line
breaks takes a newline for an ordinary character.

Lines and columns are natural numbers and have no greatest value. A counter of
fixed width could overflow, if a scanner went on from a saved line or column next
to the greatest number of that width; positions of that kind are not spoken of
here.
-/
set_option autoImplicit false

namespace StatefulLexer

/-- A place in a text as people speak of it. -/
structure Position where
  line : Nat := 1
  col : Nat := 1
deriving DecidableEq, Repr

namespace Position

/-- A position is written `line L col C`. -/
def render (p : Position) : String :=
  "line " ++ toString p.line ++ " col " ++ toString p.col

/-- Positions are ordered by line, and within a line by column. -/
def le (p q : Position) : Bool :=
  decide (p.line < q.line ∨ (p.line = q.line ∧ p.col ≤ q.col))

/-- The position behind one character. -/
def step (countLines : Bool) (p : Position) (c : Char) : Position :=
  if countLines && c == '\n' then ⟨p.line + 1, 1⟩ else ⟨p.line, p.col + 1⟩

/-- The position behind a text. -/
def after (countLines : Bool) (p : Position) (text : List Char) : Position :=
  text.foldl (step countLines) p

@[simp] theorem after_nil (countLines : Bool) (p : Position) :
    p.after countLines [] = p := rfl

@[simp] theorem after_cons (countLines : Bool) (p : Position) (c : Char) (text : List Char) :
    p.after countLines (c :: text) = (p.step countLines c).after countLines text := rfl

/-- Walking over two texts in turn is walking over both at once. -/
theorem after_append (countLines : Bool) (p : Position) (s t : List Char) :
    p.after countLines (s ++ t) = (p.after countLines s).after countLines t := by
  simp [after, List.foldl_append]

end Position

/-- The number of line breaks that a stretch of text is counted to have. -/
def lineBreaks (countLines : Bool) (text : List Char) : Nat :=
  if countLines then text.count '\n' else 0

/-- The line behind a text is the line before it and the line breaks in it. -/
theorem Position.after_line (countLines : Bool) (p : Position) (text : List Char) :
    (p.after countLines text).line = p.line + lineBreaks countLines text := by
  induction text generalizing p with
  | nil => simp [lineBreaks]
  | cons c text ih =>
    rw [Position.after_cons, ih]
    by_cases h : c = '\n'
    · cases countLines <;> simp [lineBreaks, Position.step, h]
      omega
    · cases countLines <;> simp [lineBreaks, Position.step, h]

end StatefulLexer
