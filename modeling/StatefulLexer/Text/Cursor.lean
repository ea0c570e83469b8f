/-
A place in a buffer.

The buffer is kept as what lies behind the place, nearest character first, and
what lies ahead of it. Moving on takes characters from one list to the other, so
no character can get lost, and the look-around assertions of a pattern find
their neighbours at the two heads. The byte offset of the place is carried along
and tied to the list by a proof.
-/
import StatefulLexer.Text.Span

set_option autoImplicit false

namespace StatefulLexer

/-- A buffer and a place in it. -/
structure Cursor where
  /-- The characters before the place, nearest first. -/
  behind : List Char
  /-- The characters after the place, nearest first. -/
  ahead : List Char
  /-- The byte offset of the place. -/
  offset : Nat
  offset_eq : offset = byteSize behind := by rfl

namespace Cursor

/-- The start of a buffer. -/
def start (text : List Char) : Cursor := { behind := [], ahead := text, offset := 0 }

/-- The whole buffer. -/
def text (c : Cursor) : List Char := c.behind.reverse ++ c.ahead

/-- Nothing lies ahead of the place. -/
def atEnd (c : Cursor) : Bool := c.ahead.isEmpty

/-- The place one character on. At the end of the buffer it stays. -/
def next (c : Cursor) : Cursor :=
  match c.ahead with
  | [] => c
  | x :: rest =>
    { behind := x :: c.behind, ahead := rest, offset := c.offset + x.utf8Size
      offset_eq := by rw [c.offset_eq, byteSize_cons, Nat.add_comm] }

/-- The place `n` characters on. -/
def advance : Nat → Cursor → Cursor
  | 0, c => c
  | n + 1, c => advance n c.next

/-- The byte offset of the end of the buffer. -/
def finish (c : Cursor) : Nat := c.offset + byteSize c.ahead

/-- The bytes of the characters ahead from number `start` up to number `stop`,
counted from the place. -/
def spanAhead (c : Cursor) (start stop : Nat) : Span :=
  ⟨c.offset + byteSize (c.ahead.take start), c.offset + byteSize (c.ahead.take stop)⟩

/-- The text at a span of the buffer. -/
def slice (c : Cursor) (s : Span) : List Char :=
  -- What is behind is put together again only for a span that begins there.
  if c.offset ≤ s.start then Span.slice c.ahead ⟨s.start - c.offset, s.stop - c.offset⟩
  else Span.slice c.text s

/-- The same place in the buffer with more text at its end. -/
def feed (c : Cursor) (more : List Char) : Cursor := { c with ahead := c.ahead ++ more }

@[simp] theorem text_start (text : List Char) : (start text).text = text := rfl

/-- Moving on leaves the buffer alone. -/
@[simp] theorem text_next (c : Cursor) : c.next.text = c.text := by
  unfold next
  split
  · rfl
  · next x rest h => simp [text, h]

@[simp] theorem text_advance (n : Nat) (c : Cursor) : (c.advance n).text = c.text := by
  induction n generalizing c with
  | zero => rfl
  | succ n ih => rw [advance, ih, text_next]

@[simp] theorem text_feed (c : Cursor) (more : List Char) :
    (c.feed more).text = c.text ++ more := by
  simp [text, feed]

@[simp] theorem ahead_next (c : Cursor) : c.next.ahead = c.ahead.tail := by
  unfold next
  split <;> simp_all

/-- What lies ahead after `n` steps is what lay ahead less `n` characters. -/
@[simp] theorem ahead_advance (n : Nat) (c : Cursor) :
    (c.advance n).ahead = c.ahead.drop n := by
  induction n generalizing c with
  | zero => rfl
  | succ n ih => rw [advance, ih, ahead_next, List.drop_tail]

end Cursor

end StatefulLexer
