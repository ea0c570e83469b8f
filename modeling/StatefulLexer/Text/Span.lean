/-
Stretches of a text, counted in bytes of its UTF-8 form.

A buffer is handled as a list of characters everywhere in this library; what the
outside sees are byte offsets. This file holds the passage between the two: the
byte size of a list of characters, the cut of a text at a byte, and the span
type that tokens answer with.
-/
set_option autoImplicit false

namespace StatefulLexer

/-! ## Bytes of a text -/

/-- The number of bytes of the UTF-8 form of `text`. -/
def byteSize : List Char → Nat
  | [] => 0
  | c :: text => c.utf8Size + byteSize text

@[simp] theorem byteSize_nil : byteSize [] = 0 := rfl

@[simp] theorem byteSize_cons (c : Char) (text : List Char) :
    byteSize (c :: text) = c.utf8Size + byteSize text := rfl

@[simp] theorem byteSize_append (s t : List Char) :
    byteSize (s ++ t) = byteSize s + byteSize t := by
  induction s with
  | nil => simp
  | cons c s ih => simp [ih, Nat.add_assoc]

@[simp] theorem byteSize_reverse (s : List Char) : byteSize s.reverse = byteSize s := by
  induction s with
  | nil => rfl
  | cons c s ih => simp [ih, Nat.add_comm]

/-- **The cut at a byte.** The characters that fit into the first `n` bytes, and
the rest. A cut inside a character falls in front of it, and a cut behind the
end takes the whole text. -/
def cutAtByte : Nat → List Char → List Char × List Char
  | _, [] => ([], [])
  | n, c :: text =>
    if c.utf8Size ≤ n then
      let (front, rest) := cutAtByte (n - c.utf8Size) text
      (c :: front, rest)
    else ([], c :: text)

/-- No character is lost by a cut. -/
theorem cutAtByte_append (n : Nat) (text : List Char) :
    (cutAtByte n text).1 ++ (cutAtByte n text).2 = text := by
  induction text generalizing n with
  | nil => rfl
  | cons c text ih =>
    simp only [cutAtByte]
    split
    · simp [ih]
    · rfl

/-- A cut never lies behind the byte it was asked for. -/
theorem byteSize_cutAtByte_le (n : Nat) (text : List Char) :
    byteSize (cutAtByte n text).1 ≤ n := by
  induction text generalizing n with
  | nil => simp [cutAtByte]
  | cons c text ih =>
    simp only [cutAtByte]
    split
    · have := ih (n - c.utf8Size)
      simp
      omega
    · simp

/-! ## Spans -/

/-- A stretch of a text from byte `start` up to byte `stop`. -/
structure Span where
  start : Nat
  stop : Nat
deriving DecidableEq, Repr

namespace Span

/-- A span is empty when it does not reach behind its start. -/
def isEmpty (s : Span) : Bool := decide (s.stop ≤ s.start)

/-- The number of bytes in a span. A span that ends before its start has none. -/
def length (s : Span) : Nat := s.stop - s.start

/-- A span is written as its two ends, `start..stop`. -/
def render (s : Span) : String := toString s.start ++ ".." ++ toString s.stop

/-- The text at a span, cut to what the text has of it. -/
def slice (text : List Char) (s : Span) : List Char :=
  (cutAtByte s.length (cutAtByte s.start text).2).1

/-- The text at a span. There is none when the span runs backwards, ends behind
the text, or has an end inside a character. -/
def slice? (text : List Char) (s : Span) : Option (List Char) :=
  let (front, rest) := cutAtByte s.start text
  let (middle, _) := cutAtByte s.length rest
  if s.start ≤ s.stop ∧ byteSize front = s.start ∧ byteSize middle = s.length then
    some middle
  else none

@[simp] theorem length_eq_zero_iff (s : Span) : s.length = 0 ↔ s.isEmpty = true := by
  simp [length, isEmpty, Nat.sub_eq_zero_iff_le]

end Span

end StatefulLexer
