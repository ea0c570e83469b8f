/-
Slices of a buffer, and what a cursor makes of them.

Everything outside speaks of byte offsets, everything inside of characters. This
file is the passage between the two, once and for all: a cut at the byte size of
a beginning falls behind that beginning, so a slice that was measured on the
text is the text it was measured on. A cursor finds a slice the same way as the
whole buffer does, whichever side of the place the slice lies on.

Main statement: `Cursor.ComesNext.slice`, by which a span that was measured on
what comes next holds just that.
-/
import StatefulLexer.Text.Cursor

set_option autoImplicit false

namespace StatefulLexer

/-! ## Cuts -/

/-- A cut at byte zero takes nothing, since every character has a byte. -/
@[simp] theorem cutAtByte_zero (text : List Char) : cutAtByte 0 text = ([], text) := by
  cases text with
  | nil => rfl
  | cons c text =>
    have hc : ¬c.utf8Size ≤ 0 := Nat.not_le_of_lt c.utf8Size_pos
    rw [cutAtByte, if_neg hc]

/-- A cut `n` bytes behind a beginning of the text is a cut at `n` in the rest. -/
theorem cutAtByte_add (n : Nat) (a b : List Char) :
    cutAtByte (byteSize a + n) (a ++ b) = (a ++ (cutAtByte n b).1, (cutAtByte n b).2) := by
  induction a with
  | nil => rw [byteSize_nil, Nat.zero_add]; rfl
  | cons c a ih =>
    have hle : c.utf8Size ≤ byteSize (c :: a) + n := by rw [byteSize_cons]; omega
    have hrest : byteSize (c :: a) + n - c.utf8Size = byteSize a + n := by
      rw [byteSize_cons]; omega
    rw [List.cons_append, cutAtByte, if_pos hle, hrest, ih]
    rfl

/-- A cut at the size of a beginning falls behind it. -/
theorem cutAtByte_append_eq (a b : List Char) : cutAtByte (byteSize a) (a ++ b) = (a, b) := by
  have h := cutAtByte_add 0 a b
  rw [Nat.add_zero, cutAtByte_zero, List.append_nil] at h
  exact h

/-- Only the empty text has no bytes. -/
theorem byteSize_eq_zero_iff (text : List Char) : byteSize text = 0 ↔ text = [] := by
  cases text with
  | nil => exact ⟨fun _ => rfl, fun _ => rfl⟩
  | cons c text =>
    have hc := c.utf8Size_pos
    rw [byteSize_cons]
    exact ⟨fun h => by omega, fun h => by cases h⟩

namespace Span

/-- The slice that was measured on a text behind a beginning is that text. -/
theorem slice_append (a b rest : List Char) :
    slice (a ++ (b ++ rest)) ⟨byteSize a, byteSize a + byteSize b⟩ = b := by
  have hlen : length ⟨byteSize a, byteSize a + byteSize b⟩ = byteSize b := by
    rw [length, Nat.add_sub_cancel_left]
  rw [slice, hlen, cutAtByte_append_eq, cutAtByte_append_eq]

/-- The same slice, asked for with a check. -/
theorem slice?_append (a b rest : List Char) :
    slice? (a ++ (b ++ rest)) ⟨byteSize a, byteSize a + byteSize b⟩ = some b := by
  have hlen : length ⟨byteSize a, byteSize a + byteSize b⟩ = byteSize b := by
    rw [length, Nat.add_sub_cancel_left]
  simp only [slice?, hlen, cutAtByte_append_eq, Nat.le_add_right, true_and, if_true]

/-- A slice that was asked for with a check is the slice. -/
theorem slice_of_slice? {text slice : List Char} {s : Span} (h : slice? text s = some slice) :
    Span.slice text s = slice := by
  unfold slice? at h
  dsimp only at h
  split at h
  · exact Option.some.inj h
  · cases h

end Span

/-- **A character begins at the byte,** or the text ends there. -/
def IsBoundary (text : List Char) (n : Nat) : Prop :=
  ∃ front back, text = front ++ back ∧ n = byteSize front

/-- No such byte lies behind the end. -/
theorem IsBoundary.le {text : List Char} {n : Nat} (h : IsBoundary text n) : n ≤ byteSize text := by
  obtain ⟨front, back, rfl, rfl⟩ := h
  rw [byteSize_append]
  exact Nat.le_add_right _ _

/-- Of two beginnings of a text, the one with fewer bytes is a beginning of the other. -/
theorem exists_between {text front back front' back' : List Char} (h : text = front ++ back)
    (h' : text = front' ++ back') (hle : byteSize front ≤ byteSize front') :
    ∃ middle, front' = front ++ middle := by
  have hpre : front <+: text := ⟨back, h.symm⟩
  have hpre' : front' <+: text := ⟨back', h'.symm⟩
  rcases List.prefix_or_prefix_of_prefix hpre hpre' with ⟨middle, hmiddle⟩ | ⟨middle, hmiddle⟩
  · exact ⟨middle, hmiddle.symm⟩
  · -- The second one has no more bytes than the first, so nothing is missing.
    rw [← hmiddle, byteSize_append] at hle
    have hnil : middle = [] := (byteSize_eq_zero_iff middle).1 (by omega)
    rw [hnil, List.append_nil] at hmiddle
    exact ⟨[], by rw [hmiddle, List.append_nil]⟩

namespace Span

/-- **A text has a slice** between two of its boundaries, and nowhere else. -/
theorem exists_slice?_iff {text : List Char} {s : Span} :
    (∃ slice, slice? text s = some slice) ↔
      s.start ≤ s.stop ∧ IsBoundary text s.start ∧ IsBoundary text s.stop := by
  constructor
  · rintro ⟨slice, h⟩
    unfold slice? at h
    dsimp only at h
    split at h
    · rename_i hcuts
      obtain ⟨hle, hfront, hmiddle⟩ := hcuts
      have houter := cutAtByte_append s.start text
      have hinner := cutAtByte_append s.length (cutAtByte s.start text).2
      have hstop : s.stop = byteSize ((cutAtByte s.start text).1
          ++ (cutAtByte s.length (cutAtByte s.start text).2).1) := by
        rw [byteSize_append, hfront, hmiddle, length]
        omega
      refine ⟨hle, ⟨_, _, houter.symm, hfront.symm⟩,
        ⟨_, (cutAtByte s.length (cutAtByte s.start text).2).2, ?_, hstop⟩⟩
      rw [List.append_assoc, hinner, houter]
    · cases h
  · rintro ⟨hle, ⟨front, back, htext, hstart⟩, front', back', htext', hstop⟩
    rw [hstart, hstop] at hle
    obtain ⟨middle, hmiddle⟩ := exists_between htext htext' hle
    have hspan : s = ⟨byteSize front, byteSize front + byteSize middle⟩ := by
      obtain ⟨start, stop⟩ := s
      dsimp only at hstart hstop
      rw [hstart, hstop, hmiddle, byteSize_append]
    refine ⟨middle, ?_⟩
    rw [htext', hmiddle, List.append_assoc, hspan]
    exact slice?_append front middle back'

/-- A slice behind a beginning is the slice of the rest, counted from there. -/
theorem slice_add (a b : List Char) (s : Span) (hs : byteSize a ≤ s.start) :
    slice (a ++ b) s = slice b ⟨s.start - byteSize a, s.stop - byteSize a⟩ := by
  have hcut := cutAtByte_add (s.start - byteSize a) a b
  rw [Nat.add_sub_cancel' hs] at hcut
  have hlen : length ⟨s.start - byteSize a, s.stop - byteSize a⟩ = s.length := by
    simp only [length]; omega
  rw [slice, slice, hcut, hlen]

end Span

/-! ## The cursor -/

namespace Cursor

/-- The offset is the size of what lies behind. -/
theorem offset_eq_reverse (c : Cursor) : c.offset = byteSize c.behind.reverse := by
  rw [byteSize_reverse, c.offset_eq]

/-- **A cursor slices its buffer,** on either side of the place. -/
theorem slice_eq (c : Cursor) (s : Span) : c.slice s = Span.slice c.text s := by
  unfold slice
  split
  · rename_i hs
    rw [offset_eq_reverse] at hs ⊢
    rw [text, Span.slice_add _ _ s hs]
  · rfl

@[simp] theorem behind_next (c : Cursor) :
    c.next.behind = c.ahead.head?.toList ++ c.behind := by
  unfold next
  split <;> rename_i h <;> rw [h] <;> rfl

/-- What lies behind after `n` steps: the characters that were passed, nearest
first, and what lay behind before. -/
@[simp] theorem behind_advance (n : Nat) (c : Cursor) :
    (c.advance n).behind = (c.ahead.take n).reverse ++ c.behind := by
  induction n generalizing c with
  | zero => rfl
  | succ n ih =>
    rw [advance, ih, ahead_next, behind_next]
    cases h : c.ahead with
    | nil => simp
    | cons x rest => simp

/-- The offset moves on by the bytes that were passed. -/
theorem offset_advance (n : Nat) (c : Cursor) :
    (c.advance n).offset = c.offset + byteSize (c.ahead.take n) := by
  rw [(c.advance n).offset_eq, behind_advance, byteSize_append, byteSize_reverse, c.offset_eq,
    Nat.add_comm]

/-- A cursor is what lies behind it and ahead of it. -/
theorem ext_lists {c d : Cursor} (hb : c.behind = d.behind) (ha : c.ahead = d.ahead) : c = d := by
  obtain ⟨b, a, o, ho⟩ := c
  obtain ⟨b', a', o', ho'⟩ := d
  dsimp only at hb ha
  subst hb ha ho ho'
  rfl

/-- To pass the text of `n` characters is to take `n` steps, also where fewer are
left. -/
theorem advance_length_take (n : Nat) (c : Cursor) :
    c.advance (c.ahead.take n).length = c.advance n := by
  rcases Nat.le_total n c.ahead.length with hn | hn
  · rw [List.length_take, Nat.min_eq_left hn]
  · rw [List.take_of_length_le hn]
    apply ext_lists
    · rw [behind_advance, behind_advance, List.take_length, List.take_of_length_le hn]
    · rw [ahead_advance, ahead_advance, List.drop_length, List.drop_eq_nil_of_le hn]

/-! ## What comes next

A match is a span, and the scanner reads its text back from the buffer. The two
are tied here: a span that starts at the place, and a text that lies ahead of it
and has as many bytes. -/

/-- **The text comes next,** and the span is where it stands. -/
structure ComesNext (c : Cursor) (text : List Char) (s : Span) : Prop where
  begins : text <+: c.ahead
  start : s.start = c.offset
  stop : s.stop = c.offset + byteSize text

/-- The first `n` characters ahead come next. -/
theorem comesNext_take (c : Cursor) (n : Nat) :
    c.ComesNext (c.ahead.take n) (c.spanAhead 0 n) where
  begins := List.take_prefix n c.ahead
  start := rfl
  stop := rfl

/-- The bytes between two of the next characters hold what is between them. -/
theorem slice?_spanAhead (c : Cursor) {start stop : Nat} (h : start ≤ stop) :
    Span.slice? c.text (c.spanAhead start stop) = some ((c.ahead.take stop).drop start) := by
  have hfront : c.ahead.take start = (c.ahead.take stop).take start := by
    rw [List.take_take, Nat.min_eq_left h]
  have hsplit : (c.ahead.take stop).take start ++ (c.ahead.take stop).drop start
      = c.ahead.take stop := List.take_append_drop ..
  have hstop : byteSize (c.ahead.take stop)
      = byteSize (c.ahead.take start) + byteSize ((c.ahead.take stop).drop start) := by
    rw [hfront, ← byteSize_append, hsplit]
  have hspan : c.spanAhead start stop
      = ⟨byteSize (c.behind.reverse ++ c.ahead.take start),
        byteSize (c.behind.reverse ++ c.ahead.take start)
          + byteSize ((c.ahead.take stop).drop start)⟩ := by
    rw [spanAhead, c.offset_eq_reverse, byteSize_append, hstop, Nat.add_assoc]
  have htext : c.text = (c.behind.reverse ++ c.ahead.take start)
      ++ ((c.ahead.take stop).drop start ++ c.ahead.drop stop) := by
    rw [List.append_assoc, ← List.append_assoc (c.ahead.take start), hfront, hsplit,
      List.take_append_drop, text]
  rw [htext, hspan, Span.slice?_append]

/-- Text at the end of the buffer has no part in the bytes of characters in front of it. -/
theorem spanAhead_feed (c : Cursor) (more : List Char) {start stop : Nat}
    (hstart : start ≤ c.ahead.length) (hstop : stop ≤ c.ahead.length) :
    (c.feed more).spanAhead start stop = c.spanAhead start stop := by
  rw [spanAhead, spanAhead, feed, List.take_append_of_le_length hstart,
    List.take_append_of_le_length hstop]

/-- Everything ahead comes next, up to the end of the buffer. -/
theorem comesNext_ahead (c : Cursor) : c.ComesNext c.ahead ⟨c.offset, c.finish⟩ where
  begins := List.prefix_refl c.ahead
  start := rfl
  stop := rfl

namespace ComesNext

variable {c : Cursor} {text : List Char} {s : Span}

/-- Text at the end of the buffer does not change what comes next. -/
theorem feed (h : c.ComesNext text s) (more : List Char) : (c.feed more).ComesNext text s where
  begins := h.begins.trans (List.prefix_append c.ahead more)
  start := h.start
  stop := h.stop

/-- Nothing but the bytes of the text lies between the ends of its span. -/
theorem span_eq (h : c.ComesNext text s) :
    s = ⟨byteSize c.behind.reverse, byteSize c.behind.reverse + byteSize text⟩ := by
  obtain ⟨start, stop⟩ := s
  have hstart : start = c.offset := h.start
  have hstop : stop = c.offset + byteSize text := h.stop
  rw [hstart, hstop, c.offset_eq_reverse]

/-- **What comes next is what the slice holds.** -/
theorem slice (h : c.ComesNext text s) : c.slice s = text := by
  obtain ⟨rest, hrest⟩ := h.begins
  rw [slice_eq, h.span_eq, Cursor.text, ← hrest, Span.slice_append]

/-- The buffer has a slice there, and it is the text. -/
theorem slice? (h : c.ComesNext text s) : Span.slice? c.text s = some text := by
  obtain ⟨rest, hrest⟩ := h.begins
  rw [h.span_eq, Cursor.text, ← hrest, Span.slice?_append]

/-- The slice from the place to the end of the span is the same text. -/
theorem slice_from (h : c.ComesNext text s) : c.slice ⟨c.offset, s.stop⟩ = text := by
  have hs : (⟨c.offset, s.stop⟩ : Span) = s := by rw [← h.start]
  rw [hs, h.slice]

/-- The text is as many of the next characters as it is long. -/
theorem take_eq (h : c.ComesNext text s) : c.ahead.take text.length = text := by
  obtain ⟨rest, hrest⟩ := h.begins
  rw [← hrest, List.take_left]

/-- Behind the text, the text lies behind. -/
theorem behind (h : c.ComesNext text s) :
    (c.advance text.length).behind = text.reverse ++ c.behind := by
  rw [behind_advance, h.take_eq]

/-- Behind the text, the offset is the end of its span. -/
theorem offset (h : c.ComesNext text s) : (c.advance text.length).offset = s.stop := by
  rw [offset_advance, h.take_eq, h.stop]

end ComesNext

end Cursor

end StatefulLexer
