/-
What an excerpt shows, and where it points.

An excerpt is asked for with three numbers that need not fit together. The offset may lie
behind the text or inside a character; the line is a number that somebody else has counted, in
this text or in one that this text goes on from. So it is said here for all of them what comes
out. The place is the last boundary that is not behind the offset. The line shown last is the
line of the text in which the place lies, whatever its number is said to be, and the lines above
it are its neighbours in the text, as many as there are numbers for. The caret stands under the
place, since before it there is one character for each character in front of the place.

A program that works on bytes goes back to the boundary one byte at a time, counts line numbers
down and cuts the lines out of the text. It is written down once more with each of its
subtractions and each of its cuts one that may fail, and none does.

Main statement: `Excerpt.render_layout`.
-/
import Mathlib.Data.List.Forall2
import Mathlib.Order.Bounds.Basic
import StatefulLexer.Proofs.Text.Excerpt

set_option autoImplicit false

namespace StatefulLexer

/-! ## Boundaries -/

/-- A byte is a boundary if a cut there is not moved. -/
theorem isBoundary_iff {text : List Char} {n : Nat} :
    IsBoundary text n ↔ byteSize (cutAtByte n text).1 = n := by
  constructor
  · rintro ⟨front, back, rfl, rfl⟩
    rw [cutAtByte_append_eq]
  · intro hcut
    exact ⟨_, _, (cutAtByte_append n text).symm, hcut.symm⟩

instance decidableIsBoundary (text : List Char) (n : Nat) : Decidable (IsBoundary text n) :=
  decidable_of_iff _ isBoundary_iff.symm

/-- **A cut falls on the last boundary** that is not behind the byte it was asked for. -/
theorem isGreatest_cutAtByte (n : Nat) (text : List Char) :
    IsGreatest { b | IsBoundary text b ∧ b ≤ n } (byteSize (cutAtByte n text).1) := by
  constructor
  · exact ⟨⟨_, _, (cutAtByte_append n text).symm, rfl⟩, byteSize_cutAtByte_le n text⟩
  · rintro b ⟨⟨front, back, rfl, rfl⟩, hle⟩
    -- The cut takes all that stands in front of the boundary.
    have hcut := cutAtByte_add (n - byteSize front) front back
    rw [Nat.add_sub_cancel' hle] at hcut
    rw [hcut, byteSize_append]
    exact Nat.le_add_right _ _

/-- No boundary lies behind the end, so an offset there is as good as the end. -/
theorem isGreatest_min {text : List Char} {offset place : Nat} :
    IsGreatest { b | IsBoundary text b ∧ b ≤ min offset (byteSize text) } place
      ↔ IsGreatest { b | IsBoundary text b ∧ b ≤ offset } place := by
  have hset : { b | IsBoundary text b ∧ b ≤ min offset (byteSize text) }
      = { b | IsBoundary text b ∧ b ≤ offset } := by
    ext b
    constructor
    · rintro ⟨hb, hle⟩
      exact ⟨hb, Nat.le_trans hle (Nat.min_le_left _ _)⟩
    · rintro ⟨hb, hle⟩
      exact ⟨hb, Nat.le_min.2 ⟨hle, hb.le⟩⟩
  rw [hset]

namespace Excerpt

/-! ## Every number checked -/

/-- A subtraction that fails below zero. -/
def minus? (a b : Nat) : Option Nat := if b ≤ a then some (a - b) else none

theorem minus?_eq {a b : Nat} (h : b ≤ a) : minus? a b = some (a - b) := if_pos h

/-- The last boundary up to a byte, one byte back at a time. There is none if byte zero is not
one. -/
def moveBack? (text : List Char) : Nat → Option Nat
  | 0 => if IsBoundary text 0 then some 0 else none
  | n + 1 => if IsBoundary text (n + 1) then some (n + 1) else moveBack? text n

/-- **The way back ends** on the last boundary. -/
theorem moveBack?_eq {text : List Char} {n place : Nat}
    (h : IsGreatest { b | IsBoundary text b ∧ b ≤ n } place) : moveBack? text n = some place := by
  induction n with
  | zero =>
    have hplace : place = 0 := Nat.le_zero.1 h.1.2
    rw [moveBack?, hplace, if_pos (hplace ▸ h.1.1)]
  | succ n ih =>
    rw [moveBack?]
    by_cases hboundary : IsBoundary text (n + 1)
    · have hle : n + 1 ≤ place := h.2 ⟨hboundary, Nat.le_refl _⟩
      rw [if_pos hboundary, Nat.le_antisymm hle h.1.2]
    · rw [if_neg hboundary]
      apply ih
      refine ⟨⟨h.1.1, ?_⟩, ?_⟩
      · have hne : place ≠ n + 1 := by
          rintro rfl
          exact hboundary h.1.1
        have hle := h.1.2
        omega
      · rintro b ⟨hb, hle⟩
        exact h.2 ⟨hb, Nat.le_succ_of_le hle⟩

/-- The lines in front of the one that begins at byte `start`, with their numbers, the nearest
one first. There is nothing if a number falls below zero or a cut is not possible. -/
def earlier? (text : List Char) : Nat → Nat → Nat → Option (List (List Char × Nat))
  | 0, _, _ => some []
  | n + 1, start, line =>
    if 0 < start ∧ 1 < line then do
      let stop ← minus? start 1
      let before ← Span.slice? text ⟨0, stop⟩
      let whole ← Span.slice? text ⟨lastLineStart before, stop⟩
      let number ← minus? line 1
      let earlier ← earlier? text n (lastLineStart before) number
      return earlier ++ [(whole, number)]
    else some []

/-- No number falls below zero. -/
theorem earlier?_eq (text : List Char) (n start line : Nat) :
    earlier? text n start line = cutEarlier text n start line := by
  induction n generalizing start line with
  | zero => rfl
  | succ n ih =>
    rw [earlier?, cutEarlier]
    by_cases hmore : 0 < start ∧ 1 < line
    · have hline : 1 ≤ line := Nat.le_of_lt hmore.2
      rw [if_pos hmore, if_pos hmore, minus?_eq hmore.1, minus?_eq hline]
      simp only [Option.bind_eq_bind, Option.bind_some, ih]
    · rw [if_neg hmore, if_neg hmore]

/-- **An excerpt, with everything checked.** There is none if a number falls below zero, or a cut
is not possible. -/
def render? (text : List Char) (offset line col : Nat) (message : String) : Option String := do
  let place ← moveBack? text (min offset (byteSize text))
  let front ← Span.slice? text ⟨0, place⟩
  let rest ← Span.slice? text ⟨place, byteSize text⟩
  let start := lastLineStart front
  let whole ← Span.slice? text ⟨start, place + byteSize (rest.takeWhile (· ≠ '\n'))⟩
  let earlier ← earlier? text contextLines start line
  let head ← Span.slice? text ⟨start, place⟩
  return assemble earlier whole head line col message

/-- **No check fails.** -/
theorem render?_eq (text : List Char) (offset line col : Nat) (message : String) :
    render? text offset line col message = some (render text offset line col message) := by
  have hplace := moveBack?_eq (isGreatest_min.2 (isGreatest_cutAtByte offset text))
  rw [← cutOut_eq, render?, cutOut, hplace]
  simp only [Option.bind_eq_bind, Option.bind_some, earlier?_eq]

/-! ## The line of a place -/

/-- Lines as they stand in a text: each with the newline that ends it. -/
def ended (lines : List (List Char)) : List Char := lines.flatMap (· ++ ['\n'])

/-- The lines of a text are the text, but for the newline that ends the last one. -/
theorem ended_lines (text : List Char) : ended (lines text) = text ++ ['\n'] := by
  induction text with
  | nil => rfl
  | cons c text ih =>
    rw [lines]
    by_cases hc : c = '\n'
    · rw [if_pos hc, hc, ended, List.flatMap_cons]
      exact congrArg ('\n' :: ·) ih
    · rw [if_neg hc]
      cases hlines : lines text with
      | nil => exact absurd hlines (lines_ne_nil text)
      | cons line rest =>
        rw [hlines] at ih
        exact congrArg (c :: ·) ih

theorem newline_notMem_lines {text line : List Char} (h : line ∈ lines text) : '\n' ∉ line := by
  induction text generalizing line with
  | nil =>
    rw [lines, List.mem_singleton] at h
    rw [h]
    exact List.not_mem_nil
  | cons c text ih =>
    rw [lines] at h
    by_cases hc : c = '\n'
    · rw [if_pos hc, List.mem_cons] at h
      rcases h with rfl | h
      · exact List.not_mem_nil
      · exact ih h
    · rw [if_neg hc] at h
      cases hlines : lines text with
      | nil => exact absurd hlines (lines_ne_nil text)
      | cons first rest =>
        rw [hlines] at h ih
        rcases List.mem_cons.1 h with rfl | h
        · simp only [List.mem_cons, not_or]
          exact ⟨Ne.symm hc, ih List.mem_cons_self⟩
        · exact ih (List.mem_cons_of_mem first h)

/-- **Where a place lies.** The lines `earlier` end in front of it, and it lies in a line of the
text between `head` and `tail`. -/
structure InLine (text : List Char) (place : Nat) (earlier : List (List Char))
    (head tail : List Char) : Prop where
  place_eq : place = byteSize (ended earlier ++ head)
  text_eq : ∃ later, text = ended earlier ++ head ++ (tail ++ later) ∧ ∀ c ∈ later.head?, c = '\n'
  earlier_whole : ∀ line ∈ earlier, '\n' ∉ line
  whole : '\n' ∉ head ++ tail

/-- A cut of the text lies in the line that its last line begins. -/
theorem inLine_append (front rest : List Char) :
    InLine (front ++ rest) (byteSize front) (lines front).dropLast (lastLine front)
      (rest.takeWhile (· ≠ '\n')) := by
  have hfront : ended (lines front).dropLast ++ lastLine front = front := by
    have hlines := ended_lines front
    rw [lines_eq_concat, ended, List.flatMap_append, List.flatMap_singleton,
      ← List.append_assoc] at hlines
    exact List.append_cancel_right hlines
  have hlast : '\n' ∉ rest.takeWhile (· ≠ '\n') := by
    intro hmem
    have hall := List.all_eq_true.1 List.all_takeWhile '\n' hmem
    simp at hall
  refine ⟨by rw [hfront], ⟨rest.dropWhile (· ≠ '\n'), ?_, ?_⟩, ?_, ?_⟩
  · rw [hfront, List.takeWhile_append_dropWhile]
  · intro c hc
    have hstop := List.head?_dropWhile_not (fun c : Char => decide (c ≠ '\n')) rest
    rw [Option.mem_def] at hc
    rw [hc] at hstop
    simpa using hstop
  · intro line hline
    exact newline_notMem_lines (List.dropLast_subset _ hline)
  · rw [List.mem_append, not_or]
    exact ⟨newline_notMem_lastLine front, hlast⟩

/-! ## Rows -/

/-- A number has no more digits than a greater one. -/
theorem length_toString_mono {m n : Nat} (h : m ≤ n) :
    (toString m).length ≤ (toString n).length := by
  have hpos : 0 < n.repr.length := Nat.length_repr_pos
  have hlt : n < 10 ^ n.repr.length := (Nat.length_repr_le_iff hpos).1 (Nat.le_refl _)
  exact (Nat.length_repr_le_iff hpos).2 (Nat.lt_of_le_of_lt h hlt)

/-- **A row shows a line with its number.** The number stands at the right edge of a field of
`width` characters, and of the line all is shown but the carriage returns at its end. -/
def IsRow (width number : Nat) (line row : List Char) : Prop :=
  ∃ blanks shown returns,
    row = "  ".toList ++ (blanks ++ (toString number).toList) ++ "  ".toList ++ shown ++ ['\n'] ∧
    (∀ c ∈ blanks, c = ' ') ∧ (blanks ++ (toString number).toList).length = width ∧
    line = shown ++ returns ∧ (∀ c ∈ returns, c = '\r') ∧ shown.getLast? ≠ some '\r'

/-- The carriage returns at the end of a line are those that are not shown. -/
theorem exists_returns (line : List Char) :
    ∃ returns, line = dropReturns line ++ returns ∧ (∀ c ∈ returns, c = '\r') ∧
      (dropReturns line).getLast? ≠ some '\r' := by
  refine ⟨(line.reverse.takeWhile (· == '\r')).reverse, ?_, ?_, ?_⟩
  · rw [dropReturns, ← List.reverse_append, List.takeWhile_append_dropWhile, List.reverse_reverse]
  · intro c hc
    have hall := List.all_eq_true.1 List.all_takeWhile c (List.mem_reverse.1 hc)
    exact beq_iff_eq.1 hall
  · intro hlast
    rw [dropReturns, List.getLast?_reverse] at hlast
    have hstop := List.head?_dropWhile_not (· == '\r') line.reverse
    rw [hlast] at hstop
    simp at hstop

/-- A shown line is a row, if its number is not longer than the field. -/
theorem isRow_shownLine {width number : Nat} (h : (toString number).length ≤ width)
    (line : List Char) : IsRow width number line (shownLine width number line) := by
  obtain ⟨returns, hline, hreturns, hlast⟩ := exists_returns line
  rw [← String.length_toList] at h
  refine ⟨List.replicate (width - (toString number).toList.length) ' ', dropReturns line, returns,
    rfl, ?_, ?_, hline, hreturns, hlast⟩
  · intro c hc
    exact List.eq_of_mem_replicate hc
  · rw [List.length_append, List.length_replicate]
    omega

/-- The rows that are put together: those of the lines in front, and that of the line in
question. -/
def shownRows (earlier : List (List Char × Nat)) (whole : List Char) (line : Nat) :
    List (List Char) :=
  (earlier ++ [(whole, line)]).map fun (text, number) =>
    shownLine (toString line).length number text

/-- The last row: as many blanks as the gutter is wide, and the caret behind one character for
each that stands in front of the place, a tab for a tab and a blank for any other. -/
def caretRow (width : Nat) (head : List Char) : List Char :=
  List.replicate (2 + width + 2) ' ' ++ head.map (fun c => if c = '\t' then '\t' else ' ') ++ ['^']

theorem assemble_eq (earlier : List (List Char × Nat)) (whole head : List Char) (line col : Nat)
    (message : String) :
    assemble earlier whole head line col message
      = message ++ " at line " ++ toString line ++ " col " ++ toString col ++ ":\n\n"
        ++ String.ofList ((shownRows earlier whole line).flatten
          ++ caretRow (toString line).length head) := by
  have hbody : earlier.flatMap (fun (text, number) => shownLine (toString line).length number text)
        ++ shownLine (toString line).length line whole
      = (shownRows earlier whole line).flatten := by
    rw [shownRows, List.map_append, List.flatten_append, List.flatMap_def]
    simp only [List.map_cons, List.map_nil, List.flatten_cons, List.flatten_nil, List.append_nil]
  have hgutter : "  ".toList ++ padLeft (toString line).length [] ++ "  ".toList
      = List.replicate (2 + (toString line).length + 2) ' ' := by
    rw [padLeft, List.append_nil, List.length_nil, Nat.sub_zero,
      ← List.replicate_append_replicate, ← List.replicate_append_replicate]
    rfl
  rw [assemble, hbody, hgutter]
  rfl

/-- **The lines that are shown** are the last ones in front of the line in question, and their
numbers go up to its number. -/
theorem shownRows_numbered (n : Nat) (earlier : List (List Char)) (whole : List Char) (line : Nat) :
    ∃ context, context <:+ earlier ∧ context.length = min n (min earlier.length (line - 1)) ∧
      List.Forall₂ (fun numbered row => IsRow (toString line).length numbered.2 numbered.1 row)
        ((context ++ [whole]).zipIdx (line - context.length))
        (shownRows (numbered n earlier line) whole line) := by
  generalize hshown : min n (min earlier.length (line - 1)) = shown
  have hlength : (earlier.drop (earlier.length - shown)).length = shown := by
    rw [List.length_drop]
    omega
  refine ⟨earlier.drop (earlier.length - shown), List.drop_suffix _ _, hlength, ?_⟩
  have hlast : line - shown + shown = line := by omega
  have hall : ((earlier.drop (earlier.length - shown)) ++ [whole]).zipIdx (line - shown)
      = numbered n earlier line ++ [(whole, line)] := by
    rw [List.zipIdx_append, hlength, hlast, List.zipIdx_singleton, numbered, hshown]
  rw [hlength, hall, shownRows, List.forall₂_map_right_iff, List.forall₂_same]
  intro numbered hmem
  -- No number is greater than that of the line in question.
  have hle : numbered.2 ≤ line := by
    rw [← hall] at hmem
    have hlt := List.snd_lt_add_of_mem_zipIdx hmem
    rw [List.length_append, hlength, List.length_singleton] at hlt
    omega
  exact isRow_shownLine (length_toString_mono hle) numbered.1

/-! ## The layout -/

/-- **An excerpt shows the line of the place and points at it.** For every offset there is a
last boundary up to it in the text, the place; it lies in one line of the text, behind the
earlier ones. Of these the last are shown, two at most and no more than there are numbers from
one on, and then the line itself, each with the number that leads up to that of the line. All
numbers end at the same column. In the last row the caret stands behind the gutter and behind
one character for each that is in front of the place in its line. On the way no number falls
below zero, and all that is cut out is there. -/
theorem render_layout (text : List Char) (offset line col : Nat) (message : String) :
    ∃ place earlier head tail context rows,
      IsGreatest { b | IsBoundary text b ∧ b ≤ min offset (byteSize text) } place ∧
      InLine text place earlier head tail ∧
      context <:+ earlier ∧ context.length = min 2 (min earlier.length (line - 1)) ∧
      List.Forall₂ (fun numbered row => IsRow (toString line).length numbered.2 numbered.1 row)
        ((context ++ [head ++ tail]).zipIdx (line - context.length)) rows ∧
      render? text offset line col message = some (render text offset line col message) ∧
      render text offset line col message
        = message ++ " at line " ++ toString line ++ " col " ++ toString col ++ ":\n\n"
          ++ String.ofList (rows.flatten ++ caretRow (toString line).length head) := by
  have hplace := isGreatest_min.2 (isGreatest_cutAtByte offset text)
  have hline := inLine_append (cutAtByte offset text).1 (cutAtByte offset text).2
  rw [cutAtByte_append] at hline
  have hhead : ((lines (cutAtByte offset text).1).getLast?).getD []
      = lastLine (cutAtByte offset text).1 := by
    rw [lines_eq_concat, List.getLast?_concat, Option.getD_some]
  obtain ⟨context, hcontext, hlength, hrows⟩ := shownRows_numbered contextLines
    (lines (cutAtByte offset text).1).dropLast
    (lastLine (cutAtByte offset text).1 ++ (cutAtByte offset text).2.takeWhile (· ≠ '\n')) line
  refine ⟨_, _, _, _, context, _, hplace, hline, hcontext, hlength, hrows,
    render?_eq text offset line col message, ?_⟩
  rw [render_eq, assemble_eq, hhead]

/-- The number of the line is one that the caller has counted, and leaves room for one line
above it. -/
example : render "one\r\ntwo\r\n\tx?".toList 12 2 3 "bad"
    = "bad at line 2 col 3:\n\n  1  two\n  2  \tx?\n     \t ^" := by rfl

end Excerpt

end StatefulLexer
