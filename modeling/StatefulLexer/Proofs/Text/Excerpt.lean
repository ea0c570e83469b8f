/-
Excerpts, cut out of the buffer.

The excerpt of a message is made of the lines of the text. A program that has the text in
bytes looks for the newlines around the place instead, walks back from one to the one
before it, and cuts out what lies between. Each of these cuts could fall outside the text
or inside a character. None does: the place is moved back to where its character begins,
and a newline is a character of one byte, so the bytes on both sides of it are boundaries.
What is cut out are the lines.

Main statement: `Excerpt.cutOut_eq`.
-/
import StatefulLexer.Proofs.Text.Position
import StatefulLexer.Proofs.Text.Slice
import StatefulLexer.Text.Excerpt

set_option autoImplicit false

namespace StatefulLexer

/-! ## The last line -/

/-- What stands in front of the last line of a text: all up to its last newline. -/
def beforeLastLine (text : List Char) : List Char := (text.reverse.dropWhile (· ≠ '\n')).reverse

/-- The byte where the last line begins: the one behind the last newline, or the first. -/
def lastLineStart (text : List Char) : Nat := byteSize (beforeLastLine text)

theorem beforeLastLine_append (text : List Char) : beforeLastLine text ++ lastLine text = text := by
  rw [beforeLastLine, lastLine, ← List.reverse_append, List.takeWhile_append_dropWhile,
    List.reverse_reverse]

/-- What stands in front of the last line ends in a newline, if it is anything. -/
theorem beforeLastLine_cases (text : List Char) :
    beforeLastLine text = [] ∨ ∃ before, beforeLastLine text = before ++ ['\n'] := by
  cases hdrop : text.reverse.dropWhile (· ≠ '\n') with
  | nil =>
    left
    rw [beforeLastLine, hdrop]
    rfl
  | cons c rest =>
    right
    have hhead : decide (c ≠ '\n') = false := by
      have hnot := List.head_dropWhile_not (fun c : Char => decide (c ≠ '\n')) (l := text.reverse)
        (by rw [hdrop]; exact List.cons_ne_nil c rest)
      simp only [hdrop, List.head_cons] at hnot
      exact hnot
    have hc : c = '\n' := by simpa using hhead
    refine ⟨rest.reverse, ?_⟩
    rw [beforeLastLine, hdrop, List.reverse_cons, hc]

theorem newline_notMem_lastLine (text : List Char) : '\n' ∉ lastLine text := by
  intro hmem
  have hall := List.all_eq_true.1 List.all_takeWhile '\n' (List.mem_reverse.1 hmem)
  simp at hall

/-- The buffer has a slice at the last line of a beginning of it. -/
theorem slice?_lastLine (text rest : List Char) :
    Span.slice? (text ++ rest) ⟨lastLineStart text, byteSize text⟩ = some (lastLine text) := by
  have hsize : byteSize text = lastLineStart text + byteSize (lastLine text) := by
    rw [lastLineStart, ← byteSize_append, beforeLastLine_append]
  have htext : text ++ rest = beforeLastLine text ++ (lastLine text ++ rest) := by
    rw [← List.append_assoc, beforeLastLine_append]
  rw [hsize, htext, lastLineStart, Span.slice?_append]

namespace Excerpt

/-! ## Lines -/

theorem lines_ne_nil (text : List Char) : lines text ≠ [] := by
  cases text with
  | nil => exact List.cons_ne_nil _ _
  | cons c text =>
    rw [lines]
    split
    · exact List.cons_ne_nil _ _
    · split <;> exact List.cons_ne_nil _ _

/-- A newline ends one line, and another one begins. -/
theorem lines_append_newline (a b : List Char) :
    lines (a ++ '\n' :: b) = lines a ++ lines b := by
  induction a with
  | nil => rfl
  | cons c a ih =>
    rw [List.cons_append, lines, lines, ih]
    by_cases hc : c = '\n'
    · rw [if_pos hc, if_pos hc]
      rfl
    · rw [if_neg hc, if_neg hc]
      cases hlines : lines a with
      | nil => exact absurd hlines (lines_ne_nil a)
      | cons line rest => rfl

/-- Without newlines there is one line. -/
theorem lines_of_notMem {text : List Char} (h : '\n' ∉ text) : lines text = [text] := by
  induction text with
  | nil => rfl
  | cons c text ih =>
    have hc : c ≠ '\n' := by
      intro hc
      apply h
      rw [hc]
      exact List.mem_cons_self
    rw [lines, if_neg hc, ih fun hmem => h (List.mem_cons_of_mem c hmem)]

/-- **The lines of a text** are those of what stands in front of the last line, less the
newline, and the last line. -/
theorem lines_cases (text : List Char) :
    (lastLineStart text = 0 ∧ lines text = [lastLine text]) ∨
      ∃ before, text = before ++ '\n' :: lastLine text ∧
        lastLineStart text = byteSize before + 1 ∧ lines text = lines before ++ [lastLine text] := by
  have htext := beforeLastLine_append text
  have hlast := lines_of_notMem (newline_notMem_lastLine text)
  rcases beforeLastLine_cases text with hnil | ⟨before, hbefore⟩
  · left
    rw [hnil, List.nil_append] at htext
    refine ⟨by rw [lastLineStart, hnil]; rfl, ?_⟩
    conv => lhs; rw [← htext]
    exact hlast
  · right
    rw [hbefore, List.append_assoc] at htext
    refine ⟨before, htext.symm, ?_, ?_⟩
    · rw [lastLineStart, hbefore, byteSize_append]
      rfl
    · conv => lhs; rw [← htext]
      exact (lines_append_newline before (lastLine text)).trans (by rw [hlast])

/-- The last one of the lines is the last line. -/
theorem lines_eq_concat (text : List Char) :
    lines text = (lines text).dropLast ++ [lastLine text] := by
  rcases lines_cases text with ⟨_, hlines⟩ | ⟨before, _, _, hlines⟩
  · rw [hlines]
    rfl
  · rw [hlines, List.dropLast_concat]

/-! ## Cutting -/

/-- The last lines of those in front, each with its number. At most `n` are shown, and none
that would be numbered below one. -/
def numbered (n : Nat) (earlier : List (List Char)) (line : Nat) : List (List Char × Nat) :=
  let shown := min n (min earlier.length (line - 1))
  (earlier.drop (earlier.length - shown)).zipIdx (line - shown)

/-- The excerpt of the numbered lines and the line in question, of which `head` stands in
front of the place. -/
def assemble (earlier : List (List Char × Nat)) (whole head : List Char) (line col : Nat)
    (message : String) : String :=
  let width := (toString line).length
  let body := earlier.flatMap (fun (text, number) => shownLine width number text)
    ++ shownLine width line whole
  let caret := "  ".toList ++ padLeft width [] ++ "  ".toList ++ underline head ++ ['^']
  message ++ " at line " ++ toString line ++ " col " ++ toString col ++ ":\n\n"
    ++ String.ofList (body ++ caret)

theorem render_eq (text : List Char) (offset line col : Nat) (message : String) :
    render text offset line col message
      = assemble
          (numbered contextLines (lines (cutAtByte offset text).1).dropLast line)
          (((lines (cutAtByte offset text).1).getLast?).getD []
            ++ (cutAtByte offset text).2.takeWhile (· ≠ '\n'))
          (((lines (cutAtByte offset text).1).getLast?).getD []) line col message := rfl

/-- The lines in front of the one that begins at byte `start`, cut out of the text one after
the other, the nearest one first. There is nothing if a cut is not possible. -/
def cutEarlier (text : List Char) : Nat → Nat → Nat → Option (List (List Char × Nat))
  | 0, _, _ => some []
  | n + 1, start, line =>
    if 0 < start ∧ 1 < line then do
      let before ← Span.slice? text ⟨0, start - 1⟩
      let whole ← Span.slice? text ⟨lastLineStart before, start - 1⟩
      let earlier ← cutEarlier text n (lastLineStart before) (line - 1)
      return earlier ++ [(whole, line - 1)]
    else some []

/-- **An excerpt, cut out of the text.** There is none if a cut is not possible. -/
def cutOut (text : List Char) (offset line col : Nat) (message : String) : Option String := do
  -- A byte behind the text or inside a character is moved back first.
  let place := byteSize (cutAtByte offset text).1
  let front ← Span.slice? text ⟨0, place⟩
  let rest ← Span.slice? text ⟨place, byteSize text⟩
  let start := lastLineStart front
  let whole ← Span.slice? text ⟨start, place + byteSize (rest.takeWhile (· ≠ '\n'))⟩
  let earlier ← cutEarlier text contextLines start line
  let head ← Span.slice? text ⟨start, place⟩
  return assemble earlier whole head line col message

/-- One line more is shown if it may be. -/
theorem numbered_concat (n : Nat) (earlier : List (List Char)) (whole : List Char) {line : Nat}
    (hline : 1 < line) :
    numbered (n + 1) (earlier ++ [whole]) line
      = numbered n earlier (line - 1) ++ [(whole, line - 1)] := by
  unfold numbered
  dsimp only
  generalize hshown : min n (min earlier.length (line - 1 - 1)) = shown
  have hmore : min (n + 1) (min (earlier ++ [whole]).length (line - 1)) = shown + 1 := by
    rw [List.length_append, List.length_singleton, ← hshown]
    omega
  have hle : shown ≤ earlier.length := by omega
  have hdrop : (earlier ++ [whole]).drop ((earlier ++ [whole]).length - (shown + 1))
      = earlier.drop (earlier.length - shown) ++ [whole] := by
    rw [List.length_append, List.length_singleton, Nat.add_sub_add_right,
      List.drop_append_of_le_length (Nat.sub_le _ _)]
  have hfirst : line - (shown + 1) = line - 1 - shown := by omega
  have hlast : line - 1 - shown + (earlier.drop (earlier.length - shown)).length = line - 1 := by
    rw [List.length_drop]
    omega
  rw [hmore, hdrop, hfirst, List.zipIdx_append, hlast, List.zipIdx_singleton]

/-- **The earlier lines are cut out,** from the start of the last line of a beginning of the
text. -/
theorem cutEarlier_eq (n : Nat) (front rest : List Char) (line : Nat) :
    cutEarlier (front ++ rest) n (lastLineStart front) line
      = some (numbered n (lines front).dropLast line) := by
  induction n generalizing front rest line with
  | zero =>
    rw [cutEarlier, numbered, Nat.zero_min, Nat.sub_zero, List.drop_length]
    rfl
  | succ n ih =>
    rw [cutEarlier]
    rcases lines_cases front with ⟨hstart, hlines⟩ | ⟨before, hfront, hstart, hlines⟩
    · rw [if_neg (by rw [hstart]; exact fun h => Nat.lt_irrefl 0 h.1), hlines]
      rfl
    · rw [hlines, List.dropLast_concat]
      by_cases hline : 1 < line
      · -- The text is what is in front of the newline, the newline, and what follows.
        have htext : front ++ rest = before ++ ('\n' :: lastLine front ++ rest) := by
          conv => lhs; rw [hfront]
          rw [List.append_assoc]
        have hcut : Span.slice? (front ++ rest) ⟨0, byteSize before⟩ = some before := by
          have := Span.slice?_append [] before ('\n' :: lastLine front ++ rest)
          rw [List.nil_append, byteSize_nil, Nat.zero_add] at this
          rw [htext, this]
        have hwhole : Span.slice? (front ++ rest) ⟨lastLineStart before, byteSize before⟩
            = some (lastLine before) := by
          rw [htext]
          exact slice?_lastLine before _
        have hearlier : cutEarlier (front ++ rest) n (lastLineStart before) (line - 1)
            = some (numbered n (lines before).dropLast (line - 1)) := by
          rw [htext]
          exact ih before _ (line - 1)
        have hpos : 0 < lastLineStart front ∧ 1 < line := ⟨by omega, hline⟩
        have hback : lastLineStart front - 1 = byteSize before := by omega
        rw [if_pos hpos, hback, hcut, Option.bind_eq_bind, Option.bind_some, hwhole,
          Option.bind_eq_bind, Option.bind_some, hearlier, lines_eq_concat before,
          numbered_concat n _ _ hline, List.dropLast_concat]
        rfl
      · -- The line would have a number below one.
        have hshown : min (n + 1) (min (lines before).length (line - 1)) = 0 := by omega
        rw [if_neg (fun h => hline h.2), numbered, hshown, Nat.sub_zero, List.drop_length]
        rfl

/-- **Every cut is possible,** and the excerpt is that of the lines. -/
theorem cutOut_eq (text : List Char) (offset line col : Nat) (message : String) :
    cutOut text offset line col message = some (render text offset line col message) := by
  have htext := cutAtByte_append offset text
  rw [render_eq]
  unfold cutOut
  generalize (cutAtByte offset text).1 = front at htext ⊢
  generalize (cutAtByte offset text).2 = rest at htext ⊢
  subst htext
  have hfront : Span.slice? (front ++ rest) ⟨0, byteSize front⟩ = some front := by
    have := Span.slice?_append [] front rest
    rwa [List.nil_append, byteSize_nil, Nat.zero_add] at this
  have hrest : Span.slice? (front ++ rest) ⟨byteSize front, byteSize (front ++ rest)⟩ = some rest := by
    have := Span.slice?_append front rest []
    rwa [List.append_nil, ← byteSize_append] at this
  have hhead : ((lines front).getLast?).getD [] = lastLine front := by
    rw [lines_eq_concat, List.getLast?_concat, Option.getD_some]
  have hwhole : Span.slice? (front ++ rest)
      ⟨lastLineStart front, byteSize front + byteSize (rest.takeWhile (· ≠ '\n'))⟩
        = some (lastLine front ++ rest.takeWhile (· ≠ '\n')) := by
    have hsize : byteSize front + byteSize (rest.takeWhile (· ≠ '\n'))
        = byteSize (beforeLastLine front)
          + byteSize (lastLine front ++ rest.takeWhile (· ≠ '\n')) := by
      have hfront : byteSize front = byteSize (beforeLastLine front) + byteSize (lastLine front) := by
        rw [← byteSize_append, beforeLastLine_append]
      rw [byteSize_append, hfront, Nat.add_assoc]
    have hsplit : front ++ rest = beforeLastLine front
        ++ ((lastLine front ++ rest.takeWhile (· ≠ '\n')) ++ rest.dropWhile (· ≠ '\n')) := by
      rw [List.append_assoc, List.takeWhile_append_dropWhile, ← List.append_assoc,
        beforeLastLine_append]
    rw [lastLineStart, hsize, hsplit, Span.slice?_append]
  rw [hhead]
  simp only [hfront, hrest, hwhole, cutEarlier_eq, slice?_lastLine front rest,
    Option.bind_eq_bind, Option.bind_some]
  rfl

end Excerpt

end StatefulLexer
