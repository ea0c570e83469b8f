/-
Positions as counts.

A scanner never looks back: it moves its position on, character by character.
What a reader means by line and column is a count over the text in front of the
place, and what counts for the column begins behind the last newline. The two
agree, also for a text that goes on from an earlier one, where the first line
has a part that is out of sight.

Main statement: `Position.after_eq_counted`.
-/
import StatefulLexer.Text.Position

set_option autoImplicit false

namespace StatefulLexer

/-- What stands behind the last newline of a text; all of it, if it has none. -/
def lastLine (text : List Char) : List Char := (text.reverse.takeWhile (· ≠ '\n')).reverse

/-- The last line grows by a character that is no newline, and begins anew with one
that is. -/
theorem lastLine_concat (text : List Char) (c : Char) :
    lastLine (text ++ [c]) = if c = '\n' then [] else lastLine text ++ [c] := by
  rw [lastLine, List.reverse_append, List.reverse_singleton, List.singleton_append]
  by_cases hc : c = '\n'
  · rw [if_pos hc, List.takeWhile_cons_of_neg (by simp [hc]), List.reverse_nil]
  · rw [if_neg hc, List.takeWhile_cons_of_pos (by simp [hc]), List.reverse_cons, lastLine]

/-- A text without newlines is a single line. -/
theorem lastLine_eq_self {text : List Char} (h : '\n' ∉ text) : lastLine text = text := by
  have hall : ∀ c ∈ text.reverse, decide (c ≠ '\n') = true := by
    intro c hc
    refine decide_eq_true fun hnl => h ?_
    rw [← hnl]
    exact List.mem_reverse.1 hc
  have htake : (text.reverse ++ []).takeWhile (· ≠ '\n') = text.reverse ++ [] :=
    List.takeWhile_append_of_pos hall
  rw [List.append_nil] at htake
  rw [lastLine, htake, List.reverse_reverse]

namespace Position

/-- **The position behind a text, counted.** Each newline is a line. The column
counts the characters of the last line, and goes on from where the text begins
as long as there is no newline. -/
def counted (base : Position) (text : List Char) : Position where
  line := base.line + text.count '\n'
  col := if '\n' ∈ text then 1 + (lastLine text).length else base.col + text.length

/-- From the first line and column on, the column is one behind the last line,
whether or not there is a newline. -/
@[simp] theorem counted_start (text : List Char) :
    counted {} text = ⟨1 + text.count '\n', 1 + (lastLine text).length⟩ := by
  unfold counted
  by_cases h : '\n' ∈ text
  · rw [if_pos h]
  · rw [if_neg h, lastLine_eq_self h]

/-- Counting one character more is one step. -/
theorem counted_concat (base : Position) (text : List Char) (c : Char) :
    base.counted (text ++ [c]) = (base.counted text).step true c := by
  unfold counted
  by_cases hc : c = '\n'
  -- A newline begins a line, and the column begins anew.
  · have hmem : '\n' ∈ text ++ [c] := by rw [hc]; exact List.mem_append_right _ List.mem_cons_self
    have hstep : ∀ p : Position, p.step true c = ⟨p.line + 1, 1⟩ := by
      intro p
      rw [step, hc]
      rfl
    rw [hstep, if_pos hmem, lastLine_concat, if_pos hc, List.count_append, hc,
      List.count_singleton_self, Nat.add_assoc]
    rfl
  -- Any other character is one column on, on the same line.
  · have hmem : '\n' ∈ text ++ [c] ↔ '\n' ∈ text := by
      rw [List.mem_append, List.mem_singleton]
      exact or_iff_left fun h => hc h.symm
    have hstep : ∀ p : Position, p.step true c = ⟨p.line, p.col + 1⟩ := by
      intro p
      rw [step, if_neg (by simp [hc])]
    rw [hstep, lastLine_concat, if_neg hc, List.count_append,
      List.count_eq_zero_of_not_mem (fun h => hc (List.mem_singleton.1 h).symm), Nat.add_zero,
      List.length_append, List.length_append, List.length_singleton]
    by_cases h : '\n' ∈ text
    · rw [if_pos h, if_pos (hmem.2 h), Nat.add_assoc]
    · rw [if_neg h, if_neg (mt hmem.1 h), Nat.add_assoc]

/-- **To walk over a text is to count it.** -/
theorem after_eq_counted (base : Position) (text : List Char) :
    base.after true text = base.counted text := by
  -- A text grows at its end here, so the induction is on the reversed text.
  obtain ⟨back, rfl⟩ : ∃ back, text = back.reverse := ⟨text.reverse, text.reverse_reverse.symm⟩
  induction back with
  | nil => rfl
  | cons c back ih => rw [List.reverse_cons, after_append, ih, counted_concat]; rfl

/-- Counting over two texts in turn is counting over both at once. -/
theorem counted_append (base : Position) (s t : List Char) :
    base.counted (s ++ t) = (base.counted s).counted t := by
  rw [← after_eq_counted, ← after_eq_counted, ← after_eq_counted, after_append]

/-- Where there is no newline to be counted it does not matter whether lines are
counted. -/
theorem after_congr {countLines : Bool} {text : List Char} (base : Position)
    (h : '\n' ∈ text → countLines = true) : base.after countLines text = base.after true text := by
  cases countLines with
  | true => rfl
  | false =>
    have hnl : '\n' ∉ text := fun hmem => Bool.noConfusion (h hmem)
    induction text generalizing base with
    | nil => rfl
    | cons c text ih =>
      have hc : c ≠ '\n' := fun hc => hnl (by rw [hc]; exact List.mem_cons_self)
      have hstep : base.step false c = base.step true c := by
        rw [step, step, if_neg (by simp), if_neg (by simp [hc])]
      rw [after_cons, after_cons, hstep]
      exact ih _ (fun hmem => h (List.mem_cons_of_mem c hmem))
        (fun hmem => hnl (List.mem_cons_of_mem c hmem))

end Position

/-- No more line breaks are counted than there are newlines. -/
theorem lineBreaks_le_count (countLines : Bool) (text : List Char) :
    lineBreaks countLines text ≤ text.count '\n' := by
  cases countLines with
  | true => exact Nat.le_refl _
  | false => exact Nat.zero_le _

/-- **All newlines are counted** if lines are, or if there is no newline to be
counted. -/
theorem lineBreaks_eq_count_iff {countLines : Bool} {text : List Char} :
    lineBreaks countLines text = text.count '\n' ↔ ('\n' ∈ text → countLines = true) := by
  cases countLines with
  | true => exact iff_of_true rfl fun _ => rfl
  | false =>
    constructor
    · intro h hmem
      have hpos := List.count_pos_iff.2 hmem
      have hzero : 0 = text.count '\n' := h
      omega
    · intro h
      have hnl : '\n' ∉ text := fun hmem => Bool.noConfusion (h hmem)
      rw [List.count_eq_zero_of_not_mem hnl]
      rfl

end StatefulLexer
