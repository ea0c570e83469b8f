/-
Reading along a pattern.

A reader is what is still to be read, with the few things that reading depends
on: whether blanks and comments are skipped, how many groups were opened, and
which names were given. Every move gives a new reader, so going back is keeping
the old one.
-/
import StatefulLexer.Regex.Fault
import StatefulLexer.Unicode.Classes

set_option autoImplicit false

namespace StatefulLexer.Regex

/-- A reader in a pattern. -/
structure Reader where
  /-- The characters to be read, with their places. -/
  rest : List (Char × Place)
  /-- The place behind the pattern. -/
  finish : Place
  /-- Blanks and comments are skipped. -/
  verbose : Bool := false
  /-- The number of capture groups opened so far. -/
  groups : Nat := 0
  /-- The group names given so far, and where. -/
  names : List (List Char × Region) := []

namespace Reader

/-- A reader at the start of a pattern. -/
def ofText (text : List Char) : Reader :=
  { rest := placed {} text, finish := Place.afterAll {} text }

/-! ## Looking -/

/-- The place of the reader. -/
def place (r : Reader) : Place :=
  match r.rest with
  | [] => r.finish
  | (_, p) :: _ => p

/-- The next character. -/
def peek? (r : Reader) : Option Char := r.rest.head?.map Prod.fst

/-- The character behind the next one. -/
def peekSecond? (r : Reader) : Option Char := r.rest.tail.head?.map Prod.fst

/-- The empty stretch at the reader. -/
def point (r : Reader) : Region := .point r.place

/-! ## Moving -/

/-- The reader behind the next character. -/
def advance (r : Reader) : Reader := { r with rest := r.rest.tail }

/-- The stretch of the next character. -/
def charRegion (r : Reader) : Region := ⟨r.place, r.advance.place⟩

/-- What is left behind blanks and comments. A comment goes from a number sign
to the end of its line; `inComment` tells that one has begun. -/
def dropBlanks (inComment : Bool) : List (Char × Place) → List (Char × Place)
  | [] => []
  | (c, p) :: rest =>
    if inComment then dropBlanks (c != '\n') rest
    else if CharSet.space.contains c then dropBlanks false rest
    else if c = '#' then dropBlanks true rest
    else (c, p) :: rest

/-- The reader behind blanks and comments, if they are to be skipped. -/
def skip (r : Reader) : Reader :=
  if r.verbose then { r with rest := dropBlanks false r.rest } else r

/-- The reader behind the next character and what is skipped behind it. -/
def advanceSkip (r : Reader) : Reader := r.advance.skip

/-- The reader behind the given text, if that comes next. -/
def after? (r : Reader) (text : List Char) : Option Reader :=
  if (r.rest.map Prod.fst).take text.length == text then
    some { r with rest := r.rest.drop text.length }
  else none

/-- What is left behind blanks and at most one number sign: enough to see
whether a hyphen can be the sign of a range. -/
def dropToVisible (inComment : Bool) : List (Char × Place) → List (Char × Place)
  | [] => []
  | (c, p) :: rest =>
    if CharSet.space.contains c then dropToVisible inComment rest
    else if !inComment && c == '#' then dropToVisible true rest
    else (c, p) :: rest

/-- The character that decides whether a hyphen is the sign of a range: the one
behind it, less what is skipped. -/
def peekBehind? (r : Reader) : Option Char :=
  let behind := r.rest.tail
  if r.verbose then
    match dropToVisible false behind with
    | [] => behind.head?.map Prod.fst
    | (c, _) :: _ => some c
  else behind.head?.map Prod.fst

/-! ## Lengths

Every move but `after?` leaves at most what was there, and an advance at a
character leaves less; the parsers end because of that. -/

theorem length_dropBlanks_le (inComment : Bool) (rest : List (Char × Place)) :
    (dropBlanks inComment rest).length ≤ rest.length := by
  induction rest generalizing inComment with
  | nil => simp [dropBlanks]
  | cons x rest ih =>
    simp only [dropBlanks]
    split
    · exact Nat.le_succ_of_le (ih _)
    · split
      · exact Nat.le_succ_of_le (ih _)
      · split
        · exact Nat.le_succ_of_le (ih _)
        · simp

theorem length_skip_le (r : Reader) : r.skip.rest.length ≤ r.rest.length := by
  unfold skip
  split
  · exact length_dropBlanks_le _ _
  · exact Nat.le_refl _

theorem length_advanceSkip_lt (r : Reader) {c : Char} {p : Place} {rest : List (Char × Place)}
    (h : r.rest = (c, p) :: rest) : r.advanceSkip.rest.length < r.rest.length := by
  have := length_skip_le r.advance
  simp [advanceSkip, advance, h] at this ⊢
  omega

/-! ## Words -/

/-- The characters at the reader up to the first that is not `wanted`, put behind those
of `word`, and the reader there. What is skipped between them is no part of the word. -/
def readWhile (wanted : Char → Bool) (r : Reader) (word : List Char) : List Char × Reader :=
  match h : r.rest with
  | [] => (word, r)
  | (c, _) :: _ =>
    have := r.length_advanceSkip_lt h
    if wanted c then readWhile wanted r.advanceSkip (word ++ [c]) else (word, r)
termination_by r.rest.length

end Reader

/-- A fault in the given stretch. -/
def fault {α : Type} (cause : Cause) (region : Region) : Except Fault α :=
  .error { cause, region }

end StatefulLexer.Regex
