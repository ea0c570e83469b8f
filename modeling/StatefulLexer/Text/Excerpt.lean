/-
Messages that point into a buffer.

A message is followed by the line it speaks of, by up to two lines in front of
it, each with its number, and by a caret under the place. Line and column come
from the caller: a buffer may be the continuation of an earlier one, so its
first line need not have the number one.
-/
import StatefulLexer.Text.Span

set_option autoImplicit false

namespace StatefulLexer.Excerpt

/-! ## Lines of a text -/

/-- The lines of a text. A newline ends a line and belongs to none, so there is
always one line more than there are newlines. -/
def lines : List Char → List (List Char)
  | [] => [[]]
  | c :: text =>
    if c = '\n' then [] :: lines text
    else
      match lines text with
      | [] => [[c]]
      | line :: rest => (c :: line) :: rest

/-- The number of lines shown in front of the line in question. -/
def contextLines : Nat := 2

/-! ## Writing an excerpt -/

/-- `text` moved to the right edge of a field of `width` characters. -/
def padLeft (width : Nat) (text : List Char) : List Char :=
  List.replicate (width - text.length) ' ' ++ text

/-- The carriage returns at the end of a line are not shown. -/
def dropReturns (line : List Char) : List Char :=
  (line.reverse.dropWhile (· == '\r')).reverse

/-- A shown line: two blanks, its number at the right edge of the field, two
blanks, its text. -/
def shownLine (width number : Nat) (line : List Char) : List Char :=
  "  ".toList ++ padLeft width (toString number).toList ++ "  ".toList ++ dropReturns line ++ ['\n']

/-- What stands before the caret: a tab for each tab and a blank for every other
character, so that the caret lines up under the text above it. -/
def underline (line : List Char) : List Char :=
  line.map fun c => if c = '\t' then '\t' else ' '

/-- **An excerpt.** `offset` is in bytes; one behind the buffer means its end,
and one inside a character means the start of that character. `line` is the
number of the line in question; lines that would be numbered below one are left
out. -/
def render (text : List Char) (offset line col : Nat) (message : String) : String :=
  let (front, rest) := cutAtByte offset text
  -- The line in question is cut in two by the place: `head` and `tail`.
  let earlier := (lines front).dropLast
  let head := ((lines front).getLast?).getD []
  let tail := rest.takeWhile (· ≠ '\n')
  -- The first line shown must not have a number below one.
  let shown := min contextLines (min earlier.length (line - 1))
  let numbered := (earlier.drop (earlier.length - shown)).zipIdx (line - shown)
  let width := (toString line).length
  let body := numbered.flatMap (fun (text, number) => shownLine width number text)
    ++ shownLine width line (head ++ tail)
  let caret := "  ".toList ++ padLeft width [] ++ "  ".toList ++ underline head ++ ['^']
  message ++ " at line " ++ toString line ++ " col " ++ toString col ++ ":\n\n"
    ++ String.ofList (body ++ caret)

end StatefulLexer.Excerpt
