/-
What can be wrong with a pattern, and how it is reported.

A fault has a cause and the stretch of the pattern that it lies in. Three causes
speak of something that was written twice, and those name the earlier place as
well. The report shows the pattern, marks the stretches and states the cause.
-/
import StatefulLexer.Regex.Region

set_option autoImplicit false

namespace StatefulLexer.Regex

/-! ## Causes -/

/-- What is wrong with a pattern. -/
inductive Cause where
  | groupUnclosed
  | groupUnopened
  | classUnclosed
  | classRangeInvalid
  | classRangeBoundary
  | classEscapeInvalid
  | decimalInvalid
  | countMissing
  | countUnclosed
  | countRangeInvalid
  | repetitionMissing
  | hexEmpty
  | hexNotScalar
  | hexDigitInvalid
  | escapeUnexpectedEnd
  | escapeUnrecognized
  | backreferenceUnsupported
  | flagDanglingNegation
  | flagDuplicate
  | flagRepeatedNegation
  | flagUnexpectedEnd
  | flagUnrecognized
  | groupNameDuplicate
  | groupNameEmpty
  | groupNameInvalid
  | groupNameUnexpectedEnd
  | lookAroundUnsupported
  | nestingTooDeep
  | wordBoundaryUnclosed
  | wordBoundaryUnrecognized
  | wordBoundaryOrCountUnclosed
  | propertyInvalid
  | propertyNotFound
  | propertyValueNotFound
  | unicodeNotAllowed
  | invalidUtf8
deriving DecidableEq, Repr

/-- How deep groups, classes and repetitions may be nested in a pattern. -/
def nestingLimit : Nat := 250

/-- The cause in words. -/
def Cause.text : Cause → String
  | groupUnclosed => "unclosed group"
  | groupUnopened => "unopened group"
  | classUnclosed => "unclosed character class"
  | classRangeInvalid => "invalid character class range, the start must be <= the end"
  | classRangeBoundary => "invalid range boundary, must be a literal"
  | classEscapeInvalid => "invalid escape sequence found in character class"
  | decimalInvalid => "decimal literal invalid"
  | countMissing => "repetition quantifier expects a valid decimal"
  | countUnclosed => "unclosed counted repetition"
  | countRangeInvalid => "invalid repetition count range, the start must be <= the end"
  | repetitionMissing => "repetition operator missing expression"
  | hexEmpty => "hexadecimal literal empty"
  | hexNotScalar => "hexadecimal literal is not a Unicode scalar value"
  | hexDigitInvalid => "invalid hexadecimal digit"
  | escapeUnexpectedEnd => "incomplete escape sequence, reached end of pattern prematurely"
  | escapeUnrecognized => "unrecognized escape sequence"
  | backreferenceUnsupported => "backreferences are not supported"
  | flagDanglingNegation => "dangling flag negation operator"
  | flagDuplicate => "duplicate flag"
  | flagRepeatedNegation => "flag negation operator repeated"
  | flagUnexpectedEnd => "expected flag but got end of regex"
  | flagUnrecognized => "unrecognized flag"
  | groupNameDuplicate => "duplicate capture group name"
  | groupNameEmpty => "empty capture group name"
  | groupNameInvalid => "invalid capture group character"
  | groupNameUnexpectedEnd => "unclosed capture group name"
  | lookAroundUnsupported =>
    "look-around, including look-ahead and look-behind, is not supported"
  | nestingTooDeep =>
    "exceed the maximum number of nested parentheses/brackets (" ++ toString nestingLimit ++ ")"
  | wordBoundaryUnclosed =>
    "special word boundary assertion is either unclosed or contains an invalid character"
  | wordBoundaryUnrecognized =>
    "unrecognized special word boundary assertion, valid choices are: "
      ++ "start, end, start-half or end-half"
  | wordBoundaryOrCountUnclosed =>
    "found either the beginning of a special word boundary or a bounded repetition on a \\b "
      ++ "with an opening brace, but no closing brace"
  | propertyInvalid => "invalid Unicode character class"
  | propertyNotFound => "Unicode property not found"
  | propertyValueNotFound => "Unicode property value not found"
  | unicodeNotAllowed => "Unicode not allowed here"
  | invalidUtf8 => "pattern can match invalid UTF-8"

/-- **A fault of a pattern:** its cause, where it is, and where the thing was
written before, if the fault is to write it again. -/
structure Fault where
  cause : Cause
  region : Region
  earlier : Option Region := none
deriving DecidableEq, Repr

/-! ## Reports -/

namespace Fault

/-- The stretches that a report marks, in ascending order. -/
def marked (f : Fault) : List Region :=
  (f.region :: f.earlier.toList).mergeSort Region.le

/-- The lines of a pattern as a report shows them: a newline at the very end
begins no further line, and a carriage return before a newline is left out. -/
def shownLines (pattern : List Char) : List (List Char) :=
  let dropReturn (line : List Char) : List Char :=
    if line.getLast? = some '\r' then line.dropLast else line
  match pattern.splitBy (fun a _ => a != '\n') with
  | pieces =>
    pieces.map fun piece =>
      if piece.getLast? = some '\n' then dropReturn piece.dropLast else piece

/-- The number of lines that places can lie in: one more than are shown when
the pattern ends with a newline. -/
def lineCount (pattern : List Char) : Nat :=
  (shownLines pattern).length + (if pattern.getLast? = some '\n' then 1 else 0)

/-- The carets under a line, as columns count from one and `column` is the next
one to be filled. A stretch is marked by at least one caret. -/
def carets (column : Nat) : List Region → List Char
  | [] => []
  | r :: rest =>
    let width := max 1 (r.stop.column - r.start.column)
    List.replicate (r.start.column - column) ' ' ++ List.replicate width '^'
      ++ carets (max column r.start.column + width) rest

/-- The pattern with its marks, every line ended by a newline. Lines are
numbered when there are several, and indented by four blanks otherwise. -/
def notated (f : Fault) (pattern : List Char) : List Char :=
  let count := lineCount pattern
  let width := if count ≤ 1 then 0 else (toString count).length
  -- A number is followed by a colon and a blank.
  let indent := if width = 0 then 4 else width + 2
  (shownLines pattern).zipIdx 1 |>.flatMap fun (line, number) =>
    let digits := (toString number).toList
    let head :=
      if width = 0 then List.replicate indent ' '
      else List.replicate (width - digits.length) ' ' ++ digits ++ ": ".toList
    let marks := f.marked.filter fun r => r.inOneLine && r.start.line == number
    head ++ line ++ ['\n'] ++
      (if marks.isEmpty then []
       else List.replicate indent ' ' ++ carets 1 marks ++ ['\n'])

/-- A stretch over several lines is told in words. -/
def told (r : Region) : String :=
  "on line " ++ toString r.start.line ++ " (column " ++ toString r.start.column
    ++ ") through line " ++ toString r.stop.line ++ " (column "
    ++ toString (r.stop.column - 1) ++ ")"

/-- **The report of a fault** of the given pattern. A pattern of several lines
stands between two dividers. -/
def report (f : Fault) (pattern : List Char) : String :=
  let head := "regex parse error:\n"
  let error := "error: " ++ f.cause.text
  if pattern.contains '\n' then
    let divider := String.ofList (List.replicate 79 '~' ++ ['\n'])
    let far := (f.marked.filter fun r => !r.inOneLine).map fun r => told r ++ "\n"
    head ++ divider ++ String.ofList (f.notated pattern) ++ divider ++ String.join far ++ error
  else
    head ++ String.ofList (f.notated pattern) ++ error

end Fault

end StatefulLexer.Regex
