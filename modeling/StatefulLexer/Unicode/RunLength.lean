/-
Tables of character properties, written as run lengths.

The code space is cut into runs of equal property. A table names the lengths of
the runs in order: plain numbers for a property that a character has or has not,
starting with a run of characters that have it not; numbers behind a label for a
property with many values.
-/
import StatefulLexer.Unicode.CharSet

set_option autoImplicit false

namespace StatefulLexer.RunLength

/-- A run of a labelled table. -/
structure Run where
  label : String
  length : Nat
deriving DecidableEq, Repr

/-- The words of a table. -/
def words (table : String) : List (List Char) :=
  ((table.toList.splitBy fun a b => a.isWhitespace == b.isWhitespace).filter
    fun w => w.any fun c => !c.isWhitespace)

/-- A number in decimal. -/
def number (digits : List Char) : Nat :=
  digits.foldl (fun n d => 10 * n + (d.toNat - '0'.toNat)) 0

/-- The runs of a labelled table. -/
def runs (table : String) : List Run :=
  (words table).map fun w =>
    { label := String.ofList (w.takeWhile fun c => !c.isDigit)
      length := number (w.dropWhile fun c => !c.isDigit) }

/-- The ranges of the runs whose label is accepted, the first run starting at
`code`. -/
def rangesOf (accept : String → Bool) (code : Nat) : List Run → List CodeRange
  | [] => []
  | run :: rest =>
    let behind := rangesOf accept (code + run.length) rest
    if accept run.label && run.length != 0 then ⟨code, code + run.length - 1⟩ :: behind
    else behind

/-- The characters whose label is accepted. -/
def labelled (table : List Run) (accept : String → Bool) : CharSet :=
  CharSet.ofRanges (rangesOf accept 0 table)

/-- Every second range, the first starting at `code`. -/
def everySecond (code : Nat) : List Nat → List CodeRange
  | outside :: inside :: rest =>
    let first := code + outside
    ⟨first, first + inside - 1⟩ :: everySecond (first + inside) rest
  | _ => []

/-- The characters that have the property of a plain table. -/
def having (table : String) : CharSet :=
  CharSet.ofRanges (everySecond 0 ((words table).map number))

end StatefulLexer.RunLength
