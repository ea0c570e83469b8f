/-
Characters newer than the tables of properties.

The tables stay with the version of the character standard that patterns speak
of. Names and readable text go with the version behind it, so they know these
characters as well.
-/
import StatefulLexer.Unicode.RunLength

set_option autoImplicit false

namespace StatefulLexer.Recent

/-- The new letters and signs that are used like letters. -/
def alphabetic : CharSet := RunLength.having
  "2191 1 972 1 127 1 39665 2 2 1 1 1 28 1 24910 26 1387 3 50 2 3172 8 584 44 20676 25 2 25
    286 5 6145 8 1289 22 97 115 22733 31 1 22 8 2 53306 6 5986 12 21762 4298"

/-- The new numbers. -/
def numbers : CharSet := RunLength.having
  "73184 10 21002 3"

/-- The new characters that are visible on their own: all but the marks that sit
on another character. -/
def visible : CharSet := RunLength.having
  "2191 1 972 1 127 1 5092 1 2772 1 31799 2 2 1 1 1 28 1 21457 16 445 2 54 7 2929 26 1387 3
    8 9 3208 1 3 1 1 1 584 44 4 10 20662 25 2 25 286 5 6145 8 1289 22 97 115 16135 3 445 23
    15 17 6095 31 1 3 1 2 1 7 2 5 9 2 4056 1 158 4 341 9 379 4 50 1 3 1 57 1 4 1 28 1 4 1
    266 1 47935 6 5986 12 21762 4298"

end StatefulLexer.Recent
