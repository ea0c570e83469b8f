/-
Text with its unusual characters spelled out.

There are two spellings. The plain one keeps nothing but visible ASCII. The
readable one keeps every visible character, and spells out what cannot be seen
on its own.
-/
import StatefulLexer.Unicode.GeneralCategory
import StatefulLexer.Unicode.BinaryProperty
import StatefulLexer.Unicode.Recent

set_option autoImplicit false

namespace StatefulLexer.Quoted

/-- A character by its code: `\u`, and the code in braces, in hexadecimal with
lower-case digits. -/
def byCode (c : Char) : List Char :=
  '\\' :: 'u' :: '{' :: (Nat.toDigits 16 c.toNat ++ ['}'])

/-- A character in the plain spelling. -/
def plainChar (c : Char) : List Char :=
  if c = '\t' then ['\\', 't']
  else if c = '\r' then ['\\', 'r']
  else if c = '\n' then ['\\', 'n']
  else if c = '\'' ∨ c = '"' ∨ c = '\\' then ['\\', c]
  else if 0x20 ≤ c.toNat ∧ c.toNat ≤ 0x7E then [c]
  else byCode c

/-- **The plain spelling:** visible ASCII as it is, less quotes and backslashes;
tabs and line ends by a letter; all else by its code. -/
def plain (text : List Char) : List Char := text.flatMap plainChar

/-- A character that extends the one before it and is no letter: the two letters
that extend another are the halfwidth voicing marks, which have a width. -/
def isAttached (c : Char) : Bool :=
  BinaryProperty.graphemeExtend.contains c && !GeneralCategory.letters.contains c

/-- **A character that is visible on its own:** it has a form, is not attached to
another, and is none of those that may be ignored, such as the fillers. -/
def isVisible (c : Char) : Bool :=
  Recent.visible.contains c ||
    !(GeneralCategory.unprintable.contains c || isAttached c ||
      BinaryProperty.defaultIgnorable.contains c)

/-- A character in the readable spelling. -/
def readableChar (c : Char) : List Char :=
  if c = '\x00' then ['\\', '0']
  else if c = '\t' then ['\\', 't']
  else if c = '\r' then ['\\', 'r']
  else if c = '\n' then ['\\', 'n']
  else if c = '"' ∨ c = '\\' then ['\\', c]
  else if isVisible c then [c]
  else byCode c

/-- **The readable spelling,** in double quotes. -/
def readable (text : List Char) : List Char := '"' :: (text.flatMap readableChar ++ ['"'])

end StatefulLexer.Quoted
