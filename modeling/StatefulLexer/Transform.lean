/-
Common ways to make the value of a token from its text.
-/
import StatefulLexer.Text.Span

set_option autoImplicit false

namespace StatefulLexer.Transform

/-- Small ASCII letters become capitals. -/
def upper (text : String) : String := String.ofList (text.toList.map Char.toUpper)

/-- The characters from the last to the first. -/
def reversed (text : String) : String := String.ofList text.toList.reverse

/-- The text two times. -/
def twice (text : String) : String := text ++ text

/-- The text without its first and its last character. -/
def inner (text : String) : String := String.ofList text.toList.tail.dropLast

/-- The number of bytes of the text. -/
def bytes (text : String) : String := toString (byteSize text.toList)

/-- Nothing. -/
def cleared (_ : String) : String := ""

end StatefulLexer.Transform
