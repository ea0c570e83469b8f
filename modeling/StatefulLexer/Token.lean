/-
Tokens, and tests on them.
-/
import StatefulLexer.Category
import StatefulLexer.Text.Position
import StatefulLexer.Text.Span

set_option autoImplicit false

namespace StatefulLexer

/-- A token: its type, its value and the text it was made from, where it was
found, and the categories it belongs to. -/
structure Token where
  tokenType : String
  value : String
  text : String
  offset : Nat
  lineBreaks : Nat
  line : Nat
  col : Nat
  categories : List String
deriving DecidableEq, Repr

namespace Token

/-- The number of bytes of the text. -/
def length (t : Token) : Nat := byteSize t.text.toList

/-- The text is empty. -/
def isEmpty (t : Token) : Bool := t.text.toList.isEmpty

/-- The bytes of the buffer that the token was made from. -/
def span (t : Token) : Span := ⟨t.offset, t.offset + t.length⟩

/-- The place of the first character. -/
def position (t : Token) : Position := ⟨t.line, t.col⟩

/-- The token belongs to the category of that name. -/
def hasCategory (t : Token) (name : String) : Bool := t.categories.contains name

/-- A token is written as its value. -/
def render (t : Token) : String := t.value

end Token

/-- A coarse test on a token. -/
inductive TokenMatcher where
  /-- The token has this type. -/
  | type (tokenType : String)
  /-- The token belongs to this category or to one under it. -/
  | category (c : Category)
deriving DecidableEq, Repr

namespace TokenMatcher

/-- The token passes the test. -/
def accepts (m : TokenMatcher) (t : Token) : Bool :=
  match m with
  | type tokenType => t.tokenType == tokenType
  | category c => t.hasCategory c.name

/-- There is a token, and it passes the test. -/
def acceptsSome (m : TokenMatcher) (t : Option Token) : Bool := t.any m.accepts

/-- The tokens pass the tests one by one, and there are as many of both. -/
def acceptAll : List TokenMatcher → List Token → Bool
  | [], [] => true
  | m :: ms, t :: ts => m.accepts t && acceptAll ms ts
  | _, _ => false

end TokenMatcher

end StatefulLexer
