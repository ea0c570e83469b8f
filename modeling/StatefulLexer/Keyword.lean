/-
Keywords.

A rule that matches words in general may give some of them a type of their own.
The words of a rule are looked up in one table, however many types there are;
a word that was declared twice has the type it was declared with first. Words are
told apart by their length first, so that most texts are refused by a number.
-/
import StatefulLexer.Category
import Std.Data.HashMap

set_option autoImplicit false

namespace StatefulLexer

/-- A declaration of keywords: their type, the words, and the categories they
have beside those of their rule. -/
structure KeywordSpec where
  tokenType : String
  values : List String
  categories : List Category := []
deriving DecidableEq, Repr

/-- What a token gets instead of the type and the categories of its rule. -/
structure KeywordOverride where
  tokenType : String
  categories : List String
deriving DecidableEq, Repr

/-- What the keywords of a declaration get. Their own categories come first. -/
def KeywordSpec.override (spec : KeywordSpec) (ruleCategories : List Category) :
    KeywordOverride :=
  { tokenType := spec.tokenType
    categories := Category.flatten (spec.categories ++ ruleCategories) }

/-- The keywords of a rule. -/
structure KeywordTable where
  /-- What each declaration gives, in the order of declaration. -/
  overrides : List KeywordOverride := []
  /-- The words of each length in bytes, each with the number of its declaration. -/
  words : Std.HashMap Nat (Std.HashMap String Nat) := ∅
deriving Inhabited

namespace KeywordTable

/-- One more word, with the number of its declaration. A word that is there is kept. -/
def insertWord (number : Nat) (words : Std.HashMap Nat (Std.HashMap String Nat))
    (value : String) : Std.HashMap Nat (Std.HashMap String Nat) :=
  words.alter value.utf8ByteSize fun bucket => some ((bucket.getD ∅).insertIfNew value number)

/-- The table with the words of one more declaration. One without words has a number
as well. -/
def insert (table : KeywordTable) (values : List String) (o : KeywordOverride) : KeywordTable :=
  { overrides := table.overrides ++ [o]
    words := values.foldl (insertWord table.overrides.length) table.words }

/-- **The table of declarations.** -/
def ofSpecs (specs : List KeywordSpec) (ruleCategories : List Category) : KeywordTable :=
  specs.foldl (fun table spec => table.insert spec.values (spec.override ruleCategories)) {}

/-- The number of the declaration that a text is a word of. -/
def number? (table : KeywordTable) (text : String) : Option Nat :=
  table.words[text.utf8ByteSize]?.bind fun bucket => bucket[text]?

/-- What a text gets, if it is a keyword. -/
def lookup (table : KeywordTable) (text : String) : Option KeywordOverride :=
  (table.number? text).bind fun number => table.overrides[number]?

end KeywordTable

end StatefulLexer
