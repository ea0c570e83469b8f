/-
Patterns as they are written.

The tree keeps every choice of spelling that a reader of the pattern would
notice: which escape a character was written with, whether a group was named,
how a property was asked for. What it drops are blanks and comments of verbose
mode, and the spelling of counts. Each node knows its stretch of the text.
-/
import StatefulLexer.Regex.Region

set_option autoImplicit false

namespace StatefulLexer.Regex

/-! ## Characters -/

/-- The letter of a hexadecimal escape, which fixes its number of digits when
they stand without braces. -/
inductive HexLetter where
  | x
  | u
  | U
deriving DecidableEq, Repr

namespace HexLetter

/-- The letter as a character. -/
def char : HexLetter → Char
  | x => 'x'
  | u => 'u'
  | U => 'U'

/-- The number of digits without braces. -/
def digits : HexLetter → Nat
  | x => 2
  | u => 4
  | U => 8

end HexLetter

/-- How a character is spelled. -/
inductive Spelling where
  /-- By itself. -/
  | plain
  /-- By itself, behind a backslash. -/
  | escaped
  /-- By its code, with a fixed number of digits. -/
  | hex (letter : HexLetter)
  /-- By its code, in braces. -/
  | hexBraced (letter : HexLetter)
  /-- By a letter of its own, behind a backslash. -/
  | control (letter : Char)
deriving DecidableEq, Repr

/-- A character of a pattern that stands for itself. -/
structure Literal where
  region : Region
  char : Char
  spelling : Spelling
deriving DecidableEq, Repr

/-! ## Assertions and classes -/

/-- An assertion as written. -/
inductive Assertion where
  | lineStart
  | lineEnd
  | textStart
  | textEnd
  | wordBoundary
  | notWordBoundary
  | wordStart
  | wordEnd
  | wordStartAngle
  | wordEndAngle
  | wordStartHalf
  | wordEndHalf
deriving DecidableEq, Repr

/-- The three classes with a letter. -/
inductive ShortClass where
  | digit
  | space
  | word
deriving DecidableEq, Repr

/-- The classes with a name in colons. -/
inductive NamedClass where
  | alnum
  | alpha
  | ascii
  | blank
  | cntrl
  | digit
  | graph
  | lower
  | print
  | punct
  | space
  | upper
  | word
  | xdigit
deriving DecidableEq, Repr

namespace NamedClass

/-- All named classes. -/
def every : List NamedClass :=
  [alnum, alpha, ascii, blank, cntrl, digit, graph, lower, print, punct, space, upper, word,
    xdigit]

/-- The name of a class. -/
def name : NamedClass → String
  | alnum => "alnum"
  | alpha => "alpha"
  | ascii => "ascii"
  | blank => "blank"
  | cntrl => "cntrl"
  | digit => "digit"
  | graph => "graph"
  | lower => "lower"
  | print => "print"
  | punct => "punct"
  | space => "space"
  | upper => "upper"
  | word => "word"
  | xdigit => "xdigit"

/-- The class of a name. -/
def ofName? (name : List Char) : Option NamedClass :=
  every.find? fun k => k.name.toList == name

end NamedClass

/-- The sign between the name of a property and its value. -/
inductive ValueSign where
  | equal
  | colon
  | notEqual
deriving DecidableEq, Repr

/-- How a property is asked for. -/
inductive PropertyQuery where
  | letter (c : Char)
  | named (name : List Char)
  | valued (sign : ValueSign) (property value : List Char)
deriving DecidableEq, Repr

/-- The operators between the sets of a class. -/
inductive ClassOp where
  | inter
  | diff
  | symmDiff
deriving DecidableEq, Repr

/-- What stands between the brackets of a class. -/
inductive ClassSet where
  | empty (region : Region)
  | literal (l : Literal)
  | range (region : Region) (first last : Literal)
  | named (region : Region) (negated : Bool) (kind : NamedClass)
  | property (region : Region) (negated : Bool) (query : PropertyQuery)
  | short (region : Region) (negated : Bool) (kind : ShortClass)
  | bracketed (region : Region) (negated : Bool) (set : ClassSet)
  | union (region : Region) (sets : List ClassSet)
  | combine (region : Region) (op : ClassOp) (left right : ClassSet)
deriving Repr

/-- The stretch of a class set. -/
def ClassSet.region : ClassSet → Region
  | .empty r => r
  | .literal l => l.region
  | .range r _ _ => r
  | .named r _ _ => r
  | .property r _ _ => r
  | .short r _ _ => r
  | .bracketed r _ _ => r
  | .union r _ => r
  | .combine r _ _ _ => r

/-! ## Groups, repetitions, patterns -/

/-- The flags that change how a pattern is read or matched. -/
inductive Flag where
  | caseInsensitive
  | multiLine
  | dotMatchesNewline
  | swapGreed
  | unicode
  | carriageReturn
  | verbose
deriving DecidableEq, Repr

namespace Flag

/-- All flags. -/
def every : List Flag :=
  [caseInsensitive, multiLine, dotMatchesNewline, swapGreed, unicode, carriageReturn, verbose]

/-- The letter of a flag. -/
def letter : Flag → Char
  | caseInsensitive => 'i'
  | multiLine => 'm'
  | dotMatchesNewline => 's'
  | swapGreed => 'U'
  | unicode => 'u'
  | carriageReturn => 'R'
  | verbose => 'x'

/-- The flag of a letter. -/
def ofLetter? (c : Char) : Option Flag := every.find? fun f => f.letter == c

end Flag

/-- A list of flags: those to set, and those to clear. The list cannot be
written with a hyphen and nothing behind it. -/
structure FlagList where
  set : List Flag
  cleared : List Flag
deriving DecidableEq, Repr

/-- Whether the list sets or clears a flag, if it names it. -/
def FlagList.state? (l : FlagList) (f : Flag) : Option Bool :=
  if l.set.contains f then some true
  else if l.cleared.contains f then some false
  else none

/-- What a group does beside grouping. -/
inductive GroupKind where
  /-- It captures, under its number alone. -/
  | capture (index : Nat)
  /-- It captures, under a name too; `letterP` tells which of the two spellings
  of a name was used. -/
  | named (index : Nat) (letterP : Bool) (name : List Char)
  /-- It sets flags for what it encloses. -/
  | flags (flags : FlagList)
deriving DecidableEq, Repr

/-- A repetition operator. -/
inductive RepeatOp where
  | optional
  | star
  | plus
  | exactly (count : Nat)
  | atLeast (least : Nat)
  | between (least most : Nat)
deriving DecidableEq, Repr

/-- The least and the greatest number of repetitions. -/
def RepeatOp.bounds : RepeatOp → Nat × Option Nat
  | .optional => (0, some 1)
  | .star => (0, none)
  | .plus => (1, none)
  | .exactly n => (n, some n)
  | .atLeast n => (n, none)
  | .between m n => (m, some n)

/-- **A pattern as written.** -/
inductive Pattern where
  | empty (region : Region)
  | setFlags (region : Region) (flags : FlagList)
  | literal (l : Literal)
  | dot (region : Region)
  | assertion (region : Region) (kind : Assertion)
  | property (region : Region) (negated : Bool) (query : PropertyQuery)
  | short (region : Region) (negated : Bool) (kind : ShortClass)
  | bracketed (region : Region) (negated : Bool) (set : ClassSet)
  | repetition (region : Region) (op : RepeatOp) (greedy : Bool) (sub : Pattern)
  | group (region : Region) (kind : GroupKind) (sub : Pattern)
  | alternation (region : Region) (branches : List Pattern)
  | concat (region : Region) (items : List Pattern)
deriving Repr

/-- The stretch of a pattern. -/
def Pattern.region : Pattern → Region
  | .empty r => r
  | .setFlags r _ => r
  | .literal l => l.region
  | .dot r => r
  | .assertion r _ => r
  | .property r _ _ => r
  | .short r _ _ => r
  | .bracketed r _ _ => r
  | .repetition r _ _ _ => r
  | .group r _ _ => r
  | .alternation r _ => r
  | .concat r _ => r

end StatefulLexer.Regex
