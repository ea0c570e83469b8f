/-
Patterns in their canonical spelling.

The text of a tree: what `Parser` reads back, up to a few spellings that verbose
mode makes possible, such as a blank between an operator and the question mark
behind it.
-/
import StatefulLexer.Regex.Pattern

set_option autoImplicit false

namespace StatefulLexer.Regex

/-! ## Leaves -/

/-- `n` in hexadecimal with upper-case digits, filled up with zeros to `width`
digits. -/
def hexDigits (width n : Nat) : List Char :=
  let digits := (Nat.toDigits 16 n).map Char.toUpper
  List.replicate (width - digits.length) '0' ++ digits

/-- A character in its spelling. -/
def Literal.render (l : Literal) : List Char :=
  match l.spelling with
  | .plain => [l.char]
  | .escaped => ['\\', l.char]
  | .hex letter => '\\' :: letter.char :: hexDigits letter.digits l.char.toNat
  | .hexBraced letter =>
    '\\' :: letter.char :: '{' :: (hexDigits 1 l.char.toNat ++ ['}'])
  | .control letter => ['\\', letter]

/-- An assertion. -/
def Assertion.render : Assertion → String
  | .lineStart => "^"
  | .lineEnd => "$"
  | .textStart => "\\A"
  | .textEnd => "\\z"
  | .wordBoundary => "\\b"
  | .notWordBoundary => "\\B"
  | .wordStart => "\\b\x7bstart\x7d"
  | .wordEnd => "\\b\x7bend\x7d"
  | .wordStartAngle => "\\<"
  | .wordEndAngle => "\\>"
  | .wordStartHalf => "\\b\x7bstart-half\x7d"
  | .wordEndHalf => "\\b\x7bend-half\x7d"

/-- A class with a letter. The letter is upper case for the characters that are
not in the class. -/
def ShortClass.render (negated : Bool) (k : ShortClass) : List Char :=
  let letter :=
    match k with
    | .digit => 'd'
    | .space => 's'
    | .word => 'w'
  ['\\', if negated then letter.toUpper else letter]

/-- A class with a name in colons. -/
def NamedClass.render (negated : Bool) (k : NamedClass) : List Char :=
  "[:".toList ++ (if negated then ['^'] else []) ++ k.name.toList ++ ":]".toList

/-- The sign between a property and its value. -/
def ValueSign.render : ValueSign → String
  | .equal => "="
  | .colon => ":"
  | .notEqual => "!="

/-- A query for a property. -/
def PropertyQuery.render (negated : Bool) (q : PropertyQuery) : List Char :=
  let head := ['\\', if negated then 'P' else 'p']
  match q with
  | .letter c => head ++ [c]
  | .named name => head ++ '{' :: (name ++ ['}'])
  | .valued sign property value =>
    head ++ '{' :: (property ++ sign.render.toList ++ value ++ ['}'])

/-- The operators between class sets. -/
def ClassOp.render : ClassOp → String
  | .inter => "&&"
  | .diff => "--"
  | .symmDiff => "~~"

/-- A list of flags. -/
def FlagList.render (l : FlagList) : List Char :=
  l.set.map Flag.letter ++ (if l.cleared.isEmpty then [] else '-' :: l.cleared.map Flag.letter)

/-- What opens a group. -/
def GroupKind.render : GroupKind → List Char
  | .capture _ => ['(']
  | .named _ letterP name =>
    (if letterP then "(?P<" else "(?<").toList ++ name ++ ['>']
  | .flags l => "(?".toList ++ l.render ++ [':']

/-- A repetition operator, with a question mark behind it if it is lazy. -/
def RepeatOp.render (greedy : Bool) (op : RepeatOp) : List Char :=
  let text :=
    match op with
    | .optional => ['?']
    | .star => ['*']
    | .plus => ['+']
    | .exactly n => '{' :: ((toString n).toList ++ ['}'])
    | .atLeast n => '{' :: ((toString n).toList ++ ",\x7d".toList)
    | .between m n => '{' :: ((toString m).toList ++ ',' :: (toString n).toList ++ ['}'])
  text ++ (if greedy then [] else ['?'])

/-! ## Trees -/

/-- The two ends of a bracketed class around its set. -/
def inBrackets (negated : Bool) (set : List Char) : List Char :=
  '[' :: (if negated then ['^'] else []) ++ set ++ [']']

mutual

/-- **The text of a class set.** -/
def ClassSet.render : ClassSet → List Char
  | .empty _ => []
  | .literal l => l.render
  | .range _ first last => first.render ++ '-' :: last.render
  | .named _ negated kind => kind.render negated
  | .property _ negated query => query.render negated
  | .short _ negated kind => kind.render negated
  | .bracketed _ negated set => inBrackets negated set.render
  | .union _ sets => ClassSet.renderAll sets
  | .combine _ op left right => left.render ++ op.render.toList ++ right.render

/-- The texts of class sets, one behind the other. -/
def ClassSet.renderAll : List ClassSet → List Char
  | [] => []
  | s :: sets => s.render ++ ClassSet.renderAll sets

end

mutual

/-- **The text of a pattern.** -/
def Pattern.render : Pattern → List Char
  | .empty _ => []
  | .setFlags _ flags => "(?".toList ++ flags.render ++ [')']
  | .literal l => l.render
  | .dot _ => ['.']
  | .assertion _ kind => kind.render.toList
  | .property _ negated query => query.render negated
  | .short _ negated kind => kind.render negated
  | .bracketed _ negated set => inBrackets negated set.render
  | .repetition _ op greedy sub => sub.render ++ op.render greedy
  | .group _ kind sub => kind.render ++ sub.render ++ [')']
  | .alternation _ branches => Pattern.renderBranches branches
  | .concat _ items => Pattern.renderAll items

/-- The texts of patterns, one behind the other. -/
def Pattern.renderAll : List Pattern → List Char
  | [] => []
  | p :: items => p.render ++ Pattern.renderAll items

/-- The texts of patterns with a bar between them. -/
def Pattern.renderBranches : List Pattern → List Char
  | [] => []
  | [p] => p.render
  | p :: q :: branches => p.render ++ '|' :: Pattern.renderBranches (q :: branches)

end

end StatefulLexer.Regex
