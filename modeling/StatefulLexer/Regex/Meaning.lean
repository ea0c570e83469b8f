/-
What a pattern means.

Flags hold from where they are set to the end of the group around them, also in
the branches that follow. Beside them, the way from patterns to expressions has
no memory. Patterns that speak of bytes are refused where they could match a
part of a character: a match is always a text.
-/
import StatefulLexer.Regex.Expr
import StatefulLexer.Regex.Parser
import StatefulLexer.Unicode.CaseFolding
import StatefulLexer.Unicode.Property

set_option autoImplicit false

namespace StatefulLexer.Regex

/-! ## Flags -/

/-- The flags in force. Patterns begin with lines and with all of Unicode. -/
structure Flags where
  caseInsensitive : Bool := false
  multiLine : Bool := true
  dotMatchesNewline : Bool := false
  swapGreed : Bool := false
  unicode : Bool := true
  carriageReturn : Bool := false
deriving DecidableEq, Repr

/-- The flags in force behind a list of flags. -/
def Flags.with (f : Flags) (l : FlagList) : Flags where
  caseInsensitive := (l.state? .caseInsensitive).getD f.caseInsensitive
  multiLine := (l.state? .multiLine).getD f.multiLine
  dotMatchesNewline := (l.state? .dotMatchesNewline).getD f.dotMatchesNewline
  swapGreed := (l.state? .swapGreed).getD f.swapGreed
  unicode := (l.state? .unicode).getD f.unicode
  carriageReturn := (l.state? .carriageReturn).getD f.carriageReturn

/-! ## Characters -/

/-- A literal speaks of a byte that is no character when it gives the code in
two digits, without Unicode, and the code is beyond ASCII. -/
def Literal.isBareByte (f : Flags) (l : Literal) : Bool :=
  !f.unicode && l.spelling == .hex .x && decide (0x7F < l.char.toNat)

/-- A literal as an expression. -/
def Literal.meaning (f : Flags) (l : Literal) : Except Fault Expr :=
  if l.isBareByte f then fault .invalidUtf8 l.region
  else if f.caseInsensitive then
    if f.unicode then
      match CaseFolding.family? l.char with
      | some family =>
        .ok (.ofSet (CharSet.ofRanges (family.map fun code => ⟨code, code⟩)) true)
      | none => .ok (.literal [l.char])
    else if l.char.isAlpha then
      .ok (.ofSet (CharSet.ofList [l.char, CaseFolding.swapAscii l.char]) false)
    else .ok (.literal [l.char])
  else .ok (.literal [l.char])

/-- A literal as a character of a class. Without Unicode only ASCII characters
may stand there. -/
def Literal.inClass (f : Flags) (l : Literal) : Except Fault Char :=
  if l.isBareByte f then fault .invalidUtf8 l.region
  else if !f.unicode && decide (0x7F < l.char.toNat) then fault .unicodeNotAllowed l.region
  else .ok l.char

/-! ## Classes -/

/-- The set closed under case, if case does not count. -/
def Flags.fold (f : Flags) (s : CharSet) : CharSet :=
  if f.caseInsensitive then
    if f.unicode then CaseFolding.close s else CaseFolding.closeAscii s
  else s

/-- The set or its complement. Without Unicode a complement holds bytes that are
no characters, so it is refused. -/
def Flags.negate (f : Flags) (region : Region) (negated : Bool) (s : CharSet) :
    Except Fault CharSet :=
  if negated then
    if f.unicode then .ok s.complement else fault .invalidUtf8 region
  else .ok s

/-- The characters of a class with a letter. -/
def ShortClass.set (unicode : Bool) : ShortClass → CharSet
  | digit => if unicode then CharSet.digit else CharSet.asciiDigit
  | space => if unicode then CharSet.space else CharSet.asciiSpace
  | word => if unicode then CharSet.word else CharSet.asciiWord

/-- The characters of a class with a name in colons. All are ASCII. -/
def NamedClass.set : NamedClass → CharSet
  | alnum => ⟨[⟨0x30, 0x39⟩, ⟨0x41, 0x5A⟩, ⟨0x61, 0x7A⟩]⟩
  | alpha => ⟨[⟨0x41, 0x5A⟩, ⟨0x61, 0x7A⟩]⟩
  | ascii => ⟨[⟨0x00, 0x7F⟩]⟩
  | blank => ⟨[⟨0x09, 0x09⟩, ⟨0x20, 0x20⟩]⟩
  | cntrl => ⟨[⟨0x00, 0x1F⟩, ⟨0x7F, 0x7F⟩]⟩
  | digit => ⟨[⟨0x30, 0x39⟩]⟩
  | graph => ⟨[⟨0x21, 0x7E⟩]⟩
  | lower => ⟨[⟨0x61, 0x7A⟩]⟩
  | print => ⟨[⟨0x20, 0x7E⟩]⟩
  | punct => ⟨[⟨0x21, 0x2F⟩, ⟨0x3A, 0x40⟩, ⟨0x5B, 0x60⟩, ⟨0x7B, 0x7E⟩]⟩
  | space => ⟨[⟨0x09, 0x0D⟩, ⟨0x20, 0x20⟩]⟩
  | upper => ⟨[⟨0x41, 0x5A⟩]⟩
  | word => ⟨[⟨0x30, 0x39⟩, ⟨0x41, 0x5A⟩, ⟨0x5F, 0x5F⟩, ⟨0x61, 0x7A⟩]⟩
  | xdigit => ⟨[⟨0x30, 0x39⟩, ⟨0x41, 0x46⟩, ⟨0x61, 0x66⟩]⟩

/-- The characters that have the property, or the value of it, that a query
names. -/
def PropertyQuery.set (q : PropertyQuery) : Except Property.QueryError CharSet :=
  match q with
  | letter c => Property.named [c]
  | named name => Property.named name
  | valued _ property value => Property.valued property value

/-- The sign of the query asks for the characters without the value. -/
def PropertyQuery.isNegated : PropertyQuery → Bool
  | valued .notEqual _ _ => true
  | _ => false

/-- A class of the characters with a property. A negated letter and the sign of
inequality undo each other. -/
def propertySet (f : Flags) (region : Region) (negated : Bool) (q : PropertyQuery) :
    Except Fault CharSet :=
  if !f.unicode then fault .unicodeNotAllowed region
  else
    match q.set with
    | .error .propertyNotFound => fault .propertyNotFound region
    | .error .valueNotFound => fault .propertyValueNotFound region
    | .ok s => f.negate region (negated != q.isNegated) (f.fold s)

/-- The two sets around an operator, combined. -/
def ClassOp.apply (op : ClassOp) (s t : CharSet) : CharSet :=
  match op with
  | inter => s.inter t
  | diff => s.diff t
  | symmDiff => s.symmDiff t

mutual

/-- **The characters of a class set.** -/
def ClassSet.meaning (f : Flags) : ClassSet → Except Fault CharSet
  | .empty _ => .ok CharSet.none
  | .literal l => do return CharSet.single (← l.inClass f)
  | .range _ first last => do return CharSet.range (← first.inClass f) (← last.inClass f)
  | .named region negated kind => f.negate region negated (f.fold kind.set)
  | .property region negated query => propertySet f region negated query
  | .short region negated kind => f.negate region negated (kind.set f.unicode)
  | .bracketed region negated set => do
    let s ← set.meaning f
    return CharSet.unions [← f.negate region negated (f.fold s)]
  | .union _ sets => do return CharSet.unions (← ClassSet.meanings f sets)
  | .combine _ op left right => do
    let s ← left.meaning f
    let t ← right.meaning f
    return op.apply (f.fold s) (f.fold t)

/-- The characters of several class sets. -/
def ClassSet.meanings (f : Flags) : List ClassSet → Except Fault (List CharSet)
  | [] => .ok []
  | s :: sets => do
    let head ← s.meaning f
    let tail ← ClassSet.meanings f sets
    return head :: tail

end

/-! ## Patterns -/

/-- The dot. -/
def dotMeaning (f : Flags) (region : Region) : Except Fault Expr :=
  if !f.unicode then fault .invalidUtf8 region
  else if f.dotMatchesNewline then .ok (.set CharSet.all true)
  else if f.carriageReturn then .ok (.set (CharSet.ofList ['\n', '\r']).complement true)
  else .ok (.set (CharSet.single '\n').complement true)

/-- An assertion. -/
def Assertion.meaning (f : Flags) : Assertion → Look
  | lineStart => if f.multiLine then .lineStart f.carriageReturn else .textStart
  | lineEnd => if f.multiLine then .lineEnd f.carriageReturn else .textEnd
  | textStart => .textStart
  | textEnd => .textEnd
  | wordBoundary => .word .boundary f.unicode
  | notWordBoundary => .word .notBoundary f.unicode
  | wordStart => .word .start f.unicode
  | wordEnd => .word .finish f.unicode
  | wordStartAngle => .word .start f.unicode
  | wordEndAngle => .word .finish f.unicode
  | wordStartHalf => .word .startHalf f.unicode
  | wordEndHalf => .word .finishHalf f.unicode

/-- The flags inside a group. -/
def GroupKind.inside (f : Flags) : GroupKind → Flags
  | .flags l => f.with l
  | _ => f

/-- A group around an expression. -/
def GroupKind.around (kind : GroupKind) (e : Expr) : Expr :=
  match kind with
  | .capture index => .capture index e
  | .named index _ _ => .capture index e
  | .flags _ => e

mutual

/-- **The expression of a pattern,** and the flags in force behind it. -/
def Pattern.meaning (f : Flags) : Pattern → Except Fault (Expr × Flags)
  | .empty _ => .ok (.empty, f)
  | .setFlags _ flags => .ok (.empty, f.with flags)
  | .literal l => do return (← l.meaning f, f)
  | .dot region => do return (← dotMeaning f region, f)
  | .assertion _ kind => .ok (.look (kind.meaning f), f)
  | .property region negated query => do
    return (.ofSet (← propertySet f region negated query) f.unicode, f)
  | .short region negated kind => do
    return (.ofSet (← f.negate region negated (kind.set f.unicode)) f.unicode, f)
  | .bracketed region negated set => do
    let s ← set.meaning f
    return (.ofSet (← f.negate region negated (f.fold s)) f.unicode, f)
  | .repetition _ op greedy sub => do
    let (e, f) ← sub.meaning f
    let (least, most) := op.bounds
    return (.repeated least most (greedy != f.swapGreed) e, f)
  | .group _ kind sub => do
    let (e, _) ← sub.meaning (kind.inside f)
    return (kind.around e, f)
  -- A flag set in one branch holds in the branches behind it.
  | .alternation _ branches => do
    let (es, f) ← Pattern.meanings f branches
    return (.choice es, f)
  | .concat _ items => do
    let (es, f) ← Pattern.meanings f items
    return (.sequence es, f)

/-- The expressions of patterns that follow each other, and the flags in force
behind them. -/
def Pattern.meanings (f : Flags) : List Pattern → Except Fault (List Expr × Flags)
  | [] => .ok ([], f)
  | p :: patterns => do
    let (e, f) ← p.meaning f
    let (es, f) ← Pattern.meanings f patterns
    return (e :: es, f)

end

/-- **The expression of the text of a pattern.** -/
def Expr.ofText (text : List Char) : Except Fault Expr := do
  let p ← Pattern.parse text
  let (e, _) ← p.meaning {}
  return e

end StatefulLexer.Regex
