/-
Character properties by name.

A property may be asked for by its own name, by the name of one of its values
where that is clear enough, or by both. Names are read loosely: case, blanks,
low lines and hyphens do not count, nor does an `is` in front.
-/
import StatefulLexer.Unicode.GeneralCategory
import StatefulLexer.Unicode.Script
import StatefulLexer.Unicode.BinaryProperty
import StatefulLexer.Unicode.Age
import StatefulLexer.Unicode.Segmentation

set_option autoImplicit false

namespace StatefulLexer.Property

/-! ## Names -/

/-- A name without what does not count in it. -/
def looseBody (name : List Char) : List Char :=
  let counts (c : Char) : Bool :=
    decide (c.toNat < 0x80) && c != ' ' && c != '_' && c != '-'
  (name.filter counts).map Char.toLower

/-- **Loose spelling.** An `is` in front is dropped, unless that would leave a
lone `c`: `isc` abbreviates a property of its own. -/
def loose (name : List Char) : String :=
  match name with
  | i :: s :: rest =>
    if i.toLower = 'i' ∧ s.toLower = 's' then
      let body := looseBody rest
      if body = ['c'] then "isc" else String.ofList body
    else String.ofList (looseBody name)
  | _ => String.ofList (looseBody name)

/-! ## Queries -/

/-- Why a query finds nothing. -/
inductive QueryError where
  /-- There is no property of that name. -/
  | propertyNotFound
  /-- The property has no value of that name. -/
  | valueNotFound
deriving DecidableEq, Repr

/-- Further properties, without characters to ask for. -/
def otherNames : List String :=
  [ "age", "bc", "bidiclass", "bidimirroringglyph", "bidipairedbracket",
    "bidipairedbrackettype", "blk", "block", "bmg", "bpb", "bpt", "canonicalcombiningclass",
    "casefolding", "ccc", "ce", "cf", "changeswhennfkccasefolded", "cjkaccountingnumeric",
    "cjkcompatibilityvariant", "cjkiicore", "cjkirggsource", "cjkirghsource", "cjkirgjsource",
    "cjkirgkpsource", "cjkirgksource", "cjkirgmsource", "cjkirgssource", "cjkirgtsource",
    "cjkirguksource", "cjkirgusource", "cjkirgvsource", "cjkmandarin", "cjkothernumeric",
    "cjkprimarynumeric", "cjkrsunicode", "cjktotalstrokes", "cjkunihancore2020", "compex",
    "compositionexclusion", "cwkcf", "decompositionmapping", "decompositiontype", "dm", "dt",
    "ea", "eastasianwidth", "equideo", "equivalentunifiedideograph", "expandsonnfc",
    "expandsonnfd", "expandsonnfkc", "expandsonnfkd", "fcnfkc", "fcnfkcclosure",
    "fullcompositionexclusion", "gcb", "graphemeclusterbreak", "hangulsyllabletype", "hst",
    "incb", "indicconjunctbreak", "indicpositionalcategory", "indicsyllabiccategory", "inpc",
    "insc", "isc", "jamoshortname", "jg", "joininggroup", "joiningtype", "jsn", "jt",
    "kaccountingnumeric", "kcompatibilityvariant", "kehcat", "kehcore", "kehdesc", "kehfunc",
    "kehfval", "kehhg", "kehifao", "kehjsesh", "kehnomirror", "kehnorotate", "kehunik",
    "kiicore", "kirggsource", "kirghsource", "kirgjsource", "kirgkpsource", "kirgksource",
    "kirgmsource", "kirgssource", "kirgtsource", "kirguksource", "kirgusource", "kirgvsource",
    "kmandarin", "kothernumeric", "kprimarynumeric", "krsunicode", "ktotalstrokes",
    "kunihancore2020", "lb", "lc", "linebreak", "lowercasemapping", "na", "na1", "name",
    "namealias", "nfcqc", "nfcquickcheck", "nfdqc", "nfdquickcheck", "nfkccasefold", "nfkccf",
    "nfkcqc", "nfkcquickcheck", "nfkcscf", "nfkcsimplecasefold", "nfkdqc", "nfkdquickcheck",
    "nt", "numerictype", "numericvalue", "nv", "ocomment", "sb", "scf", "sentencebreak", "sfc",
    "simplecasefolding", "simplelowercasemapping", "simpletitlecasemapping",
    "simpleuppercasemapping", "slc", "stc", "suc", "tc", "titlecasemapping", "uc",
    "unicode1name", "unicoderadicalstroke", "uppercasemapping", "urs", "verticalorientation",
    "vo", "wb", "wordbreak", "xonfc", "xonfd", "xonfkc", "xonfkd" ]

/-- Names that abbreviate a general category and also a property nobody asks
for; they are taken for the category. -/
def categoryFirst : List String := ["cf", "sc", "lc"]

/-- Values of the general category and of the script that no character has. -/
def valuesOfNone : List String :=
  ["cs", "surrogate", "zzzz", "unknown", "hrkt", "katakanaorhiragana"]

/-- A query by the name of a general category or of a script. -/
def categoryOrScript (name : String) : Except QueryError CharSet :=
  match GeneralCategory.named? name <|> Script.named? name with
  | some s => .ok s
  | none =>
    if valuesOfNone.contains name then .error .valueNotFound else .error .propertyNotFound

/-- **A query by one name**, in this order: a property that a character has or
has not, a general category, a script. -/
def named (name : List Char) : Except QueryError CharSet :=
  let name := loose name
  if categoryFirst.contains name then categoryOrScript name
  else
    match BinaryProperty.named? name with
    | some s => .ok s
    | none => if otherNames.contains name then .error .propertyNotFound else categoryOrScript name

/-- A property whose values may be asked for: its names in loose spelling, and
the set of each value. -/
structure Valued where
  names : List String
  set? : String → Option CharSet

/-- The properties whose values may be asked for. -/
def valuedProperties : List Valued :=
  [ ⟨["gc", "generalcategory"], GeneralCategory.named?⟩,
    ⟨["sc", "script"], Script.named?⟩,
    ⟨["scx", "scriptextensions"], Script.usedWith?⟩,
    ⟨["age"], Age.named?⟩,
    ⟨["gcb", "graphemeclusterbreak"], Segmentation.grapheme?⟩,
    ⟨["wb", "wordbreak"], Segmentation.word?⟩,
    ⟨["sb", "sentencebreak"], Segmentation.sentence?⟩ ]

/-- There is a property of this name in loose spelling. -/
def isName (name : String) : Bool :=
  otherNames.contains name || valuedProperties.any (·.names.contains name) ||
    BinaryProperty.entries.any (·.names.contains name)

/-- **A query by the names of a property and of its value.** -/
def valued (property value : List Char) : Except QueryError CharSet :=
  let property := loose property
  let found := (valuedProperties.find? (·.names.contains property)).bind (·.set? (loose value))
  match found with
  | some s => .ok s
  | none => if isName property then .error .valueNotFound else .error .propertyNotFound

end StatefulLexer.Property
