/-
Declarations written out.

A matcher is shown in short form for messages. A whole declaration is shown with
the names of all its fields, on one line.
-/
import StatefulLexer.Declaration
import StatefulLexer.Text.Quoted

set_option autoImplicit false

namespace StatefulLexer

/-- **A matcher in short form:** a literal in single quotes, a regular expression
between slashes, both in the plain spelling. -/
def Matcher.render : Matcher → String
  | literal text => "'" ++ String.ofList (Quoted.plain text.toList) ++ "'"
  | regex pattern => "/" ++ String.ofList (Quoted.plain pattern.toList) ++ "/"

namespace Shown

/-! ## Parts -/

/-- A text. -/
def text (s : String) : String := String.ofList (Quoted.readable s.toList)

/-- A value with a name before it. -/
def tagged (name value : String) : String := name ++ "(" ++ value ++ ")"

/-- A list. -/
def list (items : List String) : String := "[" ++ String.intercalate ", " items ++ "]"

/-- A value that may be missing. -/
def option (value : Option String) : String :=
  match value with
  | none => "None"
  | some v => tagged "Some" v

/-- A truth value. -/
def bool (b : Bool) : String := if b then "true" else "false"

/-- A record: its name, and its fields with their names. -/
def record (name : String) (fields : List (String × String)) : String :=
  name ++ " \x7b " ++
    String.intercalate ", " (fields.map fun (field, value) => field ++ ": " ++ value) ++ " \x7d"

/-! ## Declarations -/

/-- A category. -/
def category (c : Category) : String :=
  record "Category" [("name", text c.name), ("ancestors", list (c.ancestors.map text))]

/-- A declaration of keywords. -/
def keywordSpec (k : KeywordSpec) : String :=
  record "KeywordSpec"
    [("token_type", text k.tokenType), ("values", list (k.values.map text)),
      ("categories", list (k.categories.map category))]

/-- A matcher. -/
def matcher : Matcher → String
  | .literal t => tagged "Literal" (text t)
  | .regex p => tagged "Regex" (text p)

/-- A record of options. The function that makes values has no written form. -/
def options (o : RuleOptions) : String :=
  record "RuleOptions"
    [("matchers", list (o.matchers.map matcher)), ("line_breaks", bool o.lineBreaks),
      ("push", option (o.push.map text)), ("pop", option (o.pop.map toString)),
      ("next", option (o.next.map text)), ("error", bool o.error),
      ("fallback", bool o.fallback), ("value", option (o.value.map fun _ => text "<fn>")),
      ("keywords", list (o.keywords.map keywordSpec)),
      ("categories", list (o.categories.map category)), ("ignore", bool o.ignore)]

end Shown

mutual

/-- **A rule as declared, written out.** -/
def RuleSpec.render : RuleSpec → String
  | .literal t => Shown.tagged "Literal" (Shown.text t)
  | .regex p => Shown.tagged "Regex" (Shown.text p)
  | .list specs => Shown.tagged "List" (Shown.list (RuleSpec.renderAll specs))
  | .options o => Shown.tagged "Options" (Shown.options o)
  | .splice state => Shown.tagged "Include" (Shown.text state)

/-- Rules as declared, each written out. -/
def RuleSpec.renderAll : List RuleSpec → List String
  | [] => []
  | spec :: specs => spec.render :: RuleSpec.renderAll specs

end

end StatefulLexer
