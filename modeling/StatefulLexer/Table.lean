/-
Tables: lexers that have been compiled.

A table is built once and never changes. It has the states in the order of their
declaration, and answers which tokens it can produce.
-/
import StatefulLexer.Inclusion
import StatefulLexer.State

set_option autoImplicit false

namespace StatefulLexer

/-- A compiled lexer. -/
structure Table where
  states : List State
  start : StateId

/-! ## Building a table -/

/-- The first name that occurs a second time. -/
def firstRepeated? (seen : List String) : List String → Option String
  | [] => none
  | name :: names =>
    if seen.contains name then some name else firstRepeated? (name :: seen) names

namespace LexerSpec

/-- The entries of every state. The shared ones are behind the state's own. -/
def entryLists (spec : LexerSpec) : List EntryList :=
  let shared := LocatedEntry.ofEntries none (RuleList.normalize spec.shared)
  spec.states.zipIdx.map fun (state, number) =>
    { name := state.name
      entries :=
        LocatedEntry.ofEntries (some number) (RuleList.normalize state.rules) ++ shared }

/-- **A lexer, compiled.** Names are checked first, then the states one after the
other, and the start state last. -/
def compile (spec : LexerSpec) : Except LexError Table := do
  let names := spec.states.map (·.name)
  if names.isEmpty then throw .noStates
  if let some name := firstRepeated? [] names then throw (.duplicateState name)
  let lists := spec.entryLists
  let states ← lists.mapM fun s => do
    State.compile (← EntryList.rules lists s) { stateName := s.name, stateNames := names }
  match spec.start with
  | none => return { states, start := 0 }
  | some name =>
    match names.idxOf? name with
    | some start => return { states, start }
    | none => throw (.unknownStartState name)

end LexerSpec

/-! ## What tokens get -/

/-- What a token can get for its type and its categories: those of a rule, or
those of a keyword of it. -/
def Rule.producers (r : Rule) : List KeywordOverride :=
  ⟨r.tokenType, r.categories⟩ :: r.keywords.overrides

namespace Table

/-! ## States -/

/-- The state of a number. -/
def state (t : Table) (id : StateId) : State := t.states.getD id default

/-- The number of the state of that name. -/
def stateId? (t : Table) (name : String) : Option StateId :=
  t.states.findIdx? (·.name == name)

/-- The state of that name. -/
def stateNamed? (t : Table) (name : String) : Option State :=
  t.states.find? (·.name == name)

/-- The name of the start state. -/
def startName (t : Table) : String := (t.state t.start).name

/-! ## Token types -/

/-- Everything that tokens of the table can get for their type and their
categories. -/
def producers (t : Table) : List KeywordOverride :=
  t.states.flatMap fun s => s.rules.flatMap Rule.producers

/-- The table can produce tokens of that type. -/
def has (t : Table) (tokenType : String) : Bool := t.producers.any (·.tokenType == tokenType)

/-- The types of `known` and of further producers, with their categories. A type
must not come with different categories. -/
def libraryFrom (known : List (String × List String)) :
    List KeywordOverride → Except LexError (List (String × List String))
  | [] => .ok known
  | p :: producers =>
    match known.lookup p.tokenType with
    | none => libraryFrom (known ++ [(p.tokenType, p.categories)]) producers
    | some categories =>
      if categories = p.categories then libraryFrom known producers
      else .error (.overlappingTokenType p.tokenType)

/-- **The token library:** every type that the table can produce, with its
categories. -/
def tokenLibrary (t : Table) : Except LexError (List (String × List String)) :=
  libraryFrom [] t.producers

end Table

end StatefulLexer
