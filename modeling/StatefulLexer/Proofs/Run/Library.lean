/-
What the token library says about runs.

Every token is made by a rule of the table from a text, and gets its type and its categories
from the rule or from a keyword of it. Both are producers of the table, and the library was
made of all of those. That the rule is one of the table is an invariant of runs: the scanner
keeps numbers of states and rules, and for a match that waits they were found earlier.

Main statement: `Table.library_describes_tokens`.
-/
import StatefulLexer.Proofs.Rule.Keyword
import StatefulLexer.Proofs.Run.Sound
import StatefulLexer.Proofs.Table.Library

set_option autoImplicit false

namespace StatefulLexer

namespace Scanner

/-! ## Rules of the table -/

/-- The rule of a match is one of the table. -/
def OfTable (s : Scanner) (state : StateId) (m : RuleMatch) : Prop :=
  ∃ st ∈ s.table.states, s.ruleOf state m ∈ st.rules

theorem OfTable.of_getElem? {s : Scanner} {state : StateId} {m : RuleMatch} {st : State}
    {r : Rule} (hst : s.table.states[state]? = some st) (hr : st.rules[m.rule]? = some r) :
    s.OfTable state m := by
  refine ⟨st, List.mem_of_getElem? hst, ?_⟩
  rw [ruleOf, Table.state_of_getElem? hst, State.rule_of_getElem? hr]
  exact List.mem_of_getElem? hr

/-- **A call for an item consumes matches of the table.** -/
theorem Steps.ofTable {s last : Scanner} {ps : List Passage} (h : s.Steps ps last) (hs : s.Sound)
    {names : List String} (ht : s.table.Spec names) :
    ∀ before state m, .consumed before state m ∈ ps →
      before.table = s.table ∧ before.OfTable state m := by
  intro before state m hmem
  obtain ⟨hbefore, st, r, hst, hr⟩ := h.hasRule hs ht before state m hmem
  exact ⟨hbefore, .of_getElem? hst hr⟩

/-! ## Tokens -/

/-- The item of a consumed match is the token that is made of it. -/
theorem exists_of_item? {p : Passage} {tok : Token} (h : p.item? = some (.token tok)) :
    ∃ before state m, p = .consumed before state m ∧ before.tokenOf state m = tok := by
  cases p with
  | skipped s => cases h
  | consumed s state m =>
    rw [Passage.item?] at h
    split at h
    · cases h
    · exact ⟨s, state, m, rfl, Item.token.inj (Option.some.inj h)⟩

/-- **Every token that is handed out is of a producer of the table.** -/
theorem Reachable.produces {spec : LexerSpec} {t : Table} (ht : spec.compile = .ok t)
    {s : Scanner} (hs : Reachable t s) {tok : Token} (h : s.next.1 = some (.token tok)) :
    t.Produces ⟨tok.tokenType, tok.categories⟩ := by
  obtain ⟨hsound, htable⟩ := hs.sound ht
  have hspec : s.table.Spec (spec.states.map (·.name)) := by
    rw [htable]
    exact LexerSpec.compile_spec ht
  have hitems := s.toList_next
  rw [h, Option.toList_some] at hitems
  have hmem : Item.token tok ∈ s.passed.filterMap Passage.item? :=
    hitems ▸ List.mem_singleton_self _
  obtain ⟨p, hp, hitem⟩ := List.mem_filterMap.1 hmem
  obtain ⟨before, state, m, rfl, rfl⟩ := exists_of_item? hitem
  obtain ⟨hbefore, st, hst, hr⟩ := s.steps_passed.ofTable hsound hspec before state m hp
  rw [hbefore, htable] at hst
  obtain ⟨decls, ctx, hcompile⟩ := LexerSpec.states_of_compile ht st hst
  obtain ⟨d, _, hd⟩ := (State.compile_spec hcompile).declared _ hr
  have hproduced := Rule.produce_mem_producers hd (String.ofList (before.cursor.slice m.span))
  exact ⟨st, hst, _, hr, List.mem_cons.1 hproduced⟩

/-- Tokens up to the end, as far as the patience goes, are those of calls for one. -/
theorem Reachable.next_of_mem_allWithin {t : Table} {s : Scanner} (hs : Reachable t s)
    {patience : Nat} {item : Item} (h : item ∈ (s.allWithin patience).1) :
    ∃ s', Reachable t s' ∧ s'.next.1 = some item := by
  -- The cases are those of the recursion: behind each call the scanner can be reached.
  fun_induction allWithin patience s with
  | case1 patience s behind hnext => cases h
  | case2 patience s item' behind hnext rest hrest items last hall ih =>
    have hbehind : Reachable t behind := by
      have hcall : s.call .next = behind := congrArg Prod.snd hnext
      rw [← hcall]
      exact hs.call .next
    rcases List.mem_cons.1 h with rfl | hmem
    · exact ⟨s, hs, congrArg Prod.fst hnext⟩
    · rw [hall] at ih
      exact ih hbehind hmem
  | case3 patience s item' behind hnext hrest =>
    rw [List.mem_singleton.1 h]
    exact ⟨s, hs, congrArg Prod.fst hnext⟩

/-- **An item is returned by a scanner of the table:** by a call for the next one, or by one
for all of them. -/
def Returned (t : Table) (item : Item) : Prop :=
  ∃ s, Reachable t s ∧ (s.next.1 = some item ∨ item ∈ s.all.1)

theorem Returned.produces {spec : LexerSpec} {t : Table} (ht : spec.compile = .ok t)
    {tok : Token} (h : Returned t (.token tok)) :
    t.Produces ⟨tok.tokenType, tok.categories⟩ := by
  obtain ⟨s, hs, hnext | hall⟩ := h
  · exact hs.produces ht hnext
  · obtain ⟨s', hs', hnext⟩ := hs.next_of_mem_allWithin hall
    exact hs'.produces ht hnext

end Scanner

/-! ## The library -/

/-- **The token library describes every token that a scanner can produce.** It cannot be made
if two producers disagree about a type, and only then. Otherwise it has the types of the
table, each once, with the categories that all its producers have. A token of any run has a
type of the table, and the categories that the library has for it. -/
theorem Table.library_describes_tokens {spec : LexerSpec} {t : Table}
    (ht : spec.compile = .ok t) :
    ((∃ tokenType, t.tokenLibrary = .error (.overlappingTokenType tokenType)) ↔
      ∃ p q, t.Produces p ∧ t.Produces q ∧ Disagree p q) ∧
    ((¬ ∃ p q, t.Produces p ∧ t.Produces q ∧ Disagree p q) →
      ∃ library, t.tokenLibrary = .ok library ∧ (library.map Prod.fst).Nodup ∧
        (∀ tokenType, tokenType ∈ library.map Prod.fst ↔ t.has tokenType = true) ∧
        ∀ p, t.Produces p → library.lookup p.tokenType = some p.categories) ∧
    (∀ tokenType, t.has tokenType = true ↔ ∃ p, t.Produces p ∧ p.tokenType = tokenType) ∧
    ∀ tok, Scanner.Returned t (.token tok) →
      t.has tok.tokenType = true ∧
        ∀ library, t.tokenLibrary = .ok library →
          library.lookup tok.tokenType = some tok.categories := by
  have hagree {library : List (String × List String)} (h : Describes library t.producers) :
      ¬ ∃ p q, t.Produces p ∧ t.Produces q ∧ Disagree p q := by
    rintro ⟨p, q, hp, hq, hpq⟩
    exact h.agree (mem_producers_iff.2 hp) (mem_producers_iff.2 hq) hpq
  refine ⟨⟨?_, ?_⟩, ?_, fun _ => has_iff, ?_⟩
  · rintro ⟨tokenType, herror⟩
    rcases t.tokenLibrary_cases with ⟨library, hok, _⟩ | ⟨p, q, hp, hq, hpq, _⟩
    · rw [hok] at herror
      cases herror
    · exact ⟨p, q, hp, hq, hpq⟩
  · intro hoverlap
    rcases t.tokenLibrary_cases with ⟨library, _, hlibrary⟩ | ⟨p, _, _, _, _, herror⟩
    · exact absurd hoverlap (hagree hlibrary)
    · exact ⟨p.tokenType, herror⟩
  · intro hnone
    rcases t.tokenLibrary_cases with ⟨library, hok, hlibrary⟩ | ⟨p, q, hp, hq, hpq, _⟩
    · refine ⟨library, hok, hlibrary.nodup, ?_, fun p hp => hlibrary.lookup p (mem_producers_iff.2 hp)⟩
      intro tokenType
      rw [hlibrary.mem_iff, has_iff]
      simp only [mem_producers_iff]
    · exact absurd ⟨p, q, hp, hq, hpq⟩ hnone
  · intro tok htok
    have hproduced := htok.produces ht
    refine ⟨has_iff.2 ⟨_, hproduced, rfl⟩, ?_⟩
    intro library hlibrary
    rcases t.tokenLibrary_cases with ⟨library', hok, hdescribes⟩ | ⟨_, _, _, _, _, herror⟩
    · rw [hok] at hlibrary
      rw [← Except.ok.inj hlibrary]
      exact hdescribes.lookup _ (mem_producers_iff.2 hproduced)
    · rw [herror] at hlibrary
      cases hlibrary

/-- A lexer for words, with notes in brackets. -/
def wordsLexer (words : List String) : LexerSpec where
  states := [
    { name := "code"
      rules := [
        ("word", .options
          { matchers := [.regex "[a-z]+"]
            keywords := [{ tokenType := "key", values := words, categories := [{ name := "flow" }] }]
            categories := [{ name := "text" }] }),
        ("open", .options { matchers := [.literal "("], push := some "note" })] },
    { name := "note"
      rules := [
        ("word", .options { matchers := [.regex "[a-z]+"], categories := [{ name := "text" }] }),
        ("close", .options { matchers := [.literal ")"], pop := some 1 })] }]

/-- Words come from two states, and a word that is a keyword from a third producer. It has
the categories of the library for its own type. -/
theorem Table.library_describes_tokens_words :
    ∃ t tok, (wordsLexer ["if", "for"]).compile = .ok t ∧
      t.tokenLibrary = .ok
        [("word", ["text"]), ("key", ["flow", "text"]), ("open", []), ("close", [])] ∧
      (t.scanner "if(".toList).next.1 = some (.token tok) ∧ tok.text = "if" ∧
      tok.tokenType = "key" ∧ t.has "key" = true ∧ tok.categories = ["flow", "text"] := by
  -- Words are hashed, which does not compute here, so they stay a variable.
  have hlibrary (words : List String) : ((wordsLexer words).compile.toOption.map fun t =>
      (t.start, t.tokenLibrary.toOption))
      = some (0, some
        [("word", ["text"]), ("key", ["flow", "text"]), ("open", []), ("close", [])]) := by cbv
  have hchoice (words : List String) : ((wordsLexer words).compile.toOption.map fun t =>
      ((t.state 0).choose (Cursor.start "if(".toList), ((t.state 0).rule 0).ignore))
      = some (some ({ rule := 0, span := ⟨0, 2⟩ }, none), false) := by cbv
  have hkeywords (words : List String) : ((wordsLexer words).compile.toOption.map fun t =>
      ((t.state 0).rule 0).keywords)
      = some (KeywordTable.ofSpecs
        [{ tokenType := "key", values := words, categories := [{ name := "flow" }] }]
        [{ name := "text" }]) := by cbv
  obtain ⟨t, ht, hlibrary⟩ := exists_ok_of_map (hlibrary ["if", "for"])
  have hchoice := hchoice ["if", "for"]
  have hkeywords := hkeywords ["if", "for"]
  rw [ht, Except.toOption, Option.map_some, Option.some.injEq] at hchoice hkeywords
  rw [Prod.mk.injEq] at hlibrary hchoice
  obtain ⟨hstart, hlibrary⟩ := hlibrary
  obtain ⟨hchoose, hignore⟩ := hchoice
  have hok : t.tokenLibrary = .ok
      [("word", ["text"]), ("key", ["flow", "text"]), ("open", []), ("close", [])] := by
    cases hcases : t.tokenLibrary with
    | error e =>
      rw [hcases] at hlibrary
      cases hlibrary
    | ok library =>
      rw [hcases] at hlibrary
      exact congrArg Except.ok (Option.some.inj hlibrary)
  let s := t.scanner "if(".toList
  let m : RuleMatch := { rule := 0, span := ⟨0, 2⟩ }
  have hstate : s.table.state s.state = t.state 0 := congrArg t.state hstart
  have hstep := Scanner.step_of_choose (s := s) rfl rfl (hstate ▸ hchoose)
  have hrule : s.ruleOf s.state m = (t.state 0).rule 0 := by
    rw [Scanner.ruleOf, hstate]
  have hnext : s.next.1 = some (.token (s.tokenOf s.state m)) := by
    rw [Scanner.next, Scanner.nextWithin_of_handed_out hstep (hrule ▸ hignore)]
  have htext : (s.tokenOf s.state m).text = "if" := rfl
  have htype : (s.tokenOf s.state m).tokenType = "key" := by
    have hproduce :
        (s.tokenOf s.state m).tokenType = (((t.state 0).rule 0).produce "if").tokenType := by
      rw [← hrule]
      rfl
    rw [hproduce, Rule.produce, hkeywords, KeywordTable.lookup_ofSpecs]
    rfl
  obtain ⟨_, _, _, hreturned⟩ := Table.library_describes_tokens ht
  obtain ⟨hhas, hcategories⟩ := hreturned _ ⟨s, .new _, .inl hnext⟩
  have hfound := hcategories _ hok
  rw [htype] at hhas hfound
  exact ⟨t, _, ht, hok, hnext, htext, htype, hhas, (Option.some.inj hfound).symm⟩

end StatefulLexer
