/-
The tokens of a rule.

A match is a number of a state and a number of a rule there, and the rule was compiled from
a declaration: one that the state has itself, takes over, or shares with the others. So
every token goes back to a declaration, whether it is handed out or passed over. What it
gets for its type and its categories can be told from that declaration and from the text of
the match, without any table: the keywords of the declaration are searched for the first one
that has the text among its words. The value has no part in it.

Main statement: `Scanner.reclassified_by_text`.
-/
import StatefulLexer.Proofs.Category
import StatefulLexer.Proofs.Run.Library

set_option autoImplicit false

namespace StatefulLexer

/-! ## Declarations of rules -/

/-- **The declaration of a rule** of a state, by their numbers. -/
def LexerSpec.decl? (spec : LexerSpec) (state : StateId) (rule : RuleId) : Option RuleDecl :=
  spec.entryLists[state]?.bind fun entries =>
    (EntryList.rules spec.entryLists entries).toOption.bind fun decls => decls[rule]?

/-- A rule of a compiled lexer was compiled from its declaration. -/
theorem LexerSpec.decl?_of_compile {spec : LexerSpec} {t : Table} (ht : spec.compile = .ok t)
    {state : StateId} {st : State} (hst : t.states[state]? = some st) {rule : RuleId} {r : Rule}
    (hr : st.rules[rule]? = some r) :
    ∃ d ctx, spec.decl? state rule = some d ∧ d.compile ctx = .ok r := by
  obtain ⟨entries, decls, hentries, hdecls, hcompile⟩ := state_of_compile ht hst
  obtain ⟨d, hd, hrule⟩ := getElem?_of_mapM (State.compile_spec hcompile).rules hr
  refine ⟨d, _, ?_, hrule⟩
  rw [decl?, hentries, Option.bind_some, hdecls]
  exact hd

/-- **What a text gets,** searched for in the declaration: it is made by the first keywords
that have the text among their words, or else by the rule. -/
def RuleDecl.search (d : RuleDecl) (text : String) : KeywordOverride :=
  match d.options.keywords.find? (·.values.contains text) with
  | some spec => spec.override d.options.categories
  | none => ⟨d.tokenType, Category.flatten d.options.categories⟩

/-- **The table of keywords** finds what the search does. -/
theorem RuleDecl.produce_of_compile {d : RuleDecl} {ctx : RuleContext} {r : Rule}
    (h : d.compile ctx = .ok r) (text : String) : r.produce text = d.search text := by
  obtain ⟨hkeywords, hcategories⟩ := produced_of_compile h
  rw [Rule.produce, hkeywords, KeywordTable.lookup_ofSpecs, hcategories,
    (compile_eq_ok h).tokenType, search]
  cases d.options.keywords.find? (·.values.contains text) <;> rfl

namespace Scanner

/-! ## Tokens and declarations -/

/-- **A token is made for a declaration:** a call for an item consumes a match of its rule,
and the token is made of that match, handed out or not. -/
def Emitted (spec : LexerSpec) (t : Table) (d : RuleDecl) (tok : Token) : Prop :=
  ∃ s before state m, Reachable t s ∧ .consumed before state m ∈ s.passed ∧
    spec.decl? state m.rule = some d ∧ before.tokenOf state m = tok

section

variable {spec : LexerSpec} {t : Table}

/-- A match that is consumed has a declaration, and its rule was compiled from that. -/
theorem Reachable.exists_decl (ht : spec.compile = .ok t) {s : Scanner} (hs : Reachable t s)
    {before : Scanner} {state : StateId} {m : RuleMatch}
    (hmem : .consumed before state m ∈ s.passed) :
    ∃ d ctx, spec.decl? state m.rule = some d ∧ d.compile ctx = .ok (before.ruleOf state m) := by
  obtain ⟨hsound, htable⟩ := hs.sound ht
  have hspec : s.table.Spec (spec.states.map (·.name)) := by
    rw [htable]
    exact LexerSpec.compile_spec ht
  obtain ⟨hbefore, st, r, hst, hr⟩ := s.steps_passed.hasRule hsound hspec before state m hmem
  have hrule : before.ruleOf state m = r := by
    rw [ruleOf, Table.state_of_getElem? hst, State.rule_of_getElem? hr]
  rw [hbefore, htable] at hst
  rw [hrule]
  exact LexerSpec.decl?_of_compile ht hst hr

/-- **Every token has a declaration,** also one that is passed over. -/
theorem Reachable.emitted (ht : spec.compile = .ok t) {s : Scanner} (hs : Reachable t s)
    {before : Scanner} {state : StateId} {m : RuleMatch}
    (hmem : .consumed before state m ∈ s.passed) :
    ∃ d, Emitted spec t d (before.tokenOf state m) := by
  obtain ⟨d, _, hd, _⟩ := hs.exists_decl ht hmem
  exact ⟨d, s, before, state, m, hs, hmem, hd, rfl⟩

/-- So has every token that is returned. -/
theorem Returned.emitted (ht : spec.compile = .ok t) {tok : Token}
    (h : Returned t (.token tok)) : ∃ d, Emitted spec t d tok := by
  have next {s : Scanner} (hs : Reachable t s) (hnext : s.next.1 = some (.token tok)) :
      ∃ d, Emitted spec t d tok := by
    have hitems := s.toList_next
    rw [hnext, Option.toList_some] at hitems
    have hmem : Item.token tok ∈ s.passed.filterMap Passage.item? :=
      hitems ▸ List.mem_singleton_self _
    obtain ⟨p, hp, hitem⟩ := List.mem_filterMap.1 hmem
    obtain ⟨before, state, m, rfl, rfl⟩ := exists_of_item? hitem
    exact hs.emitted ht hp
  obtain ⟨s, hs, hnext | hall⟩ := h
  · exact next hs hnext
  · obtain ⟨s', hs', hnext⟩ := hs.next_of_mem_allWithin hall
    exact next hs' hnext

/-- **A token gets what the search through its declaration finds** for its text. -/
theorem Emitted.produced (ht : spec.compile = .ok t) {d : RuleDecl} {tok : Token}
    (h : Emitted spec t d tok) : (⟨tok.tokenType, tok.categories⟩ : KeywordOverride)
      = d.search tok.text := by
  obtain ⟨s, before, state, m, hs, hmem, hd, rfl⟩ := h
  obtain ⟨d', _, hd', hrule⟩ := hs.exists_decl ht hmem
  rw [hd] at hd'
  rw [← Option.some.inj hd'] at hrule
  exact RuleDecl.produce_of_compile hrule _

end

/-- A match that is chosen for a rule that is not ignored is all that a call passes, and its
token is handed out. -/
theorem handed_out_of_choose {s : Scanner} {state : StateId} {m : RuleMatch}
    {queued : Option RuleMatch} (hpending : s.pending = []) (hend : s.cursor.atEnd = false)
    (hstate : s.state = state)
    (hchoose : (s.table.state state).choose s.cursor = some (m, queued))
    (hignore : (s.ruleOf state m).ignore = false) :
    s.next.1 = some (.token (s.tokenOf state m)) ∧ s.passed = [.consumed s state m] := by
  subst hstate
  have hstep := step_of_choose hpending hend hchoose
  constructor
  · rw [next, nextWithin_of_handed_out hstep hignore]
  · rw [passed, passedWithin, hstep]
    exact if_neg (Bool.eq_false_iff.1 hignore)

/-! ## Reclassification -/

/-- **Keywords are found as by a linear search.** What the table of a rule gives to a text is
what the first declaration gives that has the text among its words, and nothing if none has.
The categories are those of the declaration with those of the rule behind them, flattened:
each name once, where it is first met. Every token that is made for a rule, handed out or
not, has the type and the categories that the table has for the whole text of its match, or
those of the rule if it has none. And every token that is returned is made for a rule. -/
theorem reclassified_by_text :
    (∀ (specs : List KeywordSpec) (cs : List Category) (text : String),
      (KeywordTable.ofSpecs specs cs).lookup text
        = (specs.find? (·.values.contains text)).map (·.override cs)) ∧
    (∀ (k : KeywordSpec) (cs : List Category), (k.override cs).tokenType = k.tokenType ∧
      (k.override cs).categories.Nodup ∧
      (∀ name, name ∈ (k.override cs).categories
        ↔ ∃ c ∈ k.categories ++ cs, name = c.name ∨ name ∈ c.ancestors) ∧
      (k.override cs).categories.Pairwise fun a b =>
        ((k.categories ++ cs).flatMap Category.names).idxOf a
          < ((k.categories ++ cs).flatMap Category.names).idxOf b) ∧
    ∀ (spec : LexerSpec) (t : Table), spec.compile = .ok t →
      (∀ s before state m, Reachable t s → .consumed before state m ∈ s.passed →
        ∃ d, spec.decl? state m.rule = some d ∧
          (before.tokenOf state m).text = String.ofList (before.cursor.slice m.span) ∧
          (⟨(before.tokenOf state m).tokenType, (before.tokenOf state m).categories⟩
              : KeywordOverride)
            = ((KeywordTable.ofSpecs d.options.keywords d.options.categories).lookup
                (before.tokenOf state m).text).getD
              ⟨d.tokenType, Category.flatten d.options.categories⟩) ∧
      ∀ tok, Returned t (.token tok) → ∃ d, Emitted spec t d tok := by
  refine ⟨fun specs cs text => KeywordTable.lookup_ofSpecs cs specs text, ?_, ?_⟩
  · intro k cs
    refine ⟨rfl, Category.nodup_flatten _, fun name => ?_, Category.pairwise_flatten _⟩
    exact Category.mem_flatten.trans (exists_congr fun c => and_congr_right fun _ => c.mem_names name)
  · intro spec t ht
    refine ⟨fun s before state m hs hmem => ?_, fun tok htok => htok.emitted ht⟩
    obtain ⟨d, _, hd, _⟩ := hs.exists_decl ht hmem
    have hproduced := Emitted.produced ht ⟨s, before, state, m, hs, hmem, hd, rfl⟩
    refine ⟨d, hd, rfl, hproduced.trans ?_⟩
    rw [KeywordTable.lookup_ofSpecs, RuleDecl.search]
    cases d.options.keywords.find? (·.values.contains (before.tokenOf state m).text) <;> rfl

/-- A lexer for words, of which the first letter is the value. There are loops among them,
and a second declaration of some. -/
def loopsLexer (loops others : List String) : LexerSpec where
  states := [
    { name := "main"
      rules := [
        ("word", .options
          { matchers := [.regex "([a-z])[a-z]*"]
            keywords := [
              { tokenType := "nothing", values := [] },
              { tokenType := "loop", values := loops, categories := [{ name := "flow" }] },
              { tokenType := "other", values := others }]
            categories := [{ name := "text", ancestors := ["any", "flow"] }] })] }]

/-- The word is a loop by its first declaration, and although its value is no word at all. -/
theorem reclassified_by_text_loop :
    ∃ t tok, (loopsLexer ["while", "for"] ["for", "f"]).compile = .ok t ∧
      (t.scanner "for".toList).next.1 = some (.token tok) ∧ tok.text = "for" ∧ tok.value = "f" ∧
      tok.tokenType = "loop" ∧ tok.categories = ["flow", "text", "any"] := by
  -- Words are hashed, which does not compute here, so they stay variables.
  have hfacts (loops others : List String) :
      ((loopsLexer loops others).compile.toOption.map fun t =>
        (t.start, (t.state 0).choose (Cursor.start "for".toList), ((t.state 0).rule 0).ignore,
          ((t.state 0).rule 0).value.isNone))
      = some (0, some ({ rule := 0, span := ⟨0, 3⟩, value := some ⟨0, 1⟩ }, none), false, true) := by
    cbv
  obtain ⟨t, ht, hfacts⟩ := exists_ok_of_map (hfacts ["while", "for"] ["for", "f"])
  simp only [Prod.mk.injEq] at hfacts
  obtain ⟨hstart, hchoose, hignore, hvalue⟩ := hfacts
  let s := t.scanner "for".toList
  let m : RuleMatch := { rule := 0, span := ⟨0, 3⟩, value := some ⟨0, 1⟩ }
  obtain ⟨hnext, hpassed⟩ := handed_out_of_choose (s := s) (m := m) rfl rfl hstart
    hchoose hignore
  have hrule : s.ruleOf 0 m = (t.state 0).rule 0 := rfl
  have hsource : (s.tokenOf 0 m).value = "f" := by
    rw [tokenOf, hrule, Option.isNone_iff_eq_none.1 hvalue]
    rfl
  obtain ⟨hlookup, _, hruns⟩ := reclassified_by_text
  obtain ⟨d, hd, htext, hproduced⟩ := (hruns _ t ht).1 s s 0 m (.new _) (hpassed ▸ List.mem_singleton_self _)
  have hdecl (loops others : List String) : ((loopsLexer loops others).decl? 0 0).map
      (fun d => (d.options.keywords, d.options.categories))
      = some ([
          { tokenType := "nothing", values := [] },
          { tokenType := "loop", values := loops, categories := [{ name := "flow" }] },
          { tokenType := "other", values := others }],
        [{ name := "text", ancestors := ["any", "flow"] }]) := by cbv
  have hdecl := hdecl ["while", "for"] ["for", "f"]
  have hd : (loopsLexer ["while", "for"] ["for", "f"]).decl? 0 0 = some d := hd
  rw [hd, Option.map_some, Option.some.injEq, Prod.mk.injEq] at hdecl
  have htext : (s.tokenOf 0 m).text = "for" := htext
  rw [hdecl.1, hdecl.2, hlookup, htext] at hproduced
  have hfound : (⟨(s.tokenOf 0 m).tokenType, (s.tokenOf 0 m).categories⟩ : KeywordOverride)
      = ⟨"loop", ["flow", "text", "any"]⟩ := hproduced
  obtain ⟨htype, hcategories⟩ := KeywordOverride.mk.inj hfound
  exact ⟨t, _, ht, hnext, htext, hsource, htype, hcategories⟩

end Scanner

end StatefulLexer
