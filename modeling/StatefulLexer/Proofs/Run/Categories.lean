/-
Tests for categories.

A test for a category is asked of a token, which has only names. The hierarchy of the
categories is not there any more: it was flattened when the rule was compiled, and for each
keywords of the rule once more. Yet the answer is that of the hierarchy, for the categories
that the declaration attaches to the text of the token. Nor does it matter how many of them
fall under each other. One that is declared again behind the others, where all that it
brings with it is there, leaves each token as it was.

Main statement: `Scanner.category_tests`.
-/
import StatefulLexer.Proofs.Run.Emitted

set_option autoImplicit false

namespace StatefulLexer

namespace RuleDecl

/-! ## Attached categories -/

/-- **The categories that a rule attaches to a text:** those of the keywords that have the
text, if there are any, and those of the rule. -/
def categoriesFor (d : RuleDecl) (text : String) : List Category :=
  match d.options.keywords.find? (·.values.contains text) with
  | some spec => spec.categories ++ d.options.categories
  | none => d.options.categories

/-- The same rule with more categories at the end. -/
def declaring (d : RuleDecl) (more : List Category) : RuleDecl :=
  { d with options := { d.options with categories := d.options.categories ++ more } }

/-- The names that a text gets are those of the attached categories. -/
theorem search_categories (d : RuleDecl) (text : String) :
    (d.search text).categories = Category.flatten (d.categoriesFor text) := by
  rw [search, categoriesFor]
  cases d.options.keywords.find? (·.values.contains text) <;> rfl

/-- What a rule declares at the end is attached at the end, to each text. -/
theorem categoriesFor_declaring (d : RuleDecl) (more : List Category) (text : String) :
    (d.declaring more).categoriesFor text = d.categoriesFor text ++ more := by
  simp only [categoriesFor, declaring]
  cases d.options.keywords.find? (·.values.contains text) with
  | none => rfl
  | some spec => exact (List.append_assoc _ _ _).symm

end RuleDecl

namespace Scanner

/-- A token has the names of the categories that its declaration attaches to its text. -/
theorem Emitted.categories {spec : LexerSpec} {t : Table} (ht : spec.compile = .ok t)
    {d : RuleDecl} {tok : Token} (h : Emitted spec t d tok) :
    tok.categories = Category.flatten (d.categoriesFor tok.text) := by
  rw [← d.search_categories, ← h.produced ht]

/-! ## The tests -/

/-- **A test for a category asks the hierarchy.** A token passes it if one of the categories
that its declaration attaches to its text is the category or falls under it. Among the names
of a token none is there twice. Each category is among them, in front of what it brings in,
and all are in the order in which they are first met. To declare categories again at the end,
of which all names are there, changes the names of no token with that text. And every token
is made for a declaration, handed out or not. -/
theorem category_tests (spec : LexerSpec) (t : Table) (ht : spec.compile = .ok t) :
    (∀ s before state m, Reachable t s → .consumed before state m ∈ s.passed →
      ∃ d, spec.decl? state m.rule = some d ∧ Emitted spec t d (before.tokenOf state m)) ∧
    (∀ tok, Returned t (.token tok) → ∃ d, Emitted spec t d tok) ∧
    ∀ d tok, Emitted spec t d tok →
      (∀ c, (TokenMatcher.category c).acceptsSome (some tok) = true
        ↔ ∃ own ∈ d.categoriesFor tok.text, own.isA c = true) ∧
      tok.categories.Nodup ∧
      (∀ front c back, d.categoriesFor tok.text = front ++ c :: back →
        c.name ∈ tok.categories ∧ ∀ a ∈ c.ancestors, a ∈ tok.categories ∧
          (a ≠ c.name → a ∉ Category.flatten front → [c.name, a].Sublist tok.categories)) ∧
      (tok.categories.Pairwise fun a b =>
        ((d.categoriesFor tok.text).flatMap Category.names).idxOf a
          < ((d.categoriesFor tok.text).flatMap Category.names).idxOf b) ∧
      ∀ more : List Category,
        (∀ c ∈ more, c.name ∈ tok.categories ∧ ∀ a ∈ c.ancestors, a ∈ tok.categories) →
        ∀ spec' t' tok', spec'.compile = .ok t' → Emitted spec' t' (d.declaring more) tok' →
          tok'.text = tok.text → tok'.categories = tok.categories := by
  refine ⟨?_, fun tok htok => htok.emitted ht, ?_⟩
  · intro s before state m hs hmem
    obtain ⟨d, _, hd, _⟩ := hs.exists_decl ht hmem
    exact ⟨d, hd, s, before, state, m, hs, hmem, hd, rfl⟩
  intro d tok hemitted
  have hnames := hemitted.categories ht
  refine ⟨?_, ?_, ?_, ?_, ?_⟩
  · intro c
    -- The test looks for one name, and the hierarchy was asked for all of them before.
    have htest : (TokenMatcher.category c).acceptsSome (some tok) = true
        ↔ c.name ∈ tok.categories := List.contains_iff_mem
    rw [htest, hnames]
    exact Category.mem_flatten_iff_isA c
  · rw [hnames]
    exact Category.nodup_flatten _
  · intro front c back hsplit
    have hmem : c ∈ d.categoriesFor tok.text := by simp [hsplit]
    rw [hnames]
    refine ⟨Category.mem_flatten.2 ⟨c, hmem, by simp⟩, fun a ha => ⟨?_, fun hname hnew => ?_⟩⟩
    · exact Category.mem_flatten.2 ⟨c, hmem, by simp [ha]⟩
    · rw [hsplit]
      exact Category.sublist_flatten front c back ha hname hnew
  · rw [hnames]
    exact Category.pairwise_flatten _
  · intro more hmore spec' t' tok' ht' hemitted' htext
    rw [hnames] at hmore ⊢
    rw [hemitted'.categories ht', htext, RuleDecl.categoriesFor_declaring]
    exact Category.flatten_again hmore

/-- A lexer for words. The categories of a loop form a diamond with those of a word. -/
def diamondLexer (loops : List String) (more : List Category) : LexerSpec where
  states := [
    { name := "main"
      rules := [
        ("word", .options
          { matchers := [.regex "[a-z]+"]
            keywords := [
              { tokenType := "loop", values := loops
                categories := [.under "loop" [.under "flow" [{ name := "any" }]]] }]
            categories := .under "text" [{ name := "any" }] :: more })] }]

/-- The first token of the lexer is made for its only rule. -/
theorem diamondLexer_emitted (loops : List String) (more : List Category) :
    ∃ t d tok, (diamondLexer loops more).compile = .ok t ∧ Returned t (.token tok) ∧
      Emitted (diamondLexer loops more) t d tok ∧ tok.text = "for" ∧
      (diamondLexer loops more).decl? 0 0 = some d := by
  have hfacts : ((diamondLexer loops more).compile.toOption.map fun t =>
        (t.start, (t.state 0).choose (Cursor.start "for".toList), ((t.state 0).rule 0).ignore))
      = some (0, some ({ rule := 0, span := ⟨0, 3⟩ }, none), false) := by cbv
  obtain ⟨t, ht, hfacts⟩ := exists_ok_of_map hfacts
  simp only [Prod.mk.injEq] at hfacts
  obtain ⟨hstart, hchoose, hignore⟩ := hfacts
  obtain ⟨hnext, hpassed⟩ := handed_out_of_choose (s := t.scanner "for".toList)
    rfl rfl hstart hchoose hignore
  have hreach : Reachable t (t.scanner "for".toList) := .new _
  have hmem := hpassed ▸ List.mem_singleton_self _
  obtain ⟨d, _, hd, _⟩ := hreach.exists_decl ht hmem
  exact ⟨t, d, _, ht, ⟨_, hreach, .inl hnext⟩, ⟨_, _, _, _, hreach, hmem, hd, rfl⟩, rfl, hd⟩

/-- A loop passes the test for what lies at the end of both ways, and does so once: to
declare what its keywords bring with them again, behind the rest, changes nothing. -/
theorem category_tests_diamond :
    ∃ t tok t' tok',
      (diamondLexer ["for"] []).compile = .ok t ∧ Returned t (.token tok) ∧
      tok.categories = ["loop", "flow", "any", "text"] ∧
      (TokenMatcher.category { name := "any" }).acceptsSome (some tok) = true ∧
      (TokenMatcher.category { name := "number" }).acceptsSome (some tok) = false ∧
      (diamondLexer ["for"] [{ name := "any" }, { name := "flow" }]).compile = .ok t' ∧
      Returned t' (.token tok') ∧ tok'.categories = tok.categories := by
  let more : List Category := [{ name := "any" }, { name := "flow" }]
  -- Words are hashed, which does not compute here, so they stay variables.
  have hdecl (loops : List String) (more : List Category) :
      (diamondLexer loops more).decl? 0 0 = some (RuleDecl.declaring
        { tokenType := "word"
          options :=
            { matchers := [.regex "[a-z]+"]
              keywords := [
                { tokenType := "loop", values := loops
                  categories := [.under "loop" [.under "flow" [{ name := "any" }]]] }]
              categories := [.under "text" [{ name := "any" }]] } } more) := by cbv
  obtain ⟨t, d, tok, ht, hret, hemitted, htext, hd⟩ := diamondLexer_emitted ["for"] []
  obtain ⟨t', d', tok', ht', hret', hemitted', htext', hd'⟩ := diamondLexer_emitted ["for"] more
  rw [hdecl, Option.some.injEq] at hd hd'
  subst hd hd'
  obtain ⟨htest, _, _, _, hagain⟩ := (category_tests _ t ht).2.2 _ tok hemitted
  have hnames : tok.categories = ["loop", "flow", "any", "text"] := by
    rw [hemitted.categories ht, htext]
    rfl
  refine ⟨t, tok, t', tok', ht, hret, hnames, ?_, ?_, ht', hret', ?_⟩
  · exact (htest _).2 (by rw [htext]; decide)
  · exact Bool.eq_false_iff.2 fun h => absurd ((htest _).1 h) (by rw [htext]; decide)
  · refine hagain more ?_ _ t' tok' ht' hemitted' (htext'.trans htext.symm)
    rw [hnames]
    decide

end Scanner

end StatefulLexer
