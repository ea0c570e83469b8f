/-
The first declared rule wins.

A state looks a rule up by the next character, and searches for a pattern only
where that finds none. The rules in the table need not be the first ones of the
state, and not every rule of single characters is in it. The choice is
nevertheless the one that would be made by asking all rules, one after the other,
and nothing depends on the table but the time it takes.

Main statement: `choose_first_declared`.
-/
import StatefulLexer.Proofs.Evaluated
import StatefulLexer.Proofs.State.Assemble

set_option autoImplicit false

namespace StatefulLexer.State

/-- The state without its table: all its patterns are searched for. -/
def searchingAll (s : State) : State :=
  { s with
    fast := []
    searched := s.rules.zipIdx.filterMap fun (r, id) => r.pattern.map fun p => (id, p) }

/-- The patterns of some rules, each searched for with its number, find what the rules
find. -/
theorem findSome?_patterns {s : State} {c : Cursor} {rules : List (Rule × RuleId)}
    (hrules : ∀ q ∈ rules, s.rule q.2 = q.1) :
    (rules.filterMap fun (r, id) => r.pattern.map fun p => (id, p)).findSome? (fun (id, p) =>
        (p.expr.match? c.behind c.ahead).map fun found => (s.rule id).matchOf id c found)
      = rules.findSome? fun (r, id) => r.match? id c := by
  induction rules with
  | nil => rfl
  | cons q rules ih =>
    have hrest := ih fun q hq => hrules q (List.mem_cons_of_mem _ hq)
    have hrule : s.rule q.2 = q.1 := hrules q List.mem_cons_self
    rw [List.findSome?_cons, ← hrest]
    dsimp only
    cases hp : q.1.pattern with
    | none =>
      rw [List.filterMap_cons_none (by rw [hp]; rfl), Rule.match?, hp]
      rfl
    | some p =>
      rw [List.filterMap_cons_some (by rw [hp]; rfl), List.findSome?_cons, Rule.match?, hp]
      dsimp only
      rw [hrule]
      rfl

/-- To search for all patterns is to ask all rules. -/
theorem matchAt?_searchingAll (s : State) (c : Cursor) :
    s.searchingAll.matchAt? c = firstMatch s.rules c := by
  refine findSome?_patterns (s := s) fun q hq => ?_
  rw [rule, List.getD_eq_getElem?_getD, List.mem_zipIdx_iff_getElem?.1 hq]
  rfl

/-- Without a rule for gaps, a state chooses what the table or the search finds, and
otherwise the rest of the buffer if it has a rule for that. -/
theorem choose_eq {s : State} {error : Option RuleId}
    (hs : s.unmatched = (error.map Unmatched.takeRest).getD .report) (c : Cursor) :
    s.choose c = match (s.fastMatch? c).or (s.matchAt? c) with
      | some m => some (m, none)
      | none => error.map fun id => ({ rule := id, span := ⟨c.offset, c.finish⟩ }, none) := by
  rw [choose, hs]
  cases s.fastMatch? c with
  | some m => rfl
  | none =>
    cases error with
    | none => cases s.matchAt? c <;> rfl
    | some id => cases s.matchAt? c <;> rfl

/-- Without declared rules for gaps, unmatched input is for the error rule, if there is
one. -/
theorem Spec.unmatched_eq {st : State} {decls : List RuleDecl} {ctx : RuleContext}
    (h : st.Spec decls ctx) (hfallback : ∀ d ∈ decls, d.options.fallback = false) :
    st.unmatched
      = ((st.rules.findIdx? (·.role == .error)).map Unmatched.takeRest).getD .report := by
  have hnone : st.rules.findIdx? (·.role == .fallback) = none := by
    rw [List.findIdx?_eq_none_iff]
    intro r hr
    obtain ⟨d, hd, hcompile⟩ := h.declared r hr
    rw [(RuleDecl.compile_eq_ok hcompile).role, RuleOptions.role, hfallback d hd]
    cases d.options.error <;> rfl
  rw [h.unmatched, unmatchedOf, hnone]
  cases st.rules.findIdx? (·.role == .error) <;> rfl

/-- **The first declared rule wins.** The rules of a state are the declared ones in their
order. If none of them is for gaps, then at every place in front of some text: of all
rules whose pattern matches there the first is chosen, whether it is in the table or
searched for, and its match is what its own pattern finds. Where no pattern matches,
the choice is the rest of the buffer for the error rule, if there is one. So the choice
is the same as if no rule were in the table. -/
theorem choose_first_declared {decls : List RuleDecl} {ctx : RuleContext} {st : State}
    (hst : compile decls ctx = .ok st) (hfallback : ∀ d ∈ decls, d.options.fallback = false)
    (c : Cursor) (hc : c.ahead ≠ []) :
    decls.mapM (·.compile ctx) = .ok st.rules ∧
    (∀ (id : RuleId) (r : Rule) (p : Regex.Compiled) (found : Regex.Found),
      st.rules[id]? = some r → r.pattern = some p →
      p.expr.match? c.behind c.ahead = some found →
      (∀ (j : RuleId) (r' : Rule) (p' : Regex.Compiled), j < id → st.rules[j]? = some r' →
        r'.pattern = some p' → p'.expr.match? c.behind c.ahead = none) →
      ∃ m, st.choose c = some (m, none) ∧ m.rule = id ∧ m.span = c.spanAhead 0 found.width) ∧
    ((∀ (id : RuleId) (r : Rule) (p : Regex.Compiled), st.rules[id]? = some r →
        r.pattern = some p → p.expr.match? c.behind c.ahead = none) →
      st.choose c = (st.rules.findIdx? (·.role == .error)).map fun id =>
        ({ rule := id, span := ⟨c.offset, c.finish⟩ }, none)) ∧
    st.choose c = st.searchingAll.choose c := by
  have hspec := compile_spec hst
  have hunmatched := hspec.unmatched_eq hfallback
  have hchoose := choose_eq hunmatched c
  rw [hspec.first c hc] at hchoose
  have hmatch : ∀ (id : RuleId) (r : Rule), (∀ p : Regex.Compiled, r.pattern = some p →
      p.expr.match? c.behind c.ahead = none) → r.match? id c = none := by
    intro id r hnone
    rw [Rule.match?]
    cases hp : r.pattern with
    | none => rfl
    | some p => rw [Option.bind_some, hnone p hp]; rfl
  refine ⟨hspec.rules, fun id r p found hr hp hfound hfirst => ?_, fun hnone => ?_, ?_⟩
  -- The rule matches, and those in front of it do not.
  · have hm : r.match? id c = some (r.matchOf id c found) := by
      rw [Rule.match?, hp, Option.bind_some, hfound]
      rfl
    have hbefore : ∀ (j : RuleId) (r' : Rule), j < id → st.rules[j]? = some r' →
        r'.match? j c = none :=
      fun j r' hj hr' => hmatch j r' fun p' => hfirst j r' p' hj hr'
    refine ⟨r.matchOf id c found, ?_, rfl, rfl⟩
    rw [hchoose, firstMatch_eq_some hr hm hbefore]
  · have hrules : ∀ (id : RuleId) (r : Rule), st.rules[id]? = some r → r.match? id c = none :=
      fun id r hr => hmatch id r fun p => hnone id r p hr
    rw [hchoose, firstMatch_eq_none hrules]
  · have hall := choose_eq (s := st.searchingAll) hunmatched c
    have hfast : st.searchingAll.fastMatch? c = none := by
      rw [fastMatch?]
      cases c.ahead <;> rfl
    rw [hfast, Option.none_or, matchAt?_searchingAll] at hall
    rw [hchoose, hall]

/-- Signs in front of words, and signs behind them, of which one is a sign already. -/
def operatorDecls : List RuleDecl :=
  [⟨"sign", { matchers := [.literal "+", .literal "-"] }⟩,
    ⟨"word", { matchers := [.regex "[a-z]+"] }⟩,
    ⟨"operator", { matchers := [.literal "+", .literal "*"] }⟩,
    ⟨"rest", { error := true }⟩]

/-- The first rule is in the table, the second and the third are searched for, and an
asterisk is of the third. -/
theorem choose_first_declared_operators :
    ∃ st, compile operatorDecls ⟨"start", ["start"]⟩ = .ok st ∧
      (∀ d ∈ operatorDecls, d.options.fallback = false) ∧
      (Cursor.start "*ab".toList).ahead ≠ [] ∧
      st.fast = [('+', 0), ('-', 0)] ∧ st.searched.map Prod.fst = [1, 2] ∧
      st.choose (Cursor.start "*ab".toList)
        = some ({ rule := 2, span := ⟨0, 1⟩ }, none) ∧
      st.choose (Cursor.start "*ab".toList)
        = st.searchingAll.choose (Cursor.start "*ab".toList) := by
  have hfacts : (compile operatorDecls ⟨"start", ["start"]⟩).toOption.map (fun st =>
      (st.fast, st.searched.map Prod.fst, st.choose (Cursor.start "*ab".toList)))
        = some ([('+', 0), ('-', 0)], [1, 2], some ({ rule := 2, span := ⟨0, 1⟩ }, none)) := by
    cbv
  have hfallback : ∀ d ∈ operatorDecls, d.options.fallback = false := by decide
  have hahead : (Cursor.start "*ab".toList).ahead ≠ [] := by decide
  obtain ⟨st, hst, hfacts⟩ := exists_ok_of_map hfacts
  rw [Prod.mk.injEq, Prod.mk.injEq] at hfacts
  obtain ⟨hfast, hsearched, hchoose⟩ := hfacts
  exact ⟨st, hst, hfallback, hahead, hfast, hsearched, hchoose,
    (choose_first_declared hst hfallback _ hahead).2.2.2⟩

end StatefulLexer.State
