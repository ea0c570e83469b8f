/-
Tables of lexers that differ in decoration.

Decoration is not without effect on a table. A rule with keywords or with a transform for
its values has to be searched for, and so have the rules behind it, so the same rules may be
divided differently. What a state chooses does not depend on where its rules are kept,
though: it is made of the first rule that matches and of the rule for unmatched input,
which can be told from the rules without their decoration.

Main statements: `State.choose_undecorated`, `LexerSpec.cutsAlike`.
-/
import Mathlib.Data.List.GetD
import StatefulLexer.Proofs.Declaration.Undecorated
import StatefulLexer.Proofs.State.Fallback

set_option autoImplicit false

namespace StatefulLexer

/-! ## Rules -/

/-- A compiled rule without decoration, and without what the table would be made of. -/
def Rule.undecorated (r : Rule) : Rule :=
  { r with
    tokenType := ""
    fastChars := none
    value := none
    keywords := {}
    categories := []
    ignore := false }

@[simp] theorem Rule.lineBreaks_undecorated (r : Rule) :
    r.undecorated.lineBreaks = r.lineBreaks := rfl

@[simp] theorem Rule.transition_undecorated (r : Rule) :
    r.undecorated.transition = r.transition := rfl

/-- The name of a rule is in the errors about its transition, and nowhere else. -/
theorem RuleOptions.transition_eq_ok {o : RuleOptions} {tokenType : String} {ctx : RuleContext}
    {transition : Transition} (h : o.transition tokenType ctx = .ok transition)
    (tokenType' : String) : o.transition tokenType' ctx = .ok transition := by
  -- What a name leads to is found without the name of the rule.
  have lookup {name : String} {make : StateId → Transition} {e e' : LexError}
      (h : (ctx.lookup name e).map make = .ok transition) :
      (ctx.lookup name e').map make = .ok transition :=
    RuleContext.map_lookup_eq_ok.2 (RuleContext.map_lookup_eq_ok.1 h)
  unfold RuleOptions.transition at h ⊢
  dsimp only at h ⊢
  by_cases hnone : o.transitionCount = 0
  · rw [if_pos hnone] at h ⊢
    exact h
  · rw [if_neg hnone] at h ⊢
    by_cases hstates : (!ctx.hasStates) = true
    · rw [if_pos hstates] at h
      cases h
    · rw [if_neg hstates] at h ⊢
      by_cases hmany : 1 < o.transitionCount
      · rw [if_pos hmany] at h
        cases h
      · rw [if_neg hmany] at h ⊢
        split at h
        · exact lookup h
        · exact lookup h
        · exact h
        · cases h

/-- **Declarations that differ in decoration** give rules that do. -/
theorem RuleDecl.compile_undecorated {d d' : RuleDecl} (h : d.undecorated = d'.undecorated)
    {ctx : RuleContext} {r r' : Rule} (hr : d.compile ctx = .ok r) (hr' : d'.compile ctx = .ok r') :
    r.undecorated = r'.undecorated := by
  have hoptions : d.options.undecorated = d'.options.undecorated := congrArg RuleDecl.options h
  have hmatchers : d.options.matchers = d'.options.matchers := by
    rw [← RuleOptions.matchers_undecorated, hoptions, RuleOptions.matchers_undecorated]
  have hgives := RuleDecl.compile_eq_ok hr
  have hgives' := RuleDecl.compile_eq_ok hr'
  have hrole : r.role = r'.role := by
    rw [hgives.role, hgives'.role, ← RuleOptions.role_undecorated, hoptions,
      RuleOptions.role_undecorated]
  have hlines : r.lineBreaks = r'.lineBreaks := by
    rw [hgives.lineBreaks, hgives'.lineBreaks, ← RuleOptions.lineBreaks_undecorated,
      ← RuleOptions.takesUnmatched_undecorated, hoptions, RuleOptions.lineBreaks_undecorated,
      RuleOptions.takesUnmatched_undecorated]
  have htransition : r.transition = r'.transition := by
    have hok := (RuleDecl.transition_of_compile hr).1
    have hok' := RuleOptions.transition_eq_ok (RuleDecl.transition_of_compile hr').1 d.tokenType
    rw [← RuleOptions.transition_undecorated, hoptions, RuleOptions.transition_undecorated] at hok
    exact Except.ok.inj (hok.symm.trans hok')
  have hpattern : r.pattern = r'.pattern := by
    rcases RuleDecl.pattern_eq_ok hgives.pattern with ⟨hnil, hnone⟩ | ⟨p, hne, hsome, hp, _⟩
    · rcases RuleDecl.pattern_eq_ok hgives'.pattern with ⟨_, hnone'⟩ | ⟨_, hne', _, _, _⟩
      · rw [hnone, hnone']
      · exact absurd (hmatchers.symm.trans hnil) hne'
    · rcases RuleDecl.pattern_eq_ok hgives'.pattern with ⟨hnil', _⟩ | ⟨p', _, hsome', hp', _⟩
      · exact absurd (hmatchers.trans hnil') hne
      · rw [hmatchers] at hp
        rw [hsome, hsome', Except.ok.inj (hp.symm.trans hp')]
  have hgroup : r.hasValueGroup = r'.hasValueGroup := by
    rw [hgives.hasValueGroup, hgives'.hasValueGroup, hpattern]
  simp only [Rule.undecorated, hrole, hlines, htransition, hpattern, hgroup]

/-- So do lists of declarations. -/
theorem RuleDecl.mapM_compile_undecorated {decls decls' : List RuleDecl}
    (h : decls.map undecorated = decls'.map undecorated) {ctx : RuleContext}
    {rules rules' : List Rule} (hrules : decls.mapM (·.compile ctx) = .ok rules)
    (hrules' : decls'.mapM (·.compile ctx) = .ok rules') :
    rules.map Rule.undecorated = rules'.map Rule.undecorated := by
  induction decls generalizing decls' rules rules' with
  | nil =>
    rw [List.map_nil, eq_comm, List.map_eq_nil_iff] at h
    rw [h] at hrules'
    cases hrules
    cases hrules'
    rfl
  | cons d decls ih =>
    cases decls' with
    | nil => cases h
    | cons d' decls' =>
      rw [List.map_cons, List.map_cons, List.cons.injEq] at h
      obtain ⟨r, rest, hr, hrest, rfl⟩ := mapM_cons_eq_ok.1 hrules
      obtain ⟨r', rest', hr', hrest', rfl⟩ := mapM_cons_eq_ok.1 hrules'
      rw [List.map_cons, List.map_cons, compile_undecorated h.1 hr hr', ih h.2 hrest hrest']

/-- The first rule that matches is found without decoration. -/
theorem firstMatch_undecorated (rules : List Rule) (c : Cursor) :
    firstMatch (rules.map Rule.undecorated) c = firstMatch rules c := by
  rw [firstMatch, List.zipIdx_map, List.findSome?_map]
  rfl

/-- So is the rule for unmatched input. -/
theorem unmatchedOf_undecorated (rules : List Rule) :
    unmatchedOf (rules.map Rule.undecorated) = unmatchedOf rules := by
  rw [unmatchedOf, List.findIdx?_map, List.findIdx?_map]
  rfl

/-! ## States -/

namespace State

/-- Searches that find the same at every place find the same further ahead. -/
theorem findWithin_congr {st st' : State} (h : ∀ c, st.matchAt? c = st'.matchAt? c) (n : Nat)
    (c : Cursor) : st.findWithin n c = st'.findWithin n c := by
  induction n generalizing c with
  | zero => exact h c
  | succ n ih => rw [findWithin, findWithin, h, ih]

/-- **States choose alike** if their rules differ in decoration, wherever these are kept. -/
theorem choose_undecorated {decls decls' : List RuleDecl} {ctx ctx' : RuleContext}
    {st st' : State} (hst : compile decls ctx = .ok st) (hst' : compile decls' ctx' = .ok st')
    (h : st.rules.map Rule.undecorated = st'.rules.map Rule.undecorated) {c : Cursor}
    (hc : c.ahead ≠ []) : st.choose c = st'.choose c := by
  have hfirst (c : Cursor) : firstMatch st.rules c = firstMatch st'.rules c := by
    rw [← firstMatch_undecorated, h, firstMatch_undecorated]
  have hunmatched : st.unmatched = st'.unmatched := by
    rw [(compile_spec hst).unmatched, (compile_spec hst').unmatched, ← unmatchedOf_undecorated, h,
      unmatchedOf_undecorated]
  have hfound : (st.fastMatch? c).or (st.matchAt? c) = (st'.fastMatch? c).or (st'.matchAt? c) := by
    rw [(compile_spec hst).first c hc, (compile_spec hst').first c hc, hfirst]
  -- Without a rule for gaps, what is found at the place is all that counts.
  have hsame {error : Option RuleId}
      (hkind : st.unmatched = (error.map Unmatched.takeRest).getD .report) :
      st.choose c = st'.choose c := by
    rw [choose_eq hkind, choose_eq (hunmatched.symm.trans hkind), hfound]
  cases hkind : st.unmatched with
  | report =>
    have hreport : st.unmatched = ((none : Option RuleId).map Unmatched.takeRest).getD .report :=
      hkind
    exact hsame hreport
  | takeRest id =>
    have hrest : st.unmatched = ((some id).map Unmatched.takeRest).getD .report := hkind
    exact hsame hrest
  -- The search goes on at other places, but then nothing is in the tables.
  | takeGap gap =>
    have hkind' := hunmatched.symm.trans hkind
    have hgap := (((compile_spec hst).unmatched_iff (divided_of_compile hst).2 gap).2.1).1 hkind
    have hgap' := (((compile_spec hst').unmatched_iff (divided_of_compile hst').2 gap).2.1).1 hkind'
    obtain ⟨r, hr, hrole⟩ := hgap
    obtain ⟨r', hr', hrole'⟩ := hgap'
    have hsearch (c : Cursor) : st.matchAt? c = st'.matchAt? c := by
      rw [(search_of_fallback hst hr hrole c).2.2, (search_of_fallback hst' hr' hrole' c).2.2,
        hfirst]
    rw [choose, choose, (search_of_fallback hst hr hrole c).2.1,
      (search_of_fallback hst' hr' hrole' c).2.1, hkind, hkind', findWithin_congr hsearch]

end State

/-! ## Tables -/

/-- **Two tables cut alike:** they have states of the same names, which choose the same and
whose rules differ in decoration. -/
structure Table.CutsAlike (t t' : Table) : Prop where
  names : t.states.map (·.name) = t'.states.map (·.name)
  start : t.start = t'.start
  rules : ∀ id, (t.state id).rules.map Rule.undecorated = (t'.state id).rules.map Rule.undecorated
  choose : ∀ id c, c.ahead ≠ [] → (t.state id).choose c = (t'.state id).choose c

namespace Table.CutsAlike

variable {t t' : Table}

/-- States have the same names in both. -/
theorem name (h : t.CutsAlike t') (id : StateId) : (t.state id).name = (t'.state id).name := by
  have hname (t : Table) : (t.state id).name = (t.states.map (·.name)).getD id "" := by
    rw [Table.state, List.getD_eq_getElem?_getD, List.getD_eq_getElem?_getD, List.getElem?_map]
    cases t.states[id]? <;> rfl
  rw [hname, hname, h.names]

/-- Names are those of the same states in both. -/
theorem stateId? (h : t.CutsAlike t') (name : String) : t.stateId? name = t'.stateId? name := by
  rw [stateId?_eq_idxOf?, stateId?_eq_idxOf?, h.names]

/-- Rules of the same number differ in decoration. -/
theorem rule (h : t.CutsAlike t') (id : StateId) (rule : RuleId) :
    ((t.state id).rule rule).undecorated = ((t'.state id).rule rule).undecorated := by
  have hrule (st : State) : (st.rule rule).undecorated
      = (st.rules.map Rule.undecorated).getD rule (default : Rule).undecorated := by
    rw [State.rule, List.getD_map]
  rw [hrule, hrule, h.rules]

end Table.CutsAlike

/-- Lexers that declare the same about cutting have states of the same names. -/
theorem LexerSpec.names_of_cutting {spec spec' : LexerSpec} (h : spec.cutting = spec'.cutting) :
    spec.states.map (·.name) = spec'.states.map (·.name) := by
  have hnames (spec : LexerSpec) :
      spec.states.map (·.name) = spec.cutting.states.map Prod.fst := by
    rw [cutting, List.map_map]
    rfl
  rw [hnames, hnames, h]

/-- **A number is that of a state in both tables,** and the two were compiled from rules that
differ in decoration, or it is one in neither. -/
theorem LexerSpec.state_cases {spec spec' : LexerSpec} (h : spec.cutting = spec'.cutting)
    {t t' : Table} (ht : spec.compile = .ok t) (ht' : spec'.compile = .ok t') (id : StateId) :
    (∃ decls decls' ctx, State.compile decls ctx = .ok (t.state id) ∧
      State.compile decls' ctx = .ok (t'.state id) ∧
      decls.map RuleDecl.undecorated = decls'.map RuleDecl.undecorated) ∨
    (t.state id = default ∧ t'.state id = default) := by
  have hnames := names_of_cutting h
  have hlists := entryLists_undecorated h
  have hlength : t.states.length = t'.states.length := by
    rw [← List.length_map (f := fun st : State => st.name), (compile_spec ht).stateNames, hnames,
      ← (compile_spec ht').stateNames, List.length_map]
  rcases Nat.lt_or_ge id t.states.length with hlt | hge
  · left
    obtain ⟨s, decls, hs, hdecls, hcompile⟩ := state_of_compile ht (Table.getElem?_state hlt)
    obtain ⟨s', decls', hs', hdecls', hcompile'⟩ :=
      state_of_compile ht' (Table.getElem?_state (hlength ▸ hlt))
    have hentries : s.undecorated = s'.undecorated := by
      have hget := List.getElem?_map (f := EntryList.undecorated) (l := spec.entryLists) (i := id)
      rw [hlists, List.getElem?_map, hs, hs'] at hget
      exact (Option.some.inj hget).symm
    have hrules := EntryList.rules_undecorated spec.entryLists s
    rw [hlists, hentries, EntryList.rules_undecorated, hdecls, hdecls'] at hrules
    have hname : s.name = s'.name := by
      rw [← EntryList.name_undecorated, hentries, EntryList.name_undecorated]
    rw [← hname, ← hnames] at hcompile'
    exact ⟨decls, decls', _, hcompile, hcompile', (Except.ok.inj hrules).symm⟩
  · exact .inr ⟨Table.state_of_length_le hge, Table.state_of_length_le (hlength ▸ hge)⟩

/-- **Lexers that declare the same about cutting** have tables that cut alike. -/
theorem LexerSpec.cutsAlike {spec spec' : LexerSpec} (h : spec.cutting = spec'.cutting)
    {t t' : Table} (ht : spec.compile = .ok t) (ht' : spec'.compile = .ok t') :
    t.CutsAlike t' := by
  have hrules (id : StateId) :
      (t.state id).rules.map Rule.undecorated = (t'.state id).rules.map Rule.undecorated := by
    rcases state_cases h ht ht' id with ⟨decls, decls', ctx, hst, hst', hdecls⟩ | ⟨hst, hst'⟩
    · exact RuleDecl.mapM_compile_undecorated hdecls (State.compile_spec hst).rules
        (State.compile_spec hst').rules
    · rw [hst, hst']
  refine ⟨?_, ?_, hrules, ?_⟩
  · rw [(compile_spec ht).stateNames, (compile_spec ht').stateNames, names_of_cutting h]
  · obtain ⟨_, hnodup, _, hstart⟩ := compile_eq_ok ht
    obtain ⟨_, _, _, hstart'⟩ := compile_eq_ok ht'
    have hsame : spec.start = spec'.start := congrArg Cutting.start h
    rw [← hsame, ← names_of_cutting h] at hstart'
    cases hname : spec.start with
    | none =>
      rw [hname] at hstart hstart'
      rw [hstart, hstart']
    | some name =>
      -- Names are distinct, so the start state is found at one number.
      rw [hname] at hstart hstart'
      obtain ⟨hlt, heq⟩ := List.getElem?_eq_some_iff.1 hstart
      obtain ⟨hlt', heq'⟩ := List.getElem?_eq_some_iff.1 hstart'
      exact hnodup.getElem_inj_iff.1 (heq.trans heq'.symm)
  · intro id c hc
    rcases state_cases h ht ht' id with ⟨decls, decls', ctx, hst, hst', _⟩ | ⟨hst, hst'⟩
    · exact State.choose_undecorated hst hst' (hrules id) hc
    · rw [hst, hst']

end StatefulLexer
