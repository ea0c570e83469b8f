/-
Well-formed tables.

A scanner trusts its table: it goes where a transition leads, asks a state for the rule that
is to take unmatched input, and lets the table of single characters decide. None of this is
checked when it is used. It is checked in three places before: the names when the table is
built, the options when a rule is compiled, and the division of the rules when a state is
assembled. A rule that is shared or taken over is compiled once for each state it belongs
to, and is checked there like the others.

Main statement: `LexerSpec.table_wellFormed`.
-/
import StatefulLexer.Proofs.Evaluated
import StatefulLexer.Proofs.State.Division
import StatefulLexer.Proofs.Table.Compile

set_option autoImplicit false

namespace StatefulLexer

/-! ## Literals of one character -/

/-- The matcher is the literal of this character alone. -/
def Matcher.IsLiteralOf (m : Matcher) (c : Char) : Prop := ∃ text, m = .literal text ∧ text.toList = [c]

theorem Matcher.singleChar?_eq_some_iff {m : Matcher} {c : Char} :
    m.singleChar? = some c ↔ m.IsLiteralOf c := by
  constructor
  · intro h
    unfold singleChar? at h
    split at h
    · rename_i text
      split at h
      · rename_i c' htext
        rw [Option.some.inj h] at htext
        exact ⟨text, rfl, htext⟩
      · cases h
    · cases h
  · rintro ⟨text, rfl, htext⟩
    rw [singleChar?, htext]

/-- The characters of a match list are those of its literals, and it has no others. -/
theorem mem_of_mapM_singleChar? {ms : List Matcher} {chars : List Char}
    (h : ms.mapM Matcher.singleChar? = some chars) :
    (∀ c, c ∈ chars ↔ ∃ m ∈ ms, m.IsLiteralOf c) ∧ ∀ m ∈ ms, ∃ c, m.IsLiteralOf c := by
  induction ms generalizing chars with
  | nil =>
    cases h
    refine ⟨fun c => ⟨?_, ?_⟩, List.forall_mem_nil _⟩
    · exact fun hc => absurd hc List.not_mem_nil
    · exact fun ⟨m, hm, _⟩ => absurd hm List.not_mem_nil
  | cons m ms ih =>
    rw [List.mapM_cons] at h
    obtain ⟨c, hm, h⟩ := Option.bind_eq_some_iff.1 h
    obtain ⟨chars', hms, h⟩ := Option.bind_eq_some_iff.1 h
    cases h
    obtain ⟨hchars, hall⟩ := ih hms
    have hc := Matcher.singleChar?_eq_some_iff.1 hm
    refine ⟨fun x => ?_, List.forall_mem_cons.2 ⟨⟨c, hc⟩, hall⟩⟩
    rw [List.mem_cons, hchars]
    constructor
    · rintro (rfl | ⟨m', hm', hliteral⟩)
      · exact ⟨m, List.mem_cons_self, hc⟩
      · exact ⟨m', List.mem_cons_of_mem m hm', hliteral⟩
    · rintro ⟨m', hm', hliteral⟩
      rcases List.mem_cons.1 hm' with rfl | hm'
      · left
        rw [Matcher.singleChar?_eq_some_iff.2 hliteral] at hm
        exact Option.some.inj hm
      · exact .inr ⟨m', hm', hliteral⟩

/-! ## The table of single characters -/

/-- Characters have one rule each, also when more go in. -/
theorem nodup_addFast {fast : List (Char × RuleId)} (h : (fast.map Prod.fst).Nodup) (id : RuleId)
    (chars : List Char) : ((StateSoFar.addFast fast id chars).map Prod.fst).Nodup := by
  induction chars generalizing fast with
  | nil => exact h
  | cons c chars ih =>
    rw [StateSoFar.addFast, List.foldl_cons]
    apply ih
    by_cases hc : (fast.lookup c).isSome = true
    · rw [if_pos hc]
      exact h
    · rw [if_neg hc, List.map_append, List.nodup_append]
      refine ⟨h, List.pairwise_singleton _ _, ?_⟩
      intro x hx y hy heq
      apply hc
      have hxc : x = c := heq.trans (List.mem_singleton.1 hy)
      obtain ⟨q, hq, hqx⟩ := List.mem_map.1 hx
      rw [Option.isSome_iff_ne_none]
      intro hnone
      have := List.lookup_eq_none_iff.1 hnone q hq
      rw [hqx, hxc] at this
      simp at this

theorem nodup_tableOf (rules : List Rule) : ((tableOf rules).map Prod.fst).Nodup := by
  induction rules using List.reverseRecOn with
  | nil => exact List.nodup_nil
  | append_singleton rules r ih =>
    rw [tableOf_concat]
    exact nodup_addFast ih _ _

/-- With one rule for each character, every entry is found. -/
theorem lookup_of_mem {fast : List (Char × RuleId)} (h : (fast.map Prod.fst).Nodup) {c : Char}
    {id : RuleId} (hmem : (c, id) ∈ fast) : fast.lookup c = some id := by
  obtain ⟨front, back, rfl⟩ := List.append_of_mem hmem
  rw [List.map_append, List.map_cons, List.nodup_append] at h
  rw [List.lookup_eq_some_iff]
  refine ⟨front, back, rfl, ?_⟩
  intro q hq
  rw [bne_iff_ne]
  exact fun heq => h.2.2 q.1 (List.mem_map_of_mem hq) c List.mem_cons_self heq.symm

/-! ## Rules -/

/-- **A rule is well formed** in a table, for the declaration that it was compiled from. -/
structure Rule.WellFormed (r : Rule) (d : RuleDecl) (t : Table) : Prop where
  role : r.role = d.options.role
  /-- It has a pattern if the declaration has something to match. -/
  pattern : r.pattern = none ↔ d.options.matchers = []
  /-- It goes to the state that the declaration names. -/
  push : ∀ target, r.transition = .push target →
    ∃ name st, d.options.push = some name ∧ t.states[target]? = some st ∧ st.name = name
  next : ∀ target, r.transition = .next target →
    ∃ name st, d.options.next = some name ∧ t.states[target]? = some st ∧ st.name = name
  /-- It goes nowhere if there is nowhere to go. -/
  states : r.transition ≠ .stay → 2 ≤ t.states.length
  /-- For unmatched input it stays, and counts the lines that it passes. -/
  unmatched : r.role ≠ .ordinary → r.transition = .stay ∧ r.lineBreaks = true

theorem RuleDecl.wellFormed_of_compile {d : RuleDecl} {ctx : RuleContext} {r : Rule} {t : Table}
    (h : d.compile ctx = .ok r) (hnames : t.states.map (·.name) = ctx.stateNames) :
    r.WellFormed d t := by
  have hgives := compile_eq_ok h
  obtain ⟨htransition, hstay⟩ := transition_of_compile h
  have hcases := RuleOptions.transition_cases htransition
  have hlength : ctx.stateNames.length = t.states.length := by rw [← hnames, List.length_map]
  have hstate {target : StateId} {name : String} (hname : ctx.stateNames[target]? = some name) :
      ∃ st, t.states[target]? = some st ∧ st.name = name := by
    rw [← hnames, List.getElem?_map] at hname
    exact Option.map_eq_some_iff.1 hname
  refine ⟨hgives.role, ?_, ?_, ?_, ?_, ?_⟩
  · rcases pattern_eq_ok hgives.pattern with ⟨hnil, hp⟩ | ⟨p, hne, hp, _⟩
    · exact iff_of_true hp hnil
    · refine iff_of_false ?_ hne
      rw [hp]
      exact Option.some_ne_none p
  · intro target htarget
    rw [htarget] at hcases
    rcases hcases with h | ⟨_, ⟨name, _, h, hpush, hname⟩ | ⟨_, _, h, _⟩ | h⟩
    · cases h
    · cases h
      obtain ⟨st, hst, hstname⟩ := hstate hname
      exact ⟨name, st, hpush, hst, hstname⟩
    · cases h
    · cases h
  · intro target htarget
    rw [htarget] at hcases
    rcases hcases with h | ⟨_, ⟨_, _, h, _⟩ | ⟨name, _, h, hnext, hname⟩ | h⟩
    · cases h
    · cases h
    · cases h
      obtain ⟨st, hst, hstname⟩ := hstate hname
      exact ⟨name, st, hnext, hst, hstname⟩
    · cases h
  · intro hne
    rcases hcases with h | ⟨hlt, _⟩
    · exact absurd h hne
    · omega
  · intro hrole
    rw [hgives.role] at hrole
    have htakes := RuleOptions.takesUnmatched_of_role hrole
    refine ⟨hstay htakes, ?_⟩
    rw [hgives.lineBreaks, htakes, Bool.or_true]

/-! ## States -/

/-- **A state is well formed** in a table, for the declarations of its rules. -/
structure State.WellFormed (st : State) (decls : List RuleDecl) (t : Table) : Prop where
  length : st.rules.length = decls.length
  rules : ∀ (id : RuleId) (r : Rule), st.rules[id]? = some r →
    ∃ d, decls[id]? = some d ∧ r.WellFormed d t
  /-- At most one rule is for unmatched input, and the state knows which one. -/
  one : ∀ (i j : RuleId) (r r' : Rule), st.rules[i]? = some r → st.rules[j]? = some r' →
    r.role ≠ .ordinary → r'.role ≠ .ordinary → i = j
  unmatched : ∀ id : RuleId,
    (st.unmatched = .takeRest id ↔ ∃ r, st.rules[id]? = some r ∧ r.role = .error) ∧
    (st.unmatched = .takeGap id ↔ ∃ r, st.rules[id]? = some r ∧ r.role = .fallback) ∧
    (st.unmatched = .report ↔ ∀ r ∈ st.rules, r.role = .ordinary)
  /-- With a rule for gaps the table is empty. -/
  gaps : (∃ r ∈ st.rules, r.role = .fallback) → st.fast = []
  /-- A character of the table has one entry: the first rule with the literal of it. -/
  once : (st.fast.map Prod.fst).Nodup
  fast : ∀ (c : Char) (id : RuleId), (c, id) ∈ st.fast →
    (∃ d, decls[id]? = some d ∧ ∃ m ∈ d.options.matchers, m.IsLiteralOf c) ∧
    ∀ (j : RuleId) (d : RuleDecl), j < id → decls[j]? = some d →
      ∀ m ∈ d.options.matchers, ¬m.IsLiteralOf c
  /-- What is searched for are rules with something to match, in their order. -/
  ascending : (st.searched.map Prod.fst).Pairwise (· < ·)
  searched : ∀ id ∈ st.searched.map Prod.fst,
    ∃ d, decls[id]? = some d ∧ d.options.matchers ≠ []
  /-- The others are in front of them, and have nothing but literals of one character. -/
  unsearched : ∀ (id : RuleId) (d : RuleDecl), decls[id]? = some d → d.options.matchers ≠ [] →
    id ∉ st.searched.map Prod.fst →
      (∀ j ∈ st.searched.map Prod.fst, id < j) ∧ ∀ m ∈ d.options.matchers, ∃ c, m.IsLiteralOf c

namespace State

variable {st : State} {decls : List RuleDecl} {ctx : RuleContext} {front back : List Rule}

/-- A rule of a number and the declaration of that number belong together. -/
theorem Spec.rule_of_decl (h : st.Spec decls ctx) {id : RuleId} {d : RuleDecl}
    (hd : decls[id]? = some d) : ∃ r, st.rules[id]? = some r ∧ d.compile ctx = .ok r := by
  have hlt := (List.getElem?_eq_some_iff.1 hd).1
  rw [← length_of_mapM h.rules] at hlt
  obtain ⟨d', hd', hcompile⟩ := getElem?_of_mapM h.rules (List.getElem?_eq_getElem hlt)
  rw [hd] at hd'
  rw [← Option.some.inj hd'] at hcompile
  exact ⟨_, List.getElem?_eq_getElem hlt, hcompile⟩

/-- **A rule in front** has nothing but literals of one character, and goes by these. -/
theorem chars_of_front (hspec : st.Spec decls ctx)
    (hdivision : Division st.rules st.fast st.searched front back) {id : RuleId} {d : RuleDecl}
    (hlt : id < front.length) (hd : decls[id]? = some d) :
    (∀ c, (((front[id]).fastChars.getD []).contains c = true
      ↔ ∃ m ∈ d.options.matchers, m.IsLiteralOf c)) ∧
    ∀ m ∈ d.options.matchers, ∃ c, m.IsLiteralOf c := by
  obtain ⟨r, hr, hcompile⟩ := hspec.rule_of_decl hd
  have hfront : front[id] = r := by
    rw [hdivision.rules, List.getElem?_append_left hlt, List.getElem?_eq_getElem hlt] at hr
    exact Option.some.inj hr
  have hgives := RuleDecl.compile_eq_ok hcompile
  rw [hfront]
  rcases RuleDecl.pattern_eq_ok hgives.pattern with ⟨hnil, hp⟩ | ⟨p, _, hp, _⟩
  · -- A rule without a pattern has no characters either.
    have hnone : r.fastChars = none := by
      by_contra hne
      have hsome := RuleDecl.isSome_pattern_of_fastChars hcompile (Option.isSome_iff_ne_none.2 hne)
      rw [hp] at hsome
      cases hsome
    rw [hnone, hnil]
    simp
  · have hsome := hdivision.chars r (by rw [← hfront]; exact List.getElem_mem hlt) (by rw [hp]; rfl)
    obtain ⟨chars, hchars⟩ := Option.isSome_iff_exists.1 hsome
    rw [hgives.fastChars] at hchars
    obtain ⟨_, _, hsingle⟩ := RuleOptions.fastChars_eq_some hchars
    obtain ⟨hmem, hall⟩ := mem_of_mapM_singleChar? hsingle
    refine ⟨?_, hall⟩
    intro c
    rw [hgives.fastChars, hchars, Option.getD_some, List.contains_iff_mem]
    exact hmem c

/-- **A compiled state is well formed.** -/
theorem wellFormed_of_compile {t : Table} (h : compile decls ctx = .ok st)
    (hnames : t.states.map (·.name) = ctx.stateNames) : st.WellFormed decls t := by
  have hspec := compile_spec h
  obtain ⟨⟨front, back, hdivision, hfront⟩, hone⟩ := divided_of_compile h
  have hle : front.length ≤ decls.length := by
    rw [← length_of_mapM hspec.rules, hdivision.rules, List.length_append]
    exact Nat.le_add_right _ _
  refine ⟨length_of_mapM hspec.rules, ?_, ?_, hspec.unmatched_iff hone, ?_, ?_, ?_, ?_, ?_, ?_⟩
  · intro id r hr
    obtain ⟨d, hd, hcompile⟩ := getElem?_of_mapM hspec.rules hr
    exact ⟨d, hd, RuleDecl.wellFormed_of_compile hcompile hnames⟩
  · intro i j r r' hi hj hr hr'
    exact hone.eq hi hj hr hr'
  · rintro ⟨r, hr, hrole⟩
    rw [hdivision.fast, hfront (hspec.any_fallback hr hrole)]
    rfl
  · rw [hdivision.fast]
    exact nodup_tableOf front
  · intro c id hmem
    rw [hdivision.fast] at hmem
    have hlookup := lookup_of_mem (nodup_tableOf front) hmem
    rw [lookup_tableOf] at hlookup
    obtain ⟨hlt, hcontains, hbefore⟩ := List.findIdx?_eq_some_iff_getElem.1 hlookup
    refine ⟨?_, ?_⟩
    · have hd := List.getElem?_eq_getElem (Nat.lt_of_lt_of_le hlt hle)
      exact ⟨_, hd, ((chars_of_front hspec hdivision hlt hd).1 c).1 hcontains⟩
    · intro j d hj hd m hm hliteral
      have hjlt := Nat.lt_trans hj hlt
      exact hbefore j hj (((chars_of_front hspec hdivision hjlt hd).1 c).2 ⟨m, hm, hliteral⟩)
  · rw [hdivision.searched]
    exact pairwise_patternsFrom front.length back
  · intro id hid
    obtain ⟨_, r, hr, hp⟩ := hdivision.mem_searched_iff.1 hid
    obtain ⟨d, hd, hcompile⟩ := getElem?_of_mapM hspec.rules hr
    refine ⟨d, hd, ?_⟩
    intro hnil
    exact hp ((RuleDecl.wellFormed_of_compile hcompile hnames).pattern.2 hnil)
  · intro id d hd hne hnot
    obtain ⟨r, hr, hcompile⟩ := hspec.rule_of_decl hd
    have hp : r.pattern ≠ none := by
      intro hp
      exact hne ((RuleDecl.wellFormed_of_compile hcompile hnames).pattern.1 hp)
    have hlt : id < front.length := by
      by_contra hlen
      exact hnot (hdivision.mem_searched_iff.2 ⟨Nat.le_of_not_lt hlen, r, hr, hp⟩)
    refine ⟨?_, (chars_of_front hspec hdivision hlt hd).2⟩
    intro j hj
    exact Nat.lt_of_lt_of_le hlt (hdivision.mem_searched_iff.1 hj).1

end State

/-! ## Tables -/

/-- **A table is well formed** for a declared lexer. -/
structure Table.WellFormed (t : Table) (spec : LexerSpec) : Prop where
  names : t.states.map (·.name) = spec.states.map (·.name)
  distinct : (t.states.map (·.name)).Nodup
  /-- A name is known if it is that of a state, and leads to it. -/
  ids : ∀ (name : String) (id : StateId),
    t.stateId? name = some id ↔ ∃ st, t.states[id]? = some st ∧ st.name = name
  start : ∃ st, t.states[t.start]? = some st ∧ (spec.start = none → t.start = 0) ∧
    ∀ name, spec.start = some name → st.name = name
  /-- A state is compiled from its rules, those it takes over and the shared ones. -/
  states : ∀ (id : StateId) (st : State), t.states[id]? = some st →
    ∃ entries decls, spec.entryLists[id]? = some entries ∧
      EntryList.rules spec.entryLists entries = .ok decls ∧ st.WellFormed decls t

/-- **Every compiled table is well formed.** -/
theorem LexerSpec.table_wellFormed {spec : LexerSpec} {t : Table}
    (h : spec.compile = .ok t) : t.WellFormed spec := by
  have hspec := compile_spec h
  obtain ⟨_, _, hstates, hstart⟩ := compile_eq_ok h
  refine ⟨hspec.stateNames, by rw [hspec.stateNames]; exact hspec.nodup, ?_, ?_, ?_⟩
  · intro name id
    constructor
    · intro hid
      obtain ⟨hlt, heq, _⟩ := List.findIdx?_eq_some_iff_getElem.1 hid
      exact ⟨_, List.getElem?_eq_getElem hlt, beq_iff_eq.1 heq⟩
    · rintro ⟨st, hst, rfl⟩
      have hid := hspec.stateId?_name (List.getElem?_eq_some_iff.1 hst).1
      rw [Table.state_of_getElem? hst] at hid
      exact hid
  · refine ⟨_, Table.getElem?_state hspec.start, ?_, ?_⟩
    · intro hnone
      rw [hnone] at hstart
      exact hstart
    · intro name hname
      rw [hname] at hstart
      have hstart : (spec.states.map (·.name))[t.start]? = some name := hstart
      rw [← hspec.stateNames, List.getElem?_map, Table.getElem?_state hspec.start] at hstart
      exact Option.some.inj hstart
  · intro id st hst
    obtain ⟨entries, hentries, hcompile⟩ := getElem?_of_mapM hstates hst
    obtain ⟨decls, hdecls, hcompile⟩ := bind_eq_ok.1 hcompile
    exact ⟨entries, decls, hentries, hdecls,
      State.wellFormed_of_compile hcompile hspec.stateNames⟩

/-- A lexer with a rule that is shared, one that is taken over, and one for gaps. -/
def quotesLexer : LexerSpec where
  states := [
    { name := "code"
      rules := [
        ("sign", .list [.literal "+", .literal "-"]),
        ("quote", .options { matchers := [.literal "'"], push := some "quoted" })] },
    { name := "quoted"
      rules := [
        ("code", .splice "code"),
        ("text", .options { fallback := true })] }]
  shared := [("end", .options { matchers := [.literal "."], next := some "code" })]
  start := some "quoted"

/-- The second state takes over the rules of the first, and has no table. -/
theorem LexerSpec.table_wellFormed_quotes :
    ∃ t, quotesLexer.compile = .ok t ∧ t.WellFormed quotesLexer ∧ t.start = 1 ∧
      t.states.map (·.fast) = [[('+', 0), ('-', 0)], []] ∧
      t.states.map (fun st => st.searched.map Prod.fst) = [[1, 2], [0, 1, 3]] := by
  have hfacts : (quotesLexer.compile.toOption.map fun t =>
      (t.start, t.states.map (·.fast), t.states.map fun st => st.searched.map Prod.fst))
      = some (1, [[('+', 0), ('-', 0)], []], [[1, 2], [0, 1, 3]]) := by cbv
  obtain ⟨t, ht, hfacts⟩ := exists_ok_of_map hfacts
  rw [Prod.mk.injEq, Prod.mk.injEq] at hfacts
  obtain ⟨hstart, hfast, hsearched⟩ := hfacts
  exact ⟨t, ht, table_wellFormed ht, hstart, hfast, hsearched⟩

end StatefulLexer
