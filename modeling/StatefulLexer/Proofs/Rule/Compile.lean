/-
What a compiled rule is.

A declaration passes a number of checks and becomes a rule. What is known of the
rule afterwards is said here once: its pattern was read from the match list and
passed its own checks, and each of its options says one thing of it. A match list
of literals has a pattern that finds the first of them that comes next; if they
are single characters, the next character decides.

Main statements: `RuleDecl.compile_eq_ok`, `Rule.match?_of_fastChars`.
-/
import StatefulLexer.Proofs.Except
import StatefulLexer.Proofs.Regex.Spelling
import StatefulLexer.State

set_option autoImplicit false

namespace StatefulLexer

/-! ## Checks -/

/-- What a pattern was checked for. -/
structure Regex.Compiled.Checked (p : Regex.Compiled) (lineBreaks : Bool) : Prop where
  leastLength : p.expr.leastLength ≠ some 0
  captureCount : p.expr.captureCount ≤ 1
  newline : lineBreaks = false → p.matchesNewline = false

theorem Regex.Compiled.check_eq_ok {p : Regex.Compiled} {tokenType : String} {lineBreaks : Bool}
    (h : p.check tokenType lineBreaks = .ok ()) : p.Checked lineBreaks := by
  unfold Regex.Compiled.check at h
  dsimp only at h
  split at h
  · cases h
  · rename_i hlength
    split at h
    · cases h
    · rename_i hcount
      refine ⟨hlength, Nat.le_of_not_lt hcount, fun hlines => ?_⟩
      rw [hlines] at h
      rw [if_neg (by decide)] at h
      split at h
      · cases h
      · split at h
        · cases h
        · rename_i hnewline
          exact Bool.eq_false_iff.2 hnewline

/-- A rule with something to match has a checked pattern, read from its match list. -/
theorem RuleDecl.pattern_eq_ok {d : RuleDecl} {lineBreaks : Bool} {pattern : Option Regex.Compiled}
    (h : d.pattern lineBreaks = .ok pattern) :
    (d.options.matchers = [] ∧ pattern = none) ∨
      ∃ p, d.options.matchers ≠ [] ∧ pattern = some p ∧ patternOf d.options.matchers = .ok p ∧
        p.Checked lineBreaks := by
  unfold RuleDecl.pattern at h
  split at h
  · rename_i hempty
    cases h
    exact .inl ⟨List.isEmpty_iff.1 hempty, rfl⟩
  · rename_i hne
    have hne : d.options.matchers ≠ [] := fun hnil => hne (List.isEmpty_iff.2 hnil)
    obtain ⟨p, hp, h⟩ := bind_eq_ok.1 h
    obtain ⟨_, hcheck, h⟩ := bind_eq_ok.1 h
    cases h
    exact .inr ⟨p, hne, rfl, hp, Regex.Compiled.check_eq_ok hcheck⟩

/-- **What is known of a compiled rule.** -/
structure RuleDecl.Gives (d : RuleDecl) (r : Rule) : Prop where
  tokenType : r.tokenType = d.tokenType
  role : r.role = d.options.role
  lineBreaks : r.lineBreaks = (d.options.lineBreaks || d.options.takesUnmatched)
  pattern : d.pattern r.lineBreaks = .ok r.pattern
  fastChars : r.fastChars = d.options.fastChars r.transition
  hasValueGroup : r.hasValueGroup
    = (r.pattern.map fun p => p.expr.captureCount == 1).getD false

theorem RuleDecl.compile_eq_ok {d : RuleDecl} {ctx : RuleContext} {r : Rule}
    (h : d.compile ctx = .ok r) : d.Gives r := by
  unfold RuleDecl.compile at h
  dsimp only at h
  split at h
  · cases h
  · obtain ⟨transition, _, h⟩ := bind_eq_ok.1 h
    split at h
    · cases h
    · obtain ⟨pattern, hpattern, h⟩ := bind_eq_ok.1 h
      cases h
      exact ⟨rfl, rfl, rfl, hpattern, rfl, rfl⟩

/-- The pattern of a compiled rule was read from its matchers, and was checked. -/
theorem RuleDecl.patternOf_of_compile {d : RuleDecl} {ctx : RuleContext} {r : Rule}
    (h : d.compile ctx = .ok r) {p : Regex.Compiled} (hp : r.pattern = some p) :
    d.options.matchers ≠ [] ∧ patternOf d.options.matchers = .ok p ∧ p.Checked r.lineBreaks := by
  have hgives := RuleDecl.compile_eq_ok h
  rcases RuleDecl.pattern_eq_ok hgives.pattern with ⟨_, hnone⟩ | ⟨p', hne, hsome, hread, hchecked⟩
  · rw [hp] at hnone
    cases hnone
  · rw [hp] at hsome
    cases hsome
    exact ⟨hne, hread, hchecked⟩

/-- **The pattern of a compiled rule** was read from a text, and was checked. The rule has a
group for its value if there is one in the pattern. -/
theorem RuleDecl.ofText_of_compile {d : RuleDecl} {ctx : RuleContext} {r : Rule}
    (h : d.compile ctx = .ok r) {p : Regex.Compiled} (hp : r.pattern = some p) :
    ∃ text, Regex.Compiled.ofText text = .ok p ∧ p.Checked r.lineBreaks ∧
      r.hasValueGroup = (p.expr.captureCount == 1) := by
  obtain ⟨_, hread, hchecked⟩ := RuleDecl.patternOf_of_compile h hp
  obtain ⟨texts, _, htext⟩ := bind_eq_ok.1 hread
  refine ⟨_, mapError_eq_ok.1 htext, hchecked, ?_⟩
  rw [(RuleDecl.compile_eq_ok h).hasValueGroup, hp]
  rfl

/-! ## Transitions -/

/-- The state that a transition leads to, unless it stays or goes back. -/
def Transition.target? : Transition → Option StateId
  | .push target | .next target => some target
  | .stay | .pop => none

/-- The transition of a compiled rule is the one of its options. A rule for unmatched input
has none. -/
theorem RuleDecl.transition_of_compile {d : RuleDecl} {ctx : RuleContext} {r : Rule}
    (h : d.compile ctx = .ok r) :
    d.options.transition d.tokenType ctx = .ok r.transition ∧
      (d.options.takesUnmatched = true → r.transition = .stay) := by
  unfold RuleDecl.compile at h
  dsimp only at h
  split at h
  · cases h
  · obtain ⟨transition, htransition, h⟩ := bind_eq_ok.1 h
    split at h
    · cases h
    · rename_i htakes
      obtain ⟨pattern, _, h⟩ := bind_eq_ok.1 h
      cases h
      exact ⟨htransition, fun h => Classical.byContradiction fun hne => htakes ⟨h, hne⟩⟩

/-- The number of the state of that name, or an error. -/
def RuleContext.lookup (ctx : RuleContext) (name : String) (e : LexError) :
    Except LexError StateId :=
  match ctx.stateId? name with
  | some id => .ok id
  | none => .error e

theorem RuleContext.map_lookup_eq_ok {ctx : RuleContext} {name : String} {e : LexError}
    {make : StateId → Transition} {transition : Transition} :
    (ctx.lookup name e).map make = .ok transition ↔
      ∃ id, ctx.stateId? name = some id ∧ transition = make id := by
  unfold lookup
  cases ctx.stateId? name with
  | none =>
    refine iff_of_false ?_ ?_
    · intro h
      cases h
    · rintro ⟨_, h, _⟩
      cases h
  | some id =>
    constructor
    · intro h
      exact ⟨id, rfl, (Except.ok.inj h).symm⟩
    · rintro ⟨_, hid, rfl⟩
      rw [Option.some.inj hid]
      rfl

/-- **The transition of options:** none, or one of three kinds where there are states to go
to. It leads to the state that the options name. -/
theorem RuleOptions.transition_cases {o : RuleOptions} {tokenType : String} {ctx : RuleContext}
    {transition : Transition} (h : o.transition tokenType ctx = .ok transition) :
    transition = .stay ∨
      (1 < ctx.stateNames.length ∧
        ((∃ name target, transition = .push target ∧ o.push = some name ∧
            ctx.stateNames[target]? = some name) ∨
          (∃ name target, transition = .next target ∧ o.next = some name ∧
            ctx.stateNames[target]? = some name) ∨
          transition = .pop)) := by
  -- A name that is looked up is that of the state it leads to.
  have lookup {name : String} {make : StateId → Transition} {e : LexError}
      (h : (ctx.lookup name e).map make = .ok transition) :
      ∃ target, transition = make target ∧ ctx.stateNames[target]? = some name := by
    obtain ⟨target, hname, htransition⟩ := RuleContext.map_lookup_eq_ok.1 h
    obtain ⟨hlt, heq, _⟩ := List.findIdx?_eq_some_iff_getElem.1 hname
    refine ⟨target, htransition, ?_⟩
    rw [List.getElem?_eq_getElem hlt, beq_iff_eq.1 heq]
  unfold RuleOptions.transition at h
  dsimp only at h
  split at h
  · exact .inl (Except.ok.inj h).symm
  · split at h
    · cases h
    · rename_i hstates
      have hstates : 1 < ctx.stateNames.length := by simpa [RuleContext.hasStates] using hstates
      split at h
      · cases h
      · split at h
        · rename_i name hpush
          obtain ⟨target, htransition, hname⟩ := lookup h
          exact .inr ⟨hstates, .inl ⟨name, target, htransition, hpush, hname⟩⟩
        · rename_i name hpush hnext
          obtain ⟨target, htransition, hname⟩ := lookup h
          exact .inr ⟨hstates, .inr (.inl ⟨name, target, htransition, hnext, hname⟩)⟩
        · exact .inr ⟨hstates, .inr (.inr (Except.ok.inj h).symm)⟩
        · cases h

/-- **A transition leads to a state of the lexer.** -/
theorem RuleOptions.target_lt {o : RuleOptions} {tokenType : String} {ctx : RuleContext}
    {transition : Transition} (h : o.transition tokenType ctx = .ok transition) :
    ∀ id ∈ transition.target?, id < ctx.stateNames.length := by
  intro id hid
  rcases transition_cases h with rfl | ⟨_, ⟨_, _, rfl, _, hname⟩ | ⟨_, _, rfl, _, hname⟩ | rfl⟩
  · cases hid
  · cases hid
    exact (List.getElem?_eq_some_iff.1 hname).1
  · cases hid
    exact (List.getElem?_eq_some_iff.1 hname).1
  · cases hid

/-- A rule that is not for ordinary input takes unmatched input. -/
theorem RuleOptions.takesUnmatched_of_role {o : RuleOptions} (h : o.role ≠ .ordinary) :
    o.takesUnmatched = true := by
  unfold RuleOptions.role at h
  unfold RuleOptions.takesUnmatched
  cases herror : o.error <;> cases hfallback : o.fallback <;> simp_all

/-! ## Literals -/

/-- The text of a literal. -/
def Matcher.text? : Matcher → Option (List Char)
  | literal text => some text.toList
  | regex _ => none

/-- Literals are spelled, each in a group. -/
theorem mapM_toPattern {ms : List Matcher} {texts : List (List Char)}
    (h : ms.mapM Matcher.text? = some texts) :
    ms.mapM Matcher.toPattern
      = .ok (texts.map fun text => Regex.grouped (Regex.escapeText text)) := by
  induction ms generalizing texts with
  | nil =>
    cases h
    rfl
  | cons m ms ih =>
    rw [List.mapM_cons] at h ⊢
    obtain ⟨text, hm, h⟩ := Option.bind_eq_some_iff.1 h
    obtain ⟨texts', hms, h⟩ := Option.bind_eq_some_iff.1 h
    cases h
    cases m with
    | regex pattern => cases hm
    | literal text =>
      cases hm
      rw [ih hms]
      rfl

/-- **A match list of literals** finds the first of them that comes next. -/
theorem match?_of_literals {ms : List Matcher} {texts : List (List Char)}
    (htexts : ms.mapM Matcher.text? = some texts) (hne : ms ≠ []) {p : Regex.Compiled}
    (hp : patternOf ms = .ok p) (behind ahead : List Char) :
    p.expr.match? behind ahead = Regex.foundAmong texts ahead := by
  have htexts_ne : texts ≠ [] := by
    intro hnil
    cases ms with
    | nil => exact hne rfl
    | cons m ms =>
      rw [List.mapM_cons] at htexts
      obtain ⟨text, _, h⟩ := Option.bind_eq_some_iff.1 htexts
      obtain ⟨texts', _, h⟩ := Option.bind_eq_some_iff.1 h
      rw [hnil] at h
      cases h
  obtain ⟨q, hq, hmatch⟩ := Regex.ofText_unionOf_verbatim htexts_ne
  obtain ⟨patterns, hpatterns, hp⟩ := bind_eq_ok.1 hp
  rw [mapM_toPattern htexts] at hpatterns
  cases hpatterns
  dsimp only at hp
  rw [hq] at hp
  cases hp
  exact hmatch behind ahead

/-! ## Single characters -/

/-- Literals of one character are literals. -/
theorem mapM_text?_of_singleChar? {ms : List Matcher} {chars : List Char}
    (h : ms.mapM Matcher.singleChar? = some chars) :
    ms.mapM Matcher.text? = some (chars.map fun c => [c]) := by
  induction ms generalizing chars with
  | nil =>
    cases h
    rfl
  | cons m ms ih =>
    rw [List.mapM_cons] at h ⊢
    obtain ⟨c, hm, h⟩ := Option.bind_eq_some_iff.1 h
    obtain ⟨chars', hms, h⟩ := Option.bind_eq_some_iff.1 h
    cases h
    have htext : m.text? = some [c] := by
      unfold Matcher.singleChar? at hm
      split at hm
      · split at hm
        · rename_i heq
          cases hm
          exact congrArg some heq
        · cases hm
      · cases hm
    rw [htext, ih hms]
    rfl

/-- A rule that goes by the next character alone has a match list of single characters,
and does not stand in for unmatched input. -/
theorem RuleOptions.fastChars_eq_some {o : RuleOptions} {t : Transition} {chars : List Char}
    (h : o.fastChars t = some chars) :
    o.takesUnmatched = false ∧ o.matchers ≠ [] ∧ o.matchers.mapM Matcher.singleChar? = some chars := by
  unfold RuleOptions.fastChars at h
  split at h
  · rename_i hconditions
    obtain ⟨_, htakes, _, _, hmatchers⟩ := hconditions
    rw [Bool.not_eq_true'] at htakes
    refine ⟨htakes, fun hnil => ?_, h⟩
    rw [hnil] at hmatchers
    cases hmatchers
  · cases h

/-- **The next character decides** for a rule of single characters: it is matched if it is
one of those of the rule. -/
theorem Rule.match?_of_fastChars {d : RuleDecl} {ctx : RuleContext} {r : Rule}
    (h : d.compile ctx = .ok r) {chars : List Char} (hchars : r.fastChars = some chars)
    (id : RuleId) (c : Cursor) :
    r.match? id c = if c.ahead.head?.any chars.contains
      then some { rule := id, span := c.spanAhead 0 1 } else none := by
  have hgives := RuleDecl.compile_eq_ok h
  rw [hgives.fastChars] at hchars
  obtain ⟨_, hne, hsingle⟩ := RuleOptions.fastChars_eq_some hchars
  rcases RuleDecl.pattern_eq_ok hgives.pattern with ⟨hnil, _⟩ | ⟨p, _, hpattern, hp, _⟩
  · exact absurd hnil hne
  · have hmatch := match?_of_literals (mapM_text?_of_singleChar? hsingle) hne hp c.behind c.ahead
    rw [Regex.foundAmong_singletons] at hmatch
    rw [Rule.match?, hpattern, Option.bind_some, hmatch]
    split
    · rw [Option.map_some, Rule.matchOf]
      -- Nothing was captured, whether or not the rule has a group for its value.
      split <;> rfl
    · rfl

end StatefulLexer
