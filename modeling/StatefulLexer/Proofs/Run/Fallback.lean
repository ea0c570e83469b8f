/-
A gap, and the match behind it.

The match that ends a gap was found along with the gap, and waits until the gap has been
handed out. Until the next step the caller may feed the scanner and send it to other
states, and if the rule of the gap is ignored there is no time in between at all. What is
handed out then is the match as it was found: the rule is the one of the state that found
it, text and value are those it was measured on, and the transition is the one of its rule,
taken from the state where the scanner is by then.

Main statement: `fallback_scan`.
-/
import StatefulLexer.Proofs.Run.Sound
import StatefulLexer.Proofs.State.Fallback

set_option autoImplicit false

namespace StatefulLexer.Scanner

/-! ## While a match waits -/

/-- Calls that are not for an item feed the buffer, and leave the place and what waits
alone. -/
theorem run_place (s : Scanner) {calls : List Call} (h : Call.next ∉ calls) :
    (s.run calls).cursor = s.cursor.feed (calls.flatMap Call.fed) ∧
      (s.run calls).position = s.position ∧ (s.run calls).pending = s.pending ∧
      (s.run calls).table = s.table := by
  induction calls generalizing s with
  | nil =>
    refine ⟨?_, rfl, rfl, rfl⟩
    exact Cursor.ext_lists rfl (List.append_nil _).symm
  | cons c calls ih =>
    have hc : c ≠ .next := by
      intro hc
      apply h
      rw [hc]
      exact List.mem_cons_self
    obtain ⟨hcursor, hposition, hpending⟩ := s.call_place hc
    obtain ⟨hcursor', hposition', hpending', htable'⟩ :=
      ih (s.call c) fun hmem => h (List.mem_cons_of_mem c hmem)
    rw [run, List.flatMap_cons, hcursor', hposition', hpending', htable', hcursor]
    refine ⟨?_, hposition, hpending, s.table_call hc⟩
    exact Cursor.ext_lists rfl (List.append_assoc ..)

/-- The token of a match does not change when the buffer grows behind it. -/
theorem tokenOf_feed {s s' : Scanner} {more : List Char} (hcursor : s'.cursor = s.cursor.feed more)
    (hposition : s'.position = s.position) (htable : s'.table = s.table) {m : RuleMatch}
    {width : Nat} (hm : m.Measured s.cursor width) (state : StateId) :
    s'.tokenOf state m = s.tokenOf state m := by
  have hrule : s'.ruleOf state m = s.ruleOf state m := by rw [ruleOf, ruleOf, htable]
  have htext : s'.cursor.slice m.span = s.cursor.slice m.span := by
    rw [hcursor]
    exact hm.slice_feed more
  have hpassed : s'.cursor.slice ⟨s'.offset, m.span.stop⟩ = s.cursor.slice ⟨s.offset, m.span.stop⟩ := by
    have hspan : (⟨s.offset, m.span.stop⟩ : Span) = m.span := by
      rw [offset, ← hm.start]
    have hspan' : (⟨s'.offset, m.span.stop⟩ : Span) = m.span := by
      rw [← hspan, offset, hcursor]
      rfl
    rw [hspan, hspan', htext]
  have hvalue : m.value.map (fun span => String.ofList (s'.cursor.slice span))
      = m.value.map fun span => String.ofList (s.cursor.slice span) := by
    refine Option.map_congr fun v hv => ?_
    rw [hcursor, hm.slice_value_feed more hv]
  simp only [tokenOf, hrule, htext, hpassed, hvalue, hposition]

/-- A transition depends on the states alone. -/
theorem transit_congr {s s' : Scanner} (hstate : s.state = s'.state) (hstack : s.stack = s'.stack)
    (t : Transition) :
    (s.transit t).state = (s'.transit t).state ∧ (s.transit t).stack = (s'.transit t).stack := by
  cases t with
  | stay => exact ⟨hstate, hstack⟩
  | push target => exact ⟨rfl, by simp only [transit, hstate, hstack]⟩
  | next target => exact ⟨rfl, hstack⟩
  | pop =>
    simp only [transit, hstack]
    cases hs' : s'.stack with
    | nil => exact ⟨hstate, by rw [hstack, hs']⟩
    | cons target stack => exact ⟨rfl, rfl⟩

/-! ## The two steps -/

/-- **A gap is taken, and a match left waiting.** The gap is of a rule `r` of the state `id`,
and the scanner stays in its state. The call goes on if the rule is ignored. -/
structure LeavesWaiting (s : Scanner) (id : StateId) (gap q : RuleMatch) (r : Rule)
    (mid : Scanner) : Prop where
  pass : s.pass? = some (.consumed s id gap, mid)
  pending : mid.pending = [(id, q)]
  state : mid.state = s.state
  stack : mid.stack = s.stack
  offset : mid.offset = q.span.start
  handedOut : r.ignore = false → s.next = (some (.token (s.tokenOf id gap)), mid)
  ignored : r.ignore = true → s.next = mid.next

/-- **A match that was found before is taken,** with the rule `r` of the state `id` that
found it and the token that was `made` of it then. The transition starts from the present
state. -/
structure TakesNext (s : Scanner) (id : StateId) (q : RuleMatch) (r : Rule) (made : Token)
    (behind : Scanner) : Prop where
  pass : s.pass? = some (.consumed s id q, behind)
  rule : s.ruleOf id q = r
  token : s.tokenOf id q = made
  pending : behind.pending = []
  offset : behind.offset = q.span.stop
  state : behind.state = (s.transit r.transition).state
  stack : behind.stack = (s.transit r.transition).stack
  next : r.ignore = false → s.next = (some (.token made), behind)

/-- What waits alone is what is taken next. -/
theorem takesNext {s : Scanner} {id : StateId} {q : RuleMatch} (hpending : s.pending = [(id, q)])
    {width : Nat} (hq : q.Measured s.cursor width) :
    ∃ behind, s.TakesNext id q (s.ruleOf id q) (s.tokenOf id q) behind := by
  have hstep := step_of_pending hpending
  have hpass : s.pass? = some (.consumed s id q, { s with pending := [] }.consume id q) := by
    rw [pass?, hstep]
  have hplaced : s.WellPlaced := by
    refine ⟨by rw [hpending]; exact Nat.le_refl 1, ?_⟩
    intro q' hq'
    rw [hpending] at hq'
    rw [List.mem_singleton.1 hq', hq.span]
    exact ⟨_, s.cursor.comesNext_take width⟩
  -- The way to the end of the match leaves the states as they are.
  have hadvance : (({ s with pending := [] }.advance q.span.stop
        (s.ruleOf id q).lineBreaks).state = s.state) ∧
      ({ s with pending := [] }.advance q.span.stop (s.ruleOf id q).lineBreaks).stack = s.stack :=
    ⟨rfl, rfl⟩
  obtain ⟨hstate, hstack⟩ := transit_congr hadvance.1 hadvance.2 (s.ruleOf id q).transition
  refine ⟨_, hpass, rfl, rfl, ?_, ?_, hstate, hstack, ?_⟩
  · rw [consume, pending_transit]
    rfl
  · exact (pass?_passing hplaced hpass).offset
  · intro hignore
    exact nextWithin_of_handed_out hstep hignore

/-- **A step that finds a gap** takes it, and leaves the match behind it waiting. -/
theorem leavesWaiting {s : Scanner} (hpending : s.pending = []) (hend : s.cursor.atEnd = false)
    {decls : List RuleDecl} {ctx : RuleContext}
    (hst : State.compile decls ctx = .ok (s.table.state s.state)) {m q : RuleMatch}
    (hchoose : (s.table.state s.state).choose s.cursor = some (m, some q)) :
    ∃ mid width, s.LeavesWaiting s.state m q (s.ruleOf s.state m) mid ∧
      q.Measured mid.cursor width := by
  have hstep := step_of_choose hpending hend hchoose
  have hpass : s.pass? = some (.consumed s s.state m,
      { s with pending := [(s.state, q)] }.consume s.state m) := by
    rw [pass?, hstep]
    rfl
  have hpassing := pass?_passing (WellPlaced.of_nil hpending) hpass
  rcases State.choose_cases hchoose with ⟨_, h⟩ | ⟨_, _, h⟩ |
    ⟨k, q', hgap, hfound, _, hlt, hm, h⟩
  · cases h
  · cases h
  · cases h
    have hstay : (s.ruleOf s.state m).transition = .stay := (State.takeGap_of_compile hst hgap).2
    have hbehind : { s with pending := [(s.state, q)] }.consume s.state m
        = { s with pending := [(s.state, q)] }.advance m.span.stop
          (s.ruleOf s.state m).lineBreaks := by
      show Scanner.transit _ (s.ruleOf s.state m).transition = _
      rw [hstay]
      rfl
    have hstop : m.span.stop = (s.cursor.advance k).offset := by rw [hm]
    have hoffset : ({ s with pending := [(s.state, q)] }.consume s.state m).offset
        = m.span.stop := hpassing.offset
    obtain ⟨_, htext⟩ := State.matchAt?_comesNext hfound
    -- The gap is not empty, so a call has all its patience again behind it.
    have hleft : ({ s with pending := [(s.state, q)] }.consume s.state m).left < s.left := by
      apply hpassing.left_lt
      have hstart : m.span.start = s.cursor.offset := hpassing.next.start
      show m.span.start < m.span.stop
      rw [hstart, hstop]
      exact hlt
    obtain ⟨width, hwidth, hqueued⟩ := State.measured_of_choose hchoose
    obtain ⟨n, hn⟩ := hqueued q rfl
    refine ⟨_, n, ⟨hpass, ?_, ?_, ?_, ?_, ?_, ?_⟩, ?_⟩
    · rw [consume, pending_transit]
      rfl
    · rw [hbehind]
      rfl
    · rw [hbehind]
      rfl
    · rw [hoffset, hstop, htext.start]
    · intro hignore
      exact nextWithin_of_handed_out hstep hignore
    · intro hignore
      apply nextWithin_of_ignored hstep hignore
      exact if_pos hleft
    · rw [cursor_consume s s.state hwidth]
      exact hn

/-! ## Scanning for gaps -/

/-- **Scanning for gaps.** A state with a rule for gaps scans every place as one would by
hand: rule by rule, place by place. A match behind a gap waits for the gap to be taken, and
is then taken next, whatever was fed in between and to whatever state the scanner was sent.
It is of the rule of the state that found it, with the token that was made of it there. -/
theorem fallback_scan {spec : LexerSpec} {t : Table} (ht : spec.compile = .ok t) {id : StateId}
    {st : State} (hst : t.states[id]? = some st) (hfallback : ∃ r ∈ st.rules, r.role = .fallback) :
    ∃ (gap : RuleId) (rule : Rule), st.rules[gap]? = some rule ∧ rule.role = .fallback ∧
      (∀ c : Cursor, st.ScansByHand gap c) ∧
      ∀ (s : Scanner) (m q : RuleMatch), s.table = t → s.state = id → s.pending = [] →
        s.cursor.atEnd = false → st.choose s.cursor = some (m, some q) →
        ∃ mid r, s.LeavesWaiting id m q rule mid ∧ st.rules[q.rule]? = some r ∧
          ∀ calls : List Call, Call.next ∉ calls →
            ∃ behind, (mid.run calls).TakesNext id q r (mid.tokenOf id q) behind := by
  obtain ⟨decls, ctx, hcompile⟩ := LexerSpec.states_of_compile ht st (List.mem_of_getElem? hst)
  obtain ⟨rule, hmem, hrole⟩ := hfallback
  obtain ⟨gap, hrule⟩ := List.mem_iff_getElem?.1 hmem
  refine ⟨gap, rule, hrule, hrole, State.scansByHand hcompile hrule hrole, ?_⟩
  intro s m q htable hstate hpending hend hchoose
  have hsame : s.table.state s.state = st := by
    rw [htable, hstate]
    exact Table.state_of_getElem? hst
  rw [← hsame] at hcompile hchoose
  obtain ⟨mid, width, hleaves, hq⟩ := leavesWaiting hpending hend hcompile hchoose
  -- The gap is of the one rule that the state has for gaps.
  have hgap : s.ruleOf s.state m = rule := by
    have htake : st.unmatched = .takeGap gap := by
      rw [hsame] at hcompile
      exact (State.search_of_fallback hcompile hrule hrole s.cursor).1
    rcases State.choose_cases hchoose with ⟨_, h⟩ | ⟨_, _, h⟩ | ⟨_, _, h, _⟩
    · cases h
    · cases h
    · rw [hsame, htake] at h
      rw [ruleOf, hsame, ← Unmatched.takeGap.inj h]
      exact State.rule_of_getElem? hrule
  obtain ⟨r, hr⟩ := (State.exists_rule_of_choose hcompile hchoose).2 q rfl
  rw [hgap, hstate] at hleaves
  rw [hsame] at hr
  refine ⟨mid, r, hleaves, hr, ?_⟩
  intro calls hcalls
  obtain ⟨hcursor, hposition, hwaits, hkept⟩ := mid.run_place hcalls
  rw [hleaves.pending] at hwaits
  have hq' := hq.feed (calls.flatMap Call.fed)
  rw [← hcursor] at hq'
  obtain ⟨behind, hbehind⟩ := takesNext hwaits hq'
  have htoken : (mid.run calls).tokenOf id q = mid.tokenOf id q :=
    tokenOf_feed hcursor hposition hkept hq id
  have hof : (mid.run calls).ruleOf id q = r := by
    have hmid : mid.table = s.table := table_pass? hleaves.pass
    rw [ruleOf, hkept, hmid, htable, Table.state_of_getElem? hst]
    exact State.rule_of_getElem? hr
  rw [htoken, hof] at hbehind
  exact ⟨behind, hbehind⟩

/-- A lexer for text with notes in it. The text between the notes is passed over. -/
def notesLexer : LexerSpec where
  states := [
    { name := "text"
      rules := [
        ("note", .options { matchers := [.regex "<([a-z]+)>"], push := some "note" }),
        ("text", .options { fallback := true, ignore := true })] },
    { name := "note", rules := [("word", .regex "[a-z]+")] }]

/-- While a note waits behind the text, the buffer grows and the scanner is sent to the other
state, which has no such rule. -/
theorem fallback_scan_notes :
    ∃ t s mid rule r behind, notesLexer.compile = .ok t ∧ t.scanner "ab<cd>".toList = s ∧
      s.LeavesWaiting 0 { rule := 1, span := ⟨0, 2⟩ }
        { rule := 0, span := ⟨2, 6⟩, value := some ⟨3, 5⟩ } rule mid ∧
      (mid.run [.feed "e".toList, .setState "note"]).TakesNext 0
        { rule := 0, span := ⟨2, 6⟩, value := some ⟨3, 5⟩ } r
        (mid.tokenOf 0 { rule := 0, span := ⟨2, 6⟩, value := some ⟨3, 5⟩ }) behind := by
  have hfacts : (notesLexer.compile.toOption.map fun t => (t.start, t.states[0]?.map fun st =>
      (st.rules.any (·.role == .fallback), st.choose (Cursor.start "ab<cd>".toList))))
      = some (0, some (true, some ({ rule := 1, span := ⟨0, 2⟩ },
          some { rule := 0, span := ⟨2, 6⟩, value := some ⟨3, 5⟩ }))) := by cbv
  obtain ⟨t, ht, hfacts⟩ := exists_ok_of_map hfacts
  rw [Prod.mk.injEq] at hfacts
  obtain ⟨hstart, hfacts⟩ := hfacts
  obtain ⟨st, hst, hfacts⟩ := Option.map_eq_some_iff.1 hfacts
  rw [Prod.mk.injEq, List.any_eq_true] at hfacts
  obtain ⟨⟨r, hr, hrole⟩, hchoose⟩ := hfacts
  obtain ⟨_, rule, _, _, _, hscan⟩ := fallback_scan ht hst ⟨r, hr, beq_iff_eq.1 hrole⟩
  obtain ⟨mid, r, hleaves, _, hnext⟩ :=
    hscan (t.scanner "ab<cd>".toList) _ _ rfl hstart rfl rfl hchoose
  obtain ⟨behind, hbehind⟩ := hnext [.feed "e".toList, .setState "note"] (by simp)
  exact ⟨t, _, mid, rule, r, behind, ht, rfl, hleaves, hbehind⟩

end StatefulLexer.Scanner
