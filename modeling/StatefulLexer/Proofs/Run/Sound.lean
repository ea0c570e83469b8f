/-
Sound scanners.

A scanner keeps numbers that it uses without a check: the states it is and was in, and for
a match that waits its state, its rule and the ends of its spans. They were right when they
were found. Since then the buffer may have grown and the caller may have left the state.
What keeps them right is that the match carries its state with it, and that it was measured
on what comes next, which no one but the scanner itself takes away.

Main statements: `Reachable.sound`, `Sound.wellFormed`.
-/
import StatefulLexer.Proofs.Run.Waiting
import StatefulLexer.Proofs.State.Measured

set_option autoImplicit false

namespace StatefulLexer.Scanner

/-! ## The invariant -/

/-- **A scanner is sound** if its states are those of the table, and at most one match
waits, which is of a rule that exists and measured on what comes next. -/
structure Sound (s : Scanner) : Prop where
  inTable : s.InTable
  one : s.pending.length ≤ 1
  rule : ∀ q ∈ s.pending, ∃ st r, s.table.states[q.1]? = some st ∧ st.rules[q.2.rule]? = some r
  measured : ∀ q ∈ s.pending, ∃ width, q.2.Measured s.cursor width

/-- A scanner for which nothing waits is sound if its states are. -/
theorem Sound.of_nil {s : Scanner} (hs : s.InTable) (h : s.pending = []) : s.Sound := by
  refine ⟨hs, ?_, ?_, ?_⟩
  · rw [h]
    exact Nat.zero_le 1
  · rw [h]
    exact List.forall_mem_nil _
  · rw [h]
    exact List.forall_mem_nil _

/-- To consume a match is to move on by its characters. -/
theorem cursor_consume (s : Scanner) (state : StateId) {m : RuleMatch} {width : Nat}
    (h : m.Measured s.cursor width) (pending : List (StateId × RuleMatch)) :
    ({ s with pending }.consume state m).cursor = s.cursor.advance width := by
  have htext : s.cursor.ComesNext (s.cursor.ahead.take width) m.span := by
    rw [h.span]
    exact s.cursor.comesNext_take width
  have hpassed : s.cursor.slice ⟨s.offset, m.span.stop⟩ = s.cursor.ahead.take width :=
    htext.slice_from
  rw [consume, cursor_transit, ← s.cursor.advance_length_take width, ← hpassed]
  rfl

/-! ## Steps and calls -/

/-- **A step leaves a scanner sound.** What it leaves waiting was found by the state, and was
measured where the gap ends. -/
theorem Sound.pass {s behind : Scanner} (hs : s.Sound) {names : List String}
    (ht : s.table.Spec names) {p : Passage} (h : s.pass? = some (p, behind)) : behind.Sound := by
  rcases pass?_cases h with ⟨state, m, pending, hpending, _, rfl⟩ |
    ⟨m, queued, _, _, hchoose, _, rfl⟩ | ⟨hpending, _, _, _, rfl⟩
  · -- The match that waited was the only one.
    have hone := hs.one
    rw [hpending, List.length_cons] at hone
    apply Sound.of_nil (hs.inTable.consume ht ..)
    rw [consume, pending_transit]
    show pending = []
    exact List.length_eq_zero_iff.1 (by omega)
  · obtain ⟨width, hwidth, hqueued⟩ := State.measured_of_choose hchoose
    have hwaits : ({ s with pending := queued.toList.map fun q => (s.state, q) }.consume
        s.state m).pending = queued.toList.map fun q => (s.state, q) := by
      rw [consume, pending_transit]
      rfl
    refine ⟨hs.inTable.consume ht .., ?_, ?_, ?_⟩
    · rw [hwaits, List.length_map]
      cases queued <;> simp
    · intro q hq
      rw [hwaits] at hq
      obtain ⟨q', hq', rfl⟩ := List.mem_map.1 hq
      have hst := Table.getElem?_state hs.inTable.state
      obtain ⟨decls, ctx, _, hcompile⟩ := ht.states _ (List.mem_of_getElem? hst)
      obtain ⟨r, hr⟩ :=
        (State.exists_rule_of_choose hcompile hchoose).2 q' (Option.mem_toList.1 hq')
      refine ⟨s.table.state s.state, r, ?_, hr⟩
      rw [consume, table_transit]
      exact hst
    · intro q hq
      rw [hwaits] at hq
      obtain ⟨q', hq', rfl⟩ := List.mem_map.1 hq
      rw [cursor_consume s s.state hwidth]
      exact hqueued q' (Option.mem_toList.1 hq')
  · exact Sound.of_nil ⟨hs.inTable.state, hs.inTable.stack⟩ hpending

/-- **Calls that are not for an item** leave it sound: what waits stays as it was, and so
does the text it was measured on. -/
theorem Sound.call {s : Scanner} (hs : s.Sound) {c : Call} (hc : c ≠ .next) :
    (s.call c).Sound := by
  obtain ⟨hcursor, _, hpending⟩ := s.call_place hc
  refine ⟨hs.inTable.call hc, ?_, ?_, ?_⟩
  · rw [hpending]
    exact hs.one
  · rw [hpending, s.table_call hc]
    exact hs.rule
  · rw [hpending, hcursor]
    intro q hq
    obtain ⟨width, hwidth⟩ := hs.measured q hq
    exact ⟨width, hwidth.feed c.fed⟩

/-- **Every scanner that can be reached is sound.** -/
theorem Reachable.sound {spec : LexerSpec} {t : Table} (ht : spec.compile = .ok t) {s : Scanner}
    (hs : Reachable t s) : s.Sound ∧ s.table = t := by
  have hspec := LexerSpec.compile_spec ht
  have hkept := hs.keeps (P := fun s => s.Sound ∧ s.table = t) ?_ ?_ ?_
  · exact hkept.1
  · intro buffer base s hstart htable
    have hs : s.table.Spec (spec.states.map (·.name)) := by
      rw [htable]
      exact hspec
    exact ⟨.of_nil (hstart.inTable hs) hstart.spec.2.2, htable⟩
  · intro s p behind hs hpass
    have hs' : s.table.Spec (spec.states.map (·.name)) := by
      rw [hs.2]
      exact hspec
    exact ⟨hs.1.pass hs' hpass, (table_pass? hpass).trans hs.2⟩
  · intro s c hs hc
    exact ⟨hs.1.call hc, (s.table_call hc).trans hs.2⟩

/-! ## What is consumed -/

/-- The rule of a match exists, under the numbers of the match. -/
def HasRule (s : Scanner) (state : StateId) (m : RuleMatch) : Prop :=
  ∃ st r, s.table.states[state]? = some st ∧ st.rules[m.rule]? = some r

/-- **A step consumes a match of a rule that exists.** -/
theorem Sound.hasRule {s behind before : Scanner} (hs : s.Sound) {names : List String}
    (ht : s.table.Spec names) {state : StateId} {m : RuleMatch}
    (h : s.pass? = some (.consumed before state m, behind)) : before = s ∧ s.HasRule state m := by
  rcases pass?_cases h with ⟨_, _, _, hpending, hp, _⟩ | ⟨_, _, _, _, hchoose, hp, _⟩ |
    ⟨_, _, _, hp, _⟩
  · cases hp
    exact ⟨rfl, hs.rule (state, m) (hpending ▸ List.mem_cons_self)⟩
  · cases hp
    have hst := Table.getElem?_state hs.inTable.state
    obtain ⟨_, _, _, hcompile⟩ := ht.states _ (List.mem_of_getElem? hst)
    obtain ⟨⟨r, hr⟩, _⟩ := State.exists_rule_of_choose hcompile hchoose
    exact ⟨rfl, _, r, hst, hr⟩
  · cases hp

/-- **So does a call for an item,** in every round of it. -/
theorem Steps.hasRule {s last : Scanner} {ps : List Passage} (h : s.Steps ps last) (hs : s.Sound)
    {names : List String} (ht : s.table.Spec names) :
    ∀ before state m, .consumed before state m ∈ ps →
      before.table = s.table ∧ before.HasRule state m := by
  induction h with
  | nil s => exact nofun
  | @cons s mid last p ps hpass _ ih =>
    have htable : mid.table = s.table := table_pass? hpass
    have hspec : mid.table.Spec names := by
      rw [htable]
      exact ht
    intro before state m hmem
    rcases List.mem_cons.1 hmem with rfl | hmem
    · obtain ⟨rfl, hrule⟩ := hs.hasRule ht hpass
      exact ⟨rfl, hrule⟩
    · obtain ⟨hbefore, hrule⟩ := ih (hs.pass ht hpass) hspec before state m hmem
      exact ⟨hbefore.trans htable, hrule⟩

/-! ## In bytes -/

/-- **A match that waits is well formed:** it begins at the place, its ends and those of its
value are boundaries of the buffer in their order, and its rule exists. -/
structure WellFormedWaiting (s : Scanner) (state : StateId) (m : RuleMatch) : Prop where
  rule : ∃ st r, s.table.states[state]? = some st ∧ st.rules[m.rule]? = some r
  start : m.span.start = s.offset
  stop : m.span.stop ≤ byteSize s.buffer ∧ IsBoundary s.buffer m.span.stop
  value : ∀ v ∈ m.value, m.span.start ≤ v.start ∧ v.start ≤ v.stop ∧ v.stop ≤ m.span.stop ∧
    IsBoundary s.buffer v.start ∧ IsBoundary s.buffer v.stop

/-- **A scanner is well formed:** its place is a boundary of the buffer, its states exist,
and at most one match waits, which is well formed. -/
structure WellFormed (s : Scanner) : Prop where
  offset : s.offset ≤ byteSize s.buffer ∧ IsBoundary s.buffer s.offset
  state : s.state < s.table.states.length
  stack : ∀ id ∈ s.stack, id < s.table.states.length
  one : s.pending.length ≤ 1
  waiting : ∀ q ∈ s.pending, s.WellFormedWaiting q.1 q.2

/-- **A sound scanner is well formed.** -/
theorem Sound.wellFormed {s : Scanner} (hs : s.Sound) : s.WellFormed := by
  have hoffset : IsBoundary s.buffer s.offset :=
    ⟨s.cursor.behind.reverse, s.cursor.ahead, rfl, s.cursor.offset_eq_reverse⟩
  refine ⟨⟨hoffset.le, hoffset⟩, hs.inTable.state, hs.inTable.stack, hs.one, ?_⟩
  intro q hq
  obtain ⟨width, hwidth⟩ := hs.measured q hq
  obtain ⟨_, _, hstop⟩ := Span.exists_slice?_iff.1 ⟨_, hwidth.slice?_span⟩
  refine ⟨hs.rule q hq, hwidth.start, ⟨hstop.le, hstop⟩, ?_⟩
  intro v hv
  obtain ⟨hstart, hle, hend, hslice⟩ := hwidth.slice?_value hv
  obtain ⟨_, hvstart, hvstop⟩ := Span.exists_slice?_iff.1 hslice
  exact ⟨hstart, hle, hend, hvstart, hvstop⟩

end StatefulLexer.Scanner
