/-
The place of a scanner along a run.

A match is consumed by its span, which was measured when it was found. In between
the match may have waited behind a gap while the buffer grew and the caller
changed the state. The invariant is `WellPlaced`: at most one match waits, and
the text it was found for is what comes next. Under it a step does one thing to
the place, said once in `Passing`: it moves on by the text it passes.

Main statement: `pass?_passing`.
-/
import StatefulLexer.Proofs.Except
import StatefulLexer.Proofs.Run
import StatefulLexer.Proofs.State.Place

set_option autoImplicit false

namespace StatefulLexer.Scanner

/-! ## What a transition leaves alone -/

@[simp] theorem cursor_transit (s : Scanner) (t : Transition) : (s.transit t).cursor = s.cursor := by
  unfold transit
  split <;> try rfl
  split <;> rfl

@[simp] theorem position_transit (s : Scanner) (t : Transition) :
    (s.transit t).position = s.position := by
  unfold transit
  split <;> try rfl
  split <;> rfl

@[simp] theorem pending_transit (s : Scanner) (t : Transition) :
    (s.transit t).pending = s.pending := by
  unfold transit
  split <;> try rfl
  split <;> rfl

@[simp] theorem table_transit (s : Scanner) (t : Transition) : (s.transit t).table = s.table := by
  unfold transit
  split <;> try rfl
  split <;> rfl

/-! ## The invariant -/

/-- **A scanner is well placed** if at most one match waits, and what it was found
for comes next. -/
structure WellPlaced (s : Scanner) : Prop where
  one : s.pending.length ≤ 1
  next : ∀ q ∈ s.pending, ∃ text, s.cursor.ComesNext text q.2.span

/-- A scanner for which nothing waits is well placed. -/
theorem WellPlaced.of_nil {s : Scanner} (h : s.pending = []) : s.WellPlaced where
  one := by rw [h]; exact Nat.zero_le 1
  next q hq := by rw [h] at hq; cases hq

/-- **A passage, as far as the place goes.** The text comes next, its span is where
it stands, and the scanner moves on behind it. -/
structure Passing (s : Scanner) (p : Passage) (behind : Scanner) : Prop where
  before : p.before = s
  next : s.cursor.ComesNext p.text p.span
  cursor : behind.cursor = s.cursor.advance p.text.length
  position : behind.position = s.position.after p.countsLines p.text
  table : behind.table = s.table
  wellPlaced : behind.WellPlaced

/-- The scanner is then behind the span. -/
theorem Passing.offset {s behind : Scanner} {p : Passage} (h : s.Passing p behind) :
    behind.offset = p.span.stop := by
  rw [Scanner.offset, h.cursor, h.next.offset]

/-- What lay ahead is what was passed, and what lies ahead now. -/
theorem Passing.ahead {s behind : Scanner} {p : Passage} (h : s.Passing p behind) :
    s.cursor.ahead = p.text ++ behind.cursor.ahead := by
  obtain ⟨rest, hrest⟩ := h.next.begins
  rw [h.cursor, Cursor.ahead_advance, ← hrest, List.drop_left]

/-- A passage that is not empty leaves less ahead. -/
theorem Passing.left_lt {s behind : Scanner} {p : Passage} (h : s.Passing p behind)
    (hspan : p.span.start < p.span.stop) : behind.left < s.left := by
  have hne : p.text ≠ [] := by
    intro hnil
    have hstop := h.next.stop
    rw [hnil, byteSize_nil, Nat.add_zero, ← h.next.start] at hstop
    exact absurd hstop (Nat.ne_of_gt hspan)
  have hlength := List.length_pos_iff.2 hne
  rw [left, left, h.ahead, List.length_append]
  omega

/-! ## Steps -/

/-- To consume a match is to move on by its text, whatever waits in the meantime. -/
theorem passing_consume (s : Scanner) (state : StateId) (m : RuleMatch)
    (pending : List (StateId × RuleMatch)) {text : List Char}
    (htext : s.cursor.ComesNext text m.span) (hone : pending.length ≤ 1)
    (hnext : ∀ q ∈ pending, ∃ more, (s.cursor.advance text.length).ComesNext more q.2.span) :
    s.Passing (.consumed s state m) ({ s with pending }.consume state m) := by
  have hslice : (Passage.consumed s state m).text = text := htext.slice
  have hpassed : s.cursor.slice ⟨s.offset, m.span.stop⟩ = text := htext.slice_from
  have hcursor : ({ s with pending }.consume state m).cursor = s.cursor.advance text.length := by
    rw [consume, cursor_transit, ← hpassed]
    rfl
  have hposition : ({ s with pending }.consume state m).position
      = s.position.after (s.ruleOf state m).lineBreaks text := by
    rw [consume, position_transit, ← hpassed]
    rfl
  have hpending : ({ s with pending }.consume state m).pending = pending := by
    rw [consume, pending_transit]
    rfl
  refine ⟨rfl, ?_, ?_, ?_, ?_, ?_, ?_⟩
  · rw [hslice]
    exact htext
  · rw [hslice, hcursor]
  · rw [hslice, hposition]
    rfl
  · rw [consume, table_transit]
    rfl
  · rw [hpending]
    exact hone
  · rw [hpending, hcursor]
    exact hnext

/-- To skip the rest is to move on to the end. -/
theorem passing_skip (s : Scanner) (hs : s.pending = []) :
    s.Passing (.skipped s) (s.advance s.cursor.finish true) := by
  have hslice : (Passage.skipped s).text = s.cursor.ahead := s.cursor.comesNext_ahead.slice
  have hpassed : s.cursor.slice ⟨s.offset, s.cursor.finish⟩ = s.cursor.ahead :=
    s.cursor.comesNext_ahead.slice
  refine ⟨rfl, ?_, ?_, ?_, rfl, WellPlaced.of_nil hs⟩
  · rw [hslice]
    exact s.cursor.comesNext_ahead
  · rw [advance, hpassed, hslice]
  · rw [advance, hpassed, hslice]
    rfl

/-- **A step passes what comes next,** and moves on behind it. -/
theorem pass?_passing {s behind : Scanner} {p : Passage} (hs : s.WellPlaced)
    (h : s.pass? = some (p, behind)) : s.Passing p behind := by
  rcases pass?_cases h with ⟨state, m, pending, hpending, rfl, rfl⟩ |
    ⟨m, queued, _, _, hchoose, rfl, rfl⟩ | ⟨hpending, _, _, rfl, rfl⟩
  · -- A match waits, and it is the only one.
    have hone := hs.one
    rw [hpending, List.length_cons] at hone
    have hnil : pending = [] := List.length_eq_zero_iff.1 (by omega)
    obtain ⟨text, htext⟩ := hs.next (state, m) (by rw [hpending]; exact List.mem_cons_self)
    subst hnil
    exact s.passing_consume state m [] htext (Nat.zero_le 1) fun q hq => by cases hq
  · obtain ⟨text, htext, hqueued⟩ := State.choose_comesNext hchoose
    refine s.passing_consume s.state m _ htext ?_ ?_
    · cases queued <;> simp
    · intro q hq
      obtain ⟨q', hq', rfl⟩ := List.mem_map.1 hq
      exact hqueued q' (Option.mem_toList.1 hq')
  · exact s.passing_skip hpending

/-- A passage is kept with the scanner in front of it. -/
theorem before_of_pass? {s behind : Scanner} {p : Passage} (h : s.pass? = some (p, behind)) :
    p.before = s := by
  rcases pass?_cases h with ⟨_, _, _, _, rfl, _⟩ | ⟨_, _, _, _, _, rfl, _⟩ | ⟨_, _, _, rfl, _⟩
  · rfl
  · rfl
  · rfl

/-- No step changes the table. -/
theorem table_pass? {s behind : Scanner} {p : Passage} (h : s.pass? = some (p, behind)) :
    behind.table = s.table := by
  rcases pass?_cases h with ⟨state, m, pending, _, _, rfl⟩ | ⟨m, queued, _, _, _, _, rfl⟩ |
    ⟨_, _, _, _, rfl⟩
  · rw [consume, table_transit]
    rfl
  · rw [consume, table_transit]
    rfl
  · rfl

/-! ## Other calls -/

/-- A call that is not for an item leaves the place where it is. -/
theorem call_place (s : Scanner) {c : Call} (hc : c ≠ .next) :
    (s.call c).cursor = s.cursor.feed c.fed ∧ (s.call c).position = s.position ∧
      (s.call c).pending = s.pending := by
  have hfeed : s.cursor.feed [] = s.cursor := Cursor.ext_lists rfl (List.append_nil _)
  cases c with
  | next => exact absurd rfl hc
  | feed text => exact ⟨rfl, rfl, rfl⟩
  | popState =>
    have hfed : Call.popState.fed = [] := rfl
    rw [call, popState, hfed, hfeed]
    exact ⟨cursor_transit .., position_transit .., pending_transit ..⟩
  | setState name =>
    have hfed : (Call.setState name).fed = [] := rfl
    rw [call, setState, hfed, hfeed]
    cases s.resolve name with
    | error e => exact ⟨rfl, rfl, rfl⟩
    | ok id =>
      exact ⟨s.cursor_transit (.next id), s.position_transit (.next id), s.pending_transit (.next id)⟩
  | pushState name =>
    have hfed : (Call.pushState name).fed = [] := rfl
    rw [call, pushState, hfed, hfeed]
    cases s.resolve name with
    | error e => exact ⟨rfl, rfl, rfl⟩
    | ok id =>
      exact ⟨s.cursor_transit (.push id), s.position_transit (.push id), s.pending_transit (.push id)⟩

/-- No call changes the table. -/
theorem table_call (s : Scanner) {c : Call} (hc : c ≠ .next) : (s.call c).table = s.table := by
  cases c with
  | next => exact absurd rfl hc
  | feed text => rfl
  | popState => exact s.table_transit .pop
  | setState name =>
    rw [call, setState]
    cases s.resolve name with
    | error e => rfl
    | ok id => exact s.table_transit (.next id)
  | pushState name =>
    rw [call, pushState]
    cases s.resolve name with
    | error e => rfl
    | ok id => exact s.table_transit (.push id)

/-- Calls that are not for an item keep the invariant: what waits still comes next. -/
theorem WellPlaced.call {s : Scanner} (hs : s.WellPlaced) {c : Call} (hc : c ≠ .next) :
    (s.call c).WellPlaced := by
  obtain ⟨hcursor, _, hpending⟩ := s.call_place hc
  refine ⟨?_, ?_⟩
  · rw [hpending]
    exact hs.one
  · intro q hq
    rw [hpending] at hq
    obtain ⟨text, htext⟩ := hs.next q hq
    rw [hcursor]
    exact ⟨text, htext.feed c.fed⟩

/-! ## Where runs begin -/

/-- At the start of a buffer nothing lies behind, nothing waits, and the position is
the one that the scanner was given. -/
theorem Starts.spec {buffer : List Char} {base : Position} {s : Scanner}
    (h : Starts buffer base s) :
    s.cursor = Cursor.start buffer ∧ s.position = base ∧ s.pending = [] := by
  cases h with
  | new t => exact ⟨rfl, rfl, rfl⟩
  | @reset s₀ _ saved h =>
    cases saved with
    | none =>
      cases h
      exact ⟨rfl, rfl, rfl⟩
    | some p =>
      obtain ⟨state, _, h⟩ := bind_eq_ok.1 h
      obtain ⟨stack, _, h⟩ := bind_eq_ok.1 h
      cases h
      exact ⟨rfl, rfl, rfl⟩

end StatefulLexer.Scanner
