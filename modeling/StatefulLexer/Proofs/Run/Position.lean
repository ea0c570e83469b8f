/-
The position of a scanner along a run.

The position is moved on with every match, by the rule of the match: a rule that
does not declare line breaks takes a newline for an ordinary character. As long
as no such rule matches a newline, the position is the one that is counted over
the buffer. That condition is on the run and not on the rules, since a rule may
match newlines that never occur.

Main statement: `position_exact`.
-/
import StatefulLexer.Proofs.Run.Partition
import StatefulLexer.Proofs.Text.Position

set_option autoImplicit false

namespace StatefulLexer

/-- **The position is exact** for a place in a buffer: it is the one that is counted
over the text up to there. -/
def Position.Exact (base : Position) (buffer : List Char) (offset : Nat) (p : Position) : Prop :=
  ∃ front, Span.slice? buffer ⟨0, offset⟩ = some front ∧ p = base.counted front

/-- What lies behind a cursor is the slice up to its offset, also in a buffer that
goes on. -/
theorem Cursor.slice?_behind (c : Cursor) (more : List Char) :
    Span.slice? (c.text ++ more) ⟨0, c.offset⟩ = some c.behind.reverse := by
  have h := Span.slice?_append [] c.behind.reverse (c.ahead ++ more)
  rw [byteSize_nil, Nat.zero_add, ← c.offset_eq_reverse, List.nil_append, ← List.append_assoc] at h
  exact h

/-- Every newline that is passed is counted. -/
def Passage.CountsNewlines (p : Passage) : Prop := '\n' ∈ p.text → p.countsLines = true

instance (p : Passage) : Decidable p.CountsNewlines :=
  inferInstanceAs (Decidable ('\n' ∈ p.text → p.countsLines = true))

namespace Scanner

/-! ## The invariant -/

/-- **A scanner is in position** if its position is counted over what lies behind. -/
structure InPosition (base : Position) (s : Scanner) : Prop where
  wellPlaced : s.WellPlaced
  position : s.position = base.counted s.cursor.behind.reverse

/-- A scanner in position is at an exact position of its buffer, and of every buffer
that goes on from there. -/
theorem InPosition.exact {base : Position} {s : Scanner} (h : s.InPosition base)
    (more : List Char) : base.Exact (s.buffer ++ more) s.offset s.position :=
  ⟨_, s.cursor.slice?_behind more, h.position⟩

/-- At the start of a buffer a scanner is in position. -/
theorem Starts.inPosition {buffer : List Char} {base : Position} {s : Scanner}
    (h : Starts buffer base s) : s.InPosition base := by
  obtain ⟨hcursor, hposition, hpending⟩ := h.spec
  refine ⟨.of_nil hpending, ?_⟩
  rw [hcursor, hposition]
  rfl

/-- A step that counts its newlines keeps a scanner in position. -/
theorem InPosition.pass {base : Position} {s behind : Scanner} {p : Passage}
    (h : s.InPosition base) (hpass : s.pass? = some (p, behind)) (hp : p.CountsNewlines) :
    behind.InPosition base := by
  have hpassing := pass?_passing h.wellPlaced hpass
  refine ⟨hpassing.wellPlaced, ?_⟩
  rw [hpassing.position, Position.after_congr _ hp, Position.after_eq_counted, h.position,
    hpassing.cursor, hpassing.next.behind, List.reverse_append, List.reverse_reverse,
    Position.counted_append]

/-- A call that is not for an item keeps a scanner in position. -/
theorem InPosition.call {base : Position} {s : Scanner} (h : s.InPosition base) {c : Call}
    (hc : c ≠ .next) : (s.call c).InPosition base := by
  obtain ⟨hcursor, hposition, _⟩ := s.call_place hc
  refine ⟨h.wellPlaced.call hc, ?_⟩
  rw [hposition, h.position, hcursor]
  rfl

/-- **A run whose newlines are counted keeps a scanner in position,** and so it is in
front of everything that is passed. -/
theorem InPosition.run {base : Position} {s : Scanner} (h : s.InPosition base)
    (calls : List Call) (hlines : ∀ p ∈ s.passages calls, p.CountsNewlines) :
    (s.run calls).InPosition base ∧ ∀ p ∈ s.passages calls, p.before.InPosition base := by
  refine of_steps (R := fun s ps _ last => s.InPosition base → (∀ p ∈ ps, p.CountsNewlines) →
    last.InPosition base ∧ ∀ p ∈ ps, p.before.InPosition base) ?_ ?_ ?_ ?_ s calls h hlines
  · exact fun s hs _ => ⟨hs, fun p hp => by cases hp⟩
  · intro s mid last ps qs _ _ hfront hback hs hlines
    obtain ⟨hmid, hps⟩ := hfront hs fun p hp => hlines p (List.mem_append_left _ hp)
    obtain ⟨hlast, hqs⟩ := hback hmid fun p hp => hlines p (List.mem_append_right _ hp)
    exact ⟨hlast, fun p hp => (List.mem_append.1 hp).elim (hps p) (hqs p)⟩
  · intro s p behind hpass hs hlines
    refine ⟨hs.pass hpass (hlines p List.mem_cons_self), fun q hq => ?_⟩
    rw [List.mem_singleton.1 hq, (pass?_passing hs.wellPlaced hpass).before]
    exact hs
  · exact fun s c hc hs _ => ⟨hs.call hc, fun p hp => by cases hp⟩

/-! ## Exact positions -/

/-- What is in front of a passage is at an exact position of the last buffer. -/
theorem exact_before {base : Position} {s last : Scanner} {ps : List Passage} {fed : List Char}
    (h : s.Course ps fed last) {p : Passage} (hp : p ∈ ps) (hbefore : p.before.InPosition base) :
    base.Exact last.buffer p.before.offset p.before.position := by
  obtain ⟨more, hmore⟩ := h.buffers p hp
  rw [hmore]
  exact hbefore.exact more

/-- **A token has the position of the scanner in front of it,** and the line breaks that
its rule counts in its text. -/
theorem token?_position {p : Passage} {t : Token} (hp : p.before.cursor.ComesNext p.text p.span)
    (ht : p.token? = some t) :
    t.offset = p.before.offset ∧ t.position = p.before.position ∧
      t.lineBreaks = lineBreaks p.countsLines t.text.toList := by
  have htext := (token?_spec hp ht).2
  cases p with
  | skipped s => cases ht
  | consumed s state m =>
    cases ht
    have hpassed : s.cursor.slice ⟨s.offset, m.span.stop⟩ = (Passage.consumed s state m).text :=
      hp.slice_from
    refine ⟨hp.start, rfl, ?_⟩
    rw [htext, ← hpassed]
    rfl

/-- What is handed out as an error is the error of the scanner in front of it. -/
theorem item?_error {p : Passage} {e : LexError} (h : p.item? = some (.error e)) :
    e = p.before.unmatchedError := by
  cases p with
  | skipped s =>
    cases h
    rfl
  | consumed s state m =>
    rw [Passage.item?] at h
    split at h <;> cases h

/-- **Positions are exact** on every run in which the rules that match newlines count
them: behind every call, for every token and for every error. They are counted from
`base`, the place in the text that the buffer begins with, and the line breaks of a
token are the newlines in its text. -/
theorem position_exact {buffer : List Char} {base : Position} {s : Scanner}
    (hs : Starts buffer base s) (calls : List Call)
    (hlines : ∀ p ∈ s.passages calls, p.CountsNewlines) :
    (∀ n, base.Exact (s.run (calls.take n)).buffer (s.run (calls.take n)).offset
      (s.run (calls.take n)).position) ∧
    (∀ t, .token t ∈ s.items calls → base.Exact (s.run calls).buffer t.offset t.position ∧
      t.lineBreaks = t.text.toList.count '\n') ∧
    (∀ offset line col message, .error (.unmatchedInput offset line col message) ∈ s.items calls →
      base.Exact (s.run calls).buffer offset ⟨line, col⟩) := by
  have hcourse := Course.of_run hs.inPosition.wellPlaced calls
  obtain ⟨_, hbefore⟩ := hs.inPosition.run calls hlines
  refine ⟨fun n => ?_, fun t ht => ?_, fun offset line col message he => ?_⟩
  · -- The calls up to there pass some of what all of them pass.
    have hpassages := s.passages_append (calls.take n) (calls.drop n)
    rw [List.take_append_drop] at hpassages
    have hfront := (hs.inPosition.run (calls.take n) fun p hp =>
      hlines p (by rw [hpassages]; exact List.mem_append_left _ hp)).1.exact []
    rw [List.append_nil] at hfront
    exact hfront
  · rw [items_eq] at ht
    obtain ⟨p, hp, hitem⟩ := List.mem_filterMap.1 ht
    have htoken := token?_of_item? hitem
    obtain ⟨hoffset, hposition, hbreaks⟩ := token?_position (hcourse.comesNext p hp) htoken
    have htext := (token?_spec (hcourse.comesNext p hp) htoken).2
    refine ⟨?_, ?_⟩
    · rw [hoffset, hposition]
      exact exact_before hcourse hp (hbefore p hp)
    · have hcounts : '\n' ∈ t.text.toList → p.countsLines = true := by
        rw [htext]
        exact hlines p hp
      rw [hbreaks, lineBreaks_eq_count_iff.2 hcounts]
  · rw [items_eq] at he
    obtain ⟨p, hp, hitem⟩ := List.mem_filterMap.1 he
    have herror := item?_error hitem
    rw [unmatchedError, LexError.unmatchedInput.injEq] at herror
    obtain ⟨hoffset, hline, hcol, _⟩ := herror
    rw [hoffset, hline, hcol]
    exact exact_before hcourse hp (hbefore p hp)

/-- A lexer for words, and for the blanks and newlines between them. -/
def wordLexer : LexerSpec :=
  .ofRules [("word", .regex "[a-zäö]+"),
    ("space", .options { matchers := [.regex "[ \n]+"], lineBreaks := true })]

/-- Five tokens, with text fed in between. -/
def wordCalls : List Call := [.next, .next, .feed "cd\n  ef".toList, .next, .next, .next]

/-- A scanner that goes on in line seven, column three. -/
def wordScanner? : Option Scanner := do
  let t ← wordLexer.compile.toOption
  ((t.scanner []).reset "äb ".toList (some ⟨7, 3, "start", []⟩)).toOption

/-- Two words in line seven, of which the first has a character of two bytes, and one
in line eight. -/
theorem position_exact_words :
    ∃ s, wordScanner? = some s ∧ Starts "äb ".toList ⟨7, 3⟩ s ∧
      (∀ p ∈ s.passages wordCalls, p.CountsNewlines) ∧
      (s.run wordCalls).offset = 11 ∧ (s.run wordCalls).position = ⟨8, 5⟩ ∧
      Position.Exact ⟨7, 3⟩ (s.run wordCalls).buffer (s.run wordCalls).offset
        (s.run wordCalls).position := by
  have hfacts : (wordScanner?.map fun s =>
      ((s.passages wordCalls).all fun p => decide p.CountsNewlines,
        (s.run wordCalls).offset, (s.run wordCalls).position))
      = some (true, 11, ⟨8, 5⟩) := by cbv
  obtain ⟨s, hs, hfacts⟩ := Option.map_eq_some_iff.1 hfacts
  rw [Prod.mk.injEq, Prod.mk.injEq] at hfacts
  obtain ⟨hlines, hoffset, hposition⟩ := hfacts
  have hstart : Starts "äb ".toList ⟨7, 3⟩ s := by
    obtain ⟨t, _, hreset⟩ := Option.bind_eq_some_iff.1 hs
    cases hr : (t.scanner []).reset "äb ".toList (some ⟨7, 3, "start", []⟩) with
    | error e =>
      rw [hr] at hreset
      cases hreset
    | ok s' =>
      rw [hr] at hreset
      cases hreset
      exact .reset hr
  have hcounts : ∀ p ∈ s.passages wordCalls, p.CountsNewlines := fun p hp =>
    of_decide_eq_true (List.all_eq_true.1 hlines p hp)
  exact ⟨s, hs, hstart, hcounts, hoffset, hposition,
    (position_exact hstart wordCalls hcounts).1 wordCalls.length⟩

end Scanner

end StatefulLexer
