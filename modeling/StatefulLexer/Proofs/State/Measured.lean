/-
What a match is measured on.

A match is given in bytes of the whole buffer. But it was found on characters: it takes
the first ones ahead of a place, and its value is some of those it takes. So no end of it
lies inside a character or behind the buffer, and text that is added to the buffer later
changes nothing about it.

A match also carries the number of its rule, from the table, from the search, or from what
the state does with unmatched input. All three name rules that exist.

Main statements: `State.measured_of_choose`, `State.exists_rule_of_choose`.
-/
import StatefulLexer.Proofs.Regex.Captures
import StatefulLexer.Proofs.Regex.Nullable
import StatefulLexer.Proofs.State.Division
import StatefulLexer.Proofs.State.Place

set_option autoImplicit false

namespace StatefulLexer

/-! ## Matches -/

/-- The first characters of a text have no more bytes than more of them. -/
theorem byteSize_take_le (text : List Char) {i j : Nat} (h : i ≤ j) :
    byteSize (text.take i) ≤ byteSize (text.take j) := by
  have hsplit : text.take j = text.take i ++ (text.take j).drop i := by
    have htake : text.take i = (text.take j).take i := by rw [List.take_take, Nat.min_eq_left h]
    rw [htake, List.take_append_drop]
  rw [hsplit, byteSize_append]
  exact Nat.le_add_right _ _

/-- **A match is measured** at a place if it takes the next `width` characters, and its
value some of these. -/
structure RuleMatch.Measured (m : RuleMatch) (c : Cursor) (width : Nat) : Prop where
  le : width ≤ c.ahead.length
  span : m.span = c.spanAhead 0 width
  value : ∀ v ∈ m.value, ∃ start stop, start ≤ stop ∧ stop ≤ width ∧ v = c.spanAhead start stop

namespace RuleMatch.Measured

variable {m : RuleMatch} {c : Cursor} {width : Nat}

/-- Text at the end of the buffer changes nothing about it. -/
theorem feed (h : m.Measured c width) (more : List Char) : m.Measured (c.feed more) width := by
  refine ⟨?_, ?_, ?_⟩
  · rw [Cursor.feed, List.length_append]
    exact Nat.le_add_right_of_le h.le
  · rw [c.spanAhead_feed more (Nat.zero_le _) h.le]
    exact h.span
  · intro v hv
    obtain ⟨start, stop, hle, hstop, rfl⟩ := h.value v hv
    have hlength : stop ≤ c.ahead.length := Nat.le_trans hstop h.le
    refine ⟨start, stop, hle, hstop, ?_⟩
    rw [c.spanAhead_feed more (Nat.le_trans hle hlength) hlength]

/-- It begins at the place. -/
theorem start (h : m.Measured c width) : m.span.start = c.offset := by
  rw [h.span]
  rfl

/-- The buffer has a slice at its span: the characters that it takes. -/
theorem slice?_span (h : m.Measured c width) :
    Span.slice? c.text m.span = some (c.ahead.take width) := by
  rw [h.span]
  exact c.slice?_spanAhead (Nat.zero_le width)

/-- The value lies in the span, and the buffer has a slice there. -/
theorem slice?_value (h : m.Measured c width) {v : Span} (hv : v ∈ m.value) :
    m.span.start ≤ v.start ∧ v.start ≤ v.stop ∧ v.stop ≤ m.span.stop ∧
      ∃ text, Span.slice? c.text v = some text := by
  obtain ⟨start, stop, hle, hstop, rfl⟩ := h.value v hv
  rw [h.span]
  refine ⟨?_, ?_, ?_, _, c.slice?_spanAhead hle⟩
  · exact Nat.add_le_add_left (byteSize_take_le _ (Nat.zero_le start)) _
  · exact Nat.add_le_add_left (byteSize_take_le _ hle) _
  · exact Nat.add_le_add_left (byteSize_take_le _ hstop) _

/-- Its span holds the same text when the buffer has grown. -/
theorem slice_feed (h : m.Measured c width) (more : List Char) :
    (c.feed more).slice m.span = c.slice m.span := by
  rw [Cursor.slice_eq, Cursor.slice_eq, Span.slice_of_slice? h.slice?_span,
    Span.slice_of_slice? (h.feed more).slice?_span, Cursor.feed,
    List.take_append_of_le_length h.le]

/-- So does its value. -/
theorem slice_value_feed (h : m.Measured c width) (more : List Char) {v : Span}
    (hv : v ∈ m.value) : (c.feed more).slice v = c.slice v := by
  obtain ⟨start, stop, hle, hstop, rfl⟩ := h.value v hv
  have hlength : stop ≤ c.ahead.length := Nat.le_trans hstop h.le
  have hsame := c.spanAhead_feed more (Nat.le_trans hle hlength) hlength
  have hfed := (c.feed more).slice?_spanAhead hle
  rw [hsame, Cursor.feed, List.take_append_of_le_length hlength] at hfed
  rw [Cursor.slice_eq, Cursor.slice_eq, Span.slice_of_slice? (c.slice?_spanAhead hle)]
  exact Span.slice_of_slice? hfed

end RuleMatch.Measured

/-! ## Rules -/

/-- **What a rule makes of what was found** is measured where it was found. -/
theorem Rule.measured_matchOf (r : Rule) (id : RuleId) {c : Cursor} {e : Regex.Expr}
    {found : Regex.Found} (h : e.match? c.behind c.ahead = some found) :
    (r.matchOf id c found).Measured c found.width := by
  refine ⟨Regex.Expr.width_le_of_match? h, rfl, ?_⟩
  intro v hv
  unfold matchOf at hv
  dsimp only at hv
  split at hv
  · obtain ⟨g, hg, rfl⟩ := Option.map_eq_some_iff.1 hv
    obtain ⟨hle, hstop⟩ := Regex.Expr.captures_of_match? h g (List.mem_of_find?_eq_some hg)
    exact ⟨g.start, g.stop, hle, hstop, rfl⟩
  · cases hv

namespace State

variable {st : State} {c : Cursor} {m : RuleMatch} {queued : Option RuleMatch}

/-! ## Choices -/

/-- What is searched for is measured where it was found. -/
theorem measured_of_matchAt? (h : st.matchAt? c = some m) : ∃ width, m.Measured c width := by
  obtain ⟨⟨id, p⟩, _, hmap⟩ := List.exists_of_findSome?_eq_some h
  obtain ⟨found, hfound, rfl⟩ := Option.map_eq_some_iff.1 hmap
  exact ⟨found.width, (st.rule id).measured_matchOf id hfound⟩

/-- So is what the next character decides. -/
theorem measured_of_fastMatch? (h : st.fastMatch? c = some m) : ∃ width, m.Measured c width := by
  unfold fastMatch? at h
  split at h
  · cases h
  · rename_i x rest hahead
    obtain ⟨id, _, rfl⟩ := Option.map_eq_some_iff.1 h
    refine ⟨1, ?_, rfl, fun q hq => by cases hq⟩
    rw [hahead]
    exact Nat.succ_le_succ (Nat.zero_le _)

/-- **What is chosen is measured** at the place, and what was found behind it is measured
behind it. -/
theorem measured_of_choose (h : st.choose c = some (m, queued)) :
    ∃ width, m.Measured c width ∧ ∀ q ∈ queued, ∃ n, q.Measured (c.advance width) n := by
  rcases choose_cases h with ⟨hm, rfl⟩ | ⟨_, hm, rfl⟩ | ⟨k, q, _, hq, _, _, hm, rfl⟩
  · obtain ⟨width, hwidth⟩ := hm.elim measured_of_fastMatch? measured_of_matchAt?
    exact ⟨width, hwidth, fun q hq => by cases hq⟩
  · refine ⟨c.ahead.length, ⟨Nat.le_refl _, ?_, ?_⟩, fun q hq => by cases hq⟩
    · rw [hm, Cursor.spanAhead, List.take_length]
      rfl
    · rw [hm]
      intro v hv
      cases hv
  · refine ⟨(c.ahead.take k).length, ⟨?_, ?_, ?_⟩, ?_⟩
    · exact List.length_take_le' k c.ahead
    · have hoffset := c.offset_advance (c.ahead.take k).length
      rw [c.advance_length_take k] at hoffset
      rw [hm, Cursor.spanAhead, hoffset]
      rfl
    · rw [hm]
      intro v hv
      cases hv
    · rintro q' ⟨⟩
      rw [c.advance_length_take k]
      exact measured_of_matchAt? hq

/-- **What is chosen is of a rule of the state,** and so is what was found behind it. -/
theorem exists_rule_of_choose {decls : List RuleDecl} {ctx : RuleContext}
    (hst : compile decls ctx = .ok st) (h : st.choose c = some (m, queued)) :
    (∃ r, st.rules[m.rule]? = some r) ∧ ∀ q ∈ queued, ∃ r, st.rules[q.rule]? = some r := by
  have hspec := compile_spec hst
  obtain ⟨⟨front, back, hdivision, _⟩, hone⟩ := divided_of_compile hst
  have searched {c : Cursor} {m : RuleMatch} (hm : st.matchAt? c = some m) :
      ∃ r, st.rules[m.rule]? = some r := by
    obtain ⟨r, _, _, hr, _⟩ := hspec.exists_of_matchAt? hm
    exact ⟨r, hr⟩
  rcases choose_cases h with ⟨hm, rfl⟩ | ⟨hm, _, rfl⟩ | ⟨k, q, hm, hq, _, _, _, rfl⟩
  · refine ⟨?_, fun q hq => by cases hq⟩
    rcases hm with hm | hm
    · unfold fastMatch? at hm
      split at hm
      · cases hm
      · -- A rule of the table is one of those in front.
        obtain ⟨id, hid, rfl⟩ := Option.map_eq_some_iff.1 hm
        rw [hdivision.fast, lookup_tableOf] at hid
        obtain ⟨hlt, _⟩ := List.findIdx?_eq_some_iff_getElem.1 hid
        refine ⟨front[id], ?_⟩
        rw [hdivision.rules, List.getElem?_append_left hlt, List.getElem?_eq_getElem hlt]
    · exact searched hm
  · refine ⟨?_, fun q hq => by cases hq⟩
    rcases hm with hm | hm
    · obtain ⟨r, hr, _⟩ := (hspec.unmatched_iff hone m.rule).1.1 hm
      exact ⟨r, hr⟩
    · obtain ⟨r, hr, _⟩ := (hspec.unmatched_iff hone m.rule).2.1.1 hm
      exact ⟨r, hr⟩
  · obtain ⟨r, hr, _⟩ := (hspec.unmatched_iff hone m.rule).2.1.1 hm
    refine ⟨⟨r, hr⟩, ?_⟩
    rintro q' ⟨⟩
    exact searched hq

end State

end StatefulLexer
