/-
The same text further on.

What lies ahead of a place may lie ahead of another place as well, in the same buffer
or in another one. A pattern without assertions does not ask what lies behind it. So at
both places a state without assertions finds the same, and chooses the same: only the
offsets differ, and all by the distance of the places.

Main statement: `choose_later`.
-/
import StatefulLexer.Proofs.State.Gap

set_option autoImplicit false

namespace StatefulLexer

/-! ## Spans and places -/

/-- The span `o` bytes later. -/
def Span.later (o : Nat) (s : Span) : Span := ⟨s.start + o, s.stop + o⟩

/-- The match `o` bytes later. -/
def RuleMatch.later (o : Nat) (m : RuleMatch) : RuleMatch :=
  { m with span := m.span.later o, value := m.value.map (Span.later o) }

/-- What a match captured does not lie in front of it. -/
def RuleMatch.ValueBehind (m : RuleMatch) : Prop := ∀ v ∈ m.value, m.span.start ≤ v.start

namespace Cursor

/-- **The same text is ahead,** `o` bytes later in the first buffer than in the second. -/
structure Later (o : Nat) (c d : Cursor) : Prop where
  ahead : c.ahead = d.ahead
  offset : c.offset = d.offset + o

namespace Later

variable {o : Nat} {c d : Cursor}

theorem advance (h : c.Later o d) (n : Nat) : (c.advance n).Later o (d.advance n) where
  ahead := by rw [ahead_advance, ahead_advance, h.ahead]
  offset := by rw [offset_advance, offset_advance, h.ahead, h.offset, Nat.add_right_comm]

theorem spanAhead (h : c.Later o d) (start stop : Nat) :
    c.spanAhead start stop = (d.spanAhead start stop).later o := by
  simp only [Cursor.spanAhead, Span.later, h.ahead, h.offset, Nat.add_right_comm]

theorem finish (h : c.Later o d) : c.finish = d.finish + o := by
  rw [Cursor.finish, Cursor.finish, h.ahead, h.offset, Nat.add_right_comm]

theorem atEnd (h : c.Later o d) : c.atEnd = d.atEnd := by
  rw [Cursor.atEnd, Cursor.atEnd, h.ahead]

/-- What does not begin in front of the places is the same text in both buffers. -/
theorem slice (h : c.Later o d) {s : Span} (hs : d.offset ≤ s.start) :
    c.slice (s.later o) = d.slice s := by
  have hlater : c.offset ≤ (s.later o).start := by
    rw [h.offset]
    exact Nat.add_le_add_right hs o
  have hstart : (s.later o).start - c.offset = s.start - d.offset := by
    rw [h.offset]
    exact Nat.add_sub_add_right ..
  have hstop : (s.later o).stop - c.offset = s.stop - d.offset := by
    rw [h.offset]
    exact Nat.add_sub_add_right ..
  rw [Cursor.slice, Cursor.slice, if_pos hlater, if_pos hs, hstart, hstop, h.ahead]

end Later

end Cursor

/-! ## Rules -/

/-- A rule makes the same of what was found. -/
theorem Rule.matchOf_later (r : Rule) (id : RuleId) {o : Nat} {c d : Cursor} (h : c.Later o d)
    (found : Regex.Found) : r.matchOf id c found = (r.matchOf id d found).later o := by
  have hvalue : (found.captures.find? (·.index == 1)).map (fun g => c.spanAhead g.start g.stop)
      = ((found.captures.find? (·.index == 1)).map fun g => d.spanAhead g.start g.stop).map
          (Span.later o) := by
    rw [Option.map_map]
    exact congrArg (fun f => Option.map f _) (funext fun g => h.spanAhead g.start g.stop)
  unfold matchOf RuleMatch.later
  rw [h.spanAhead, hvalue]
  cases r.hasValueGroup <;> rfl

/-- What a rule captures does not lie in front of its match. -/
theorem Rule.valueBehind_matchOf (r : Rule) (id : RuleId) (c : Cursor) (found : Regex.Found) :
    (r.matchOf id c found).ValueBehind := by
  intro v hv
  unfold matchOf at hv ⊢
  dsimp only at hv ⊢
  split at hv
  · obtain ⟨g, _, rfl⟩ := Option.map_eq_some_iff.1 hv
    exact Nat.le_add_right _ _
  · cases hv

namespace State

variable {st : State} {o : Nat} {c d : Cursor}

/-! ## What is found -/

/-- What is searched for is found at both places. -/
theorem matchAt?_later (hlook : ∀ q ∈ st.searched, q.2.expr.hasLook = false)
    (h : c.Later o d) : st.matchAt? c = (st.matchAt? d).map (RuleMatch.later o) := by
  unfold matchAt?
  generalize st.searched = searched at hlook ⊢
  induction searched with
  | nil => rfl
  | cons q searched ih =>
    have hq := Regex.Expr.match?_of_hasLook (hlook q List.mem_cons_self) c.behind d.behind d.ahead
    have hrest := ih fun q' hq' => hlook q' (List.mem_cons_of_mem q hq')
    rw [List.findSome?_cons, List.findSome?_cons, hrest, h.ahead]
    dsimp only
    rw [hq]
    cases q.2.expr.match? d.behind d.ahead with
    | none => rfl
    | some found => exact congrArg some ((st.rule q.1).matchOf_later q.1 h found)

/-- What the next character decides is decided at both places. -/
theorem fastMatch?_later (st : State) (h : c.Later o d) :
    st.fastMatch? c = (st.fastMatch? d).map (RuleMatch.later o) := by
  unfold fastMatch?
  rw [h.ahead]
  split
  · rfl
  · rw [Option.map_map]
    refine congrArg (fun f => Option.map f _) (funext fun id => ?_)
    rw [h.spanAhead]
    rfl

/-- A search further ahead finds the same. -/
theorem findWithin_later (hlook : ∀ q ∈ st.searched, q.2.expr.hasLook = false)
    (h : c.Later o d) (n : Nat) :
    st.findWithin n c = (st.findWithin n d).map (RuleMatch.later o) := by
  induction n generalizing c d with
  | zero => exact matchAt?_later hlook h
  | succ n ih =>
    rw [findWithin, findWithin, matchAt?_later hlook h]
    rcases Option.eq_none_or_eq_some (st.matchAt? d) with hm | ⟨m, hm⟩
    · rw [hm]
      exact ih (h.advance 1)
    · rw [hm]
      rfl

/-! ## What is chosen -/

/-- **A state chooses the same** where the same text is ahead, if its rules have no
assertions. -/
theorem choose_later (hlook : ∀ q ∈ st.searched, q.2.expr.hasLook = false) (h : c.Later o d) :
    st.choose c
      = (st.choose d).map (Prod.map (RuleMatch.later o) (Option.map (RuleMatch.later o))) := by
  unfold choose
  rw [st.fastMatch?_later h]
  rcases Option.eq_none_or_eq_some (st.fastMatch? d) with hfast | ⟨m, hfast⟩
  · rw [hfast]
    dsimp only [Option.map_none]
    split
    · rw [matchAt?_later hlook h]
      cases st.matchAt? d <;> rfl
    · rw [matchAt?_later hlook h, h.offset, h.finish]
      cases st.matchAt? d <;> rfl
    · rw [findWithin_later hlook h, h.ahead, h.offset, h.finish]
      rcases Option.eq_none_or_eq_some (st.findWithin d.ahead.length d) with hm | ⟨m, hm⟩
      · rw [hm]
        rfl
      · rw [hm]
        -- The gap is empty at both places or at none.
        by_cases hstart : m.span.start = d.offset
        · have hlater : (m.later o).span.start = d.offset + o := congrArg (· + o) hstart
          simp only [Option.map_some, hstart, hlater, if_true, Prod.map, Option.map_none]
        · have hlater : (m.later o).span.start ≠ d.offset + o :=
            fun heq => hstart (Nat.add_right_cancel heq)
          simp only [Option.map_some, hstart, hlater, if_false, Prod.map]
          rfl
  · rw [hfast]
    rfl

/-- What is chosen captures nothing in front of it. -/
theorem valueBehind_choose {m : RuleMatch} {queued : Option RuleMatch}
    (h : st.choose c = some (m, queued)) : m.ValueBehind ∧ ∀ q ∈ queued, q.ValueBehind := by
  have found {c : Cursor} {m : RuleMatch} (hm : st.matchAt? c = some m) : m.ValueBehind := by
    obtain ⟨⟨id, p⟩, _, hmap⟩ := List.exists_of_findSome?_eq_some hm
    obtain ⟨found, _, rfl⟩ := Option.map_eq_some_iff.1 hmap
    exact (st.rule id).valueBehind_matchOf id c found
  rcases choose_cases h with ⟨hm, rfl⟩ | ⟨_, hm, rfl⟩ | ⟨k, q, _, hq, _, _, hm, rfl⟩
  · refine ⟨?_, nofun⟩
    rcases hm with hm | hm
    · unfold fastMatch? at hm
      split at hm
      · cases hm
      · obtain ⟨_, _, rfl⟩ := Option.map_eq_some_iff.1 hm
        exact nofun
    · exact found hm
  · rw [hm]
    exact ⟨nofun, nofun⟩
  · rw [hm]
    refine ⟨nofun, ?_⟩
    rintro q' ⟨⟩
    exact found hq

end State

end StatefulLexer
