/-
Where the matches of a state stand.

A state answers with spans of the whole buffer, so it could point anywhere. It
does not: whatever it chooses begins at the place it was asked for, and the match
it found behind a gap begins where the gap ends. Nothing here depends on how the
state was compiled.

Main statements: `State.choose_cases`, `State.choose_comesNext`.
-/
import StatefulLexer.State
import StatefulLexer.Proofs.Text.Slice

set_option autoImplicit false

namespace StatefulLexer

/-! ## Matches at a place -/

/-- A match that a rule makes of what was found begins at the place. -/
theorem Rule.matchOf_comesNext (r : Rule) (id : RuleId) (c : Cursor) (found : Regex.Found) :
    c.ComesNext (c.ahead.take found.width) (r.matchOf id c found).span :=
  c.comesNext_take found.width

namespace State

variable {s : State} {c : Cursor}

/-- What is searched for at a place is found there. -/
theorem matchAt?_comesNext {m : RuleMatch} (h : s.matchAt? c = some m) :
    ∃ text, c.ComesNext text m.span := by
  obtain ⟨⟨id, p⟩, _, hp⟩ := List.exists_of_findSome?_eq_some h
  obtain ⟨found, _, rfl⟩ := Option.map_eq_some_iff.1 hp
  exact ⟨_, (s.rule id).matchOf_comesNext id c found⟩

/-- What the next character decides is that character. -/
theorem fastMatch?_comesNext {m : RuleMatch} (h : s.fastMatch? c = some m) :
    ∃ text, c.ComesNext text m.span := by
  unfold fastMatch? at h
  split at h
  · cases h
  · obtain ⟨id, _, rfl⟩ := Option.map_eq_some_iff.1 h
    exact ⟨_, c.comesNext_take 1⟩

/-- **A search further ahead** finds what matches at the first place where
anything does. -/
theorem findWithin_eq_some {n : Nat} {m : RuleMatch} (h : s.findWithin n c = some m) :
    ∃ k ≤ n, s.matchAt? (c.advance k) = some m ∧ ∀ j < k, s.matchAt? (c.advance j) = none := by
  induction n generalizing c with
  | zero => exact ⟨0, Nat.le_refl 0, h, fun j hj => absurd hj (Nat.not_lt_zero j)⟩
  | succ n ih =>
    rw [findWithin] at h
    split at h
    · rename_i m' hm
      rw [← h]
      exact ⟨0, Nat.zero_le _, hm, fun j hj => absurd hj (Nat.not_lt_zero j)⟩
    · rename_i hm
      obtain ⟨k, hk, hfound, hbefore⟩ := ih h
      refine ⟨k + 1, Nat.succ_le_succ hk, hfound, fun j hj => ?_⟩
      cases j with
      | zero => exact hm
      | succ j => exact hbefore j (Nat.lt_of_succ_lt_succ hj)

/-! ## Choices -/

/-- A place that lies further on, and at the same byte, is the same place. -/
theorem advance_eq_of_offset_eq {k : Nat} (h : (c.advance k).offset = c.offset) :
    c.advance k = c := by
  rw [Cursor.offset_advance] at h
  have hnil : c.ahead.take k = [] := (byteSize_eq_zero_iff _).1 (by omega)
  rw [← c.advance_length_take k, hnil]
  rfl

/-- **What a choice is:** a match at the place, all that lies ahead as unmatched input,
or the gap in front of the first match further ahead. -/
theorem choose_cases {m : RuleMatch} {queued : Option RuleMatch}
    (h : s.choose c = some (m, queued)) :
    ((s.fastMatch? c = some m ∨ s.matchAt? c = some m) ∧ queued = none) ∨
    ((s.unmatched = .takeRest m.rule ∨ s.unmatched = .takeGap m.rule) ∧
      m = { rule := m.rule, span := ⟨c.offset, c.finish⟩ } ∧ queued = none) ∨
    (∃ k q, s.unmatched = .takeGap m.rule ∧ s.matchAt? (c.advance k) = some q ∧
      (∀ j < k, s.matchAt? (c.advance j) = none) ∧ c.offset < (c.advance k).offset ∧
      m = { rule := m.rule, span := ⟨c.offset, (c.advance k).offset⟩ } ∧ queued = some q) := by
  unfold choose at h
  split at h
  · rename_i m' hfast
    cases h
    exact .inl ⟨.inl hfast, rfl⟩
  · split at h
    · obtain ⟨m', hm', h⟩ := Option.map_eq_some_iff.1 h
      cases h
      exact .inl ⟨.inr hm', rfl⟩
    · rename_i r hunmatched
      cases h
      rcases Option.eq_none_or_eq_some (s.matchAt? c) with hm | ⟨m', hm⟩
      · rw [hm]
        exact .inr (.inl ⟨.inl hunmatched, rfl, rfl⟩)
      · rw [hm]
        exact .inl ⟨.inr rfl, rfl⟩
    · rename_i r hunmatched
      split at h
      · rename_i q hfind
        obtain ⟨k, _, hk, hbefore⟩ := findWithin_eq_some hfind
        obtain ⟨_, hq⟩ := matchAt?_comesNext hk
        have hle := c.offset_advance k
        split at h
        · -- The match begins at the place, so it was found there.
          rename_i hstart
          cases h
          rw [hq.start] at hstart
          rw [advance_eq_of_offset_eq hstart] at hk
          exact .inl ⟨.inr hk, rfl⟩
        · rename_i hstart
          cases h
          rw [hq.start] at hstart ⊢
          exact .inr (.inr ⟨k, q, hunmatched, hk, hbefore, by omega, rfl, rfl⟩)
      · cases h
        exact .inr (.inl ⟨.inr hunmatched, rfl, rfl⟩)

/-- A state without rules chooses nothing. -/
theorem choose_default (c : Cursor) : (default : State).choose c = none := by
  rw [choose, fastMatch?]
  cases c.ahead <;> rfl

/-- **A choice begins at the place,** and what was found behind it begins where it
ends. -/
theorem choose_comesNext {m : RuleMatch} {queued : Option RuleMatch}
    (h : s.choose c = some (m, queued)) :
    ∃ text, c.ComesNext text m.span ∧
      ∀ q ∈ queued, ∃ more, (c.advance text.length).ComesNext more q.span := by
  rcases choose_cases h with ⟨hm, rfl⟩ | ⟨_, hm, rfl⟩ | ⟨k, q, _, hq, _, _, hm, rfl⟩
  · obtain ⟨text, htext⟩ : ∃ text, c.ComesNext text m.span :=
      hm.elim fastMatch?_comesNext matchAt?_comesNext
    exact ⟨text, htext, fun q hq => by cases hq⟩
  · rw [hm]
    exact ⟨_, c.comesNext_ahead, fun q hq => by cases hq⟩
  · rw [hm]
    refine ⟨c.ahead.take k, ⟨List.take_prefix k c.ahead, rfl, c.offset_advance k⟩, ?_⟩
    rintro q' ⟨⟩
    rw [c.advance_length_take k]
    exact matchAt?_comesNext hq

end State

end StatefulLexer
