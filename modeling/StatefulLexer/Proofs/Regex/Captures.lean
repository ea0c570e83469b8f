/-
What a match captures lies in the match.

A thread notes a place when it enters a capture group, and again when it leaves it, and
carries both along while it takes characters. Places only grow. So what was entered was
entered at the place where the thread is or in front of it, and what was captured ends
there at the latest. When the thread has matched, that place is the end of the match.

Main statement: `Expr.captures_of_match?`.
-/
import StatefulLexer.Proofs.Regex.Search

set_option autoImplicit false

namespace StatefulLexer.Regex

/-- **What a thread remembers lies behind it:** no group was entered further on than at
`place`, and each capture begins in front of its end, and ends there or earlier. -/
structure Thread.RemembersUpTo (place : Nat) (t : Thread) : Prop where
  entered : ∀ q ∈ t.entered, q.2 ≤ place
  captures : ∀ c ∈ t.captures, c.start ≤ c.stop ∧ c.stop ≤ place

namespace Thread.RemembersUpTo

variable {place : Nat} {t : Thread}

/-- Further on a thread remembers nothing else. -/
theorem mono (h : t.RemembersUpTo place) {later : Nat} (hle : place ≤ later) :
    t.RemembersUpTo later where
  entered q hq := Nat.le_trans (h.entered q hq) hle
  captures c hc := ⟨(h.captures c hc).1, Nat.le_trans (h.captures c hc).2 hle⟩

/-- What is left to be matched has no part in it. -/
theorem withStack (h : t.RemembersUpTo place) (k : Stack) : (t.withStack k).RemembersUpTo place :=
  ⟨h.entered, h.captures⟩

theorem enter (h : t.RemembersUpTo place) (index : Nat) (k : Stack) :
    (t.enter index place k).RemembersUpTo place := by
  refine ⟨?_, h.captures⟩
  intro q hq
  rcases List.mem_cons.1 hq with rfl | hq
  · exact Nat.le_refl place
  · exact h.entered q (List.mem_filter.1 hq).1

theorem leave (h : t.RemembersUpTo place) (index : Nat) (k : Stack) :
    (t.leave index place k).RemembersUpTo place := by
  refine ⟨h.entered, ?_⟩
  intro c hc
  rcases List.mem_cons.1 hc with rfl | hc
  · refine ⟨?_, Nat.le_refl place⟩
    -- The group was entered before, or it is taken to have been entered here.
    show (t.entered.lookup index).getD place ≤ place
    cases hentered : t.entered.lookup index with
    | none => exact Nat.le_refl place
    | some start =>
      obtain ⟨_, _, hsplit, _⟩ := List.lookup_eq_some_iff.1 hentered
      apply h.entered (index, start)
      rw [hsplit]
      exact List.mem_append_right _ List.mem_cons_self
  · exact h.captures c (List.mem_filter.1 hc).1

/-- **No move forgets it.** -/
theorem followed (h : t.RemembersUpTo place) {before behind : Option Char} (m : Move) :
    ∀ u ∈ m.followed ⟨before, behind, place⟩ t, u.RemembersUpTo place := by
  intro u hu
  cases m with
  | done => cases hu
  | consume wanted k => cases hu
  | become k =>
    rw [List.mem_singleton.1 hu]
    exact h.withStack k
  | check l k =>
    rw [Move.followed] at hu
    split at hu
    · rw [List.mem_singleton.1 hu]
      exact h.withStack k
    · cases hu
  | opened index k =>
    rw [List.mem_singleton.1 hu]
    exact h.enter index k
  | closed index k =>
    rw [List.mem_singleton.1 hu]
    exact h.leave index k
  | fork a b =>
    rcases List.mem_cons.1 hu with rfl | hu
    · exact h.withStack a
    · rw [List.mem_singleton.1 hu]
      exact h.withStack b

/-- A thread that takes a character remembers the same behind it. -/
theorem take? (h : t.RemembersUpTo place) {c : Char} {u : Thread} (hu : t.take? c = some u) :
    u.RemembersUpTo (place + 1) := by
  unfold Thread.take? at hu
  split at hu
  · split at hu
    · rw [← Option.some.inj hu]
      exact (h.withStack _).mono (Nat.le_succ place)
    · cases hu
  · cases hu

end Thread.RemembersUpTo

/-- **A match captures what lies in it.** -/
theorem Expr.captures_of_match? {e : Expr} {behind ahead : List Char} {found : Found}
    (h : e.match? behind ahead = some found) :
    ∀ c ∈ found.captures, c.start ≤ c.stop ∧ c.stop ≤ found.width := by
  have hstart : ∀ t ∈ [({ stack := [.expr e] } : Thread)], t.RemembersUpTo 0 := by
    intro t ht
    rw [List.mem_singleton.1 ht]
    exact ⟨List.forall_mem_nil _, List.forall_mem_nil _⟩
  obtain ⟨t, hremembers, _, hcaptures⟩ := exists_of_run
    (P := fun place t => t.RemembersUpTo place)
    (fun _ t ht => ht.followed (move t.stack)) (fun _ _ _ _ ht => ht.take?) hstart h
  rw [hcaptures]
  exact hremembers.captures

end StatefulLexer.Regex
