/-
Whole matches in capture groups.

An expression without capture groups that is put into one is matched as before, and the group
takes part with exactly what is matched: it is entered where the search begins, nothing is
entered or left in between, and it is left where the match ends.

Main statement: `Expr.match?_capture`.
-/
import StatefulLexer.Proofs.Regex.Renumbered

set_option autoImplicit false

namespace StatefulLexer.Regex

/-! ## Expressions without capture groups -/

/-- A stack without capture groups and ends of such: other numbers make no difference to it. -/
def Uncaptured (k : Stack) : Prop := Stack.renumber (· + 1) k = k

/-- A move of such a stack enters or leaves no group, and leads to such a stack again. -/
theorem Uncaptured.move_renumber {k : Stack} (h : Uncaptured k) :
    (move k).renumber (· + 1) = move k := by
  rw [← Regex.move_renumber, h]

/-- A thread in a capture group that encloses all that is matched. -/
structure Thread.InGroup (index : Nat) (t : Thread) : Prop where
  stack : ∃ front, t.stack = front ++ [.close index] ∧ Uncaptured front
  entered : t.entered = [(index, 0)]
  captures : t.captures = []

/-- A thread that has left the group, and has matched. -/
structure Thread.LeftGroup (index place : Nat) (t : Thread) : Prop where
  stack : t.stack = []
  captures : t.captures = [⟨index, 0, place⟩]

/-- The thread is in the group or has left it. -/
def Thread.InOrLeft (index place : Nat) (t : Thread) : Prop :=
  t.InGroup index ∨ t.LeftGroup index place

namespace Thread.InGroup

variable {index : Nat} {t : Thread}

theorem isDone (h : t.InGroup index) : t.isDone = false := by
  obtain ⟨front, hstack, _⟩ := h.stack
  rw [Thread.isDone, hstack, List.isEmpty_eq_false_iff]
  exact List.append_ne_nil_of_right_ne_nil _ (List.cons_ne_nil _ _)

/-- Above the end of the group a thread stays in it. -/
theorem withStack (h : t.InGroup index) {front : Stack} (hfront : Uncaptured front) :
    (t.withStack (front ++ [.close index])).InGroup index :=
  ⟨⟨front, rfl, hfront⟩, h.entered, h.captures⟩

/-- **A thread stays in the group or leaves it,** and has matched then. -/
theorem followed (h : t.InGroup index) {before behind : Option Char} {place : Nat} :
    ∀ u ∈ (move t.stack).followed ⟨before, behind, place⟩ t, u.InOrLeft index place := by
  obtain ⟨front, hstack, hfront⟩ := h.stack
  intro u hu
  rw [hstack] at hu
  by_cases hnil : front = []
  · rw [hnil] at hu
    rw [List.mem_singleton.1 hu]
    refine .inr ⟨rfl, ?_⟩
    show ⟨index, (t.entered.lookup index).getD place, place⟩ :: t.captures.filter _ = _
    rw [h.entered, h.captures, List.lookup_cons_self]
    rfl
  · have hmove := hfront.move_renumber
    rw [move_append _ hnil] at hu
    cases hm : move front with
    | done =>
      rw [hm] at hu
      cases hu
    | consume wanted k =>
      rw [hm] at hu
      cases hu
    | become k =>
      rw [hm] at hu hmove
      rw [List.mem_singleton.1 hu]
      exact .inl (h.withStack (Move.become.inj hmove))
    | check l k =>
      rw [hm] at hu hmove
      rw [Move.onto, Move.followed] at hu
      split at hu
      · rw [List.mem_singleton.1 hu]
        exact .inl (h.withStack (Move.check.inj hmove).2)
      · cases hu
    | opened i k =>
      rw [hm] at hmove
      exact absurd (Move.opened.inj hmove).1 (Nat.succ_ne_self i)
    | closed i k =>
      rw [hm] at hmove
      exact absurd (Move.closed.inj hmove).1 (Nat.succ_ne_self i)
    | fork a b =>
      rw [hm] at hu hmove
      rcases List.mem_cons.1 hu with rfl | hu
      · exact .inl (h.withStack (Move.fork.inj hmove).1)
      · rw [List.mem_singleton.1 hu]
        exact .inl (h.withStack (Move.fork.inj hmove).2)

/-- A thread that takes a character stays in the group. -/
theorem take? (h : t.InGroup index) {c : Char} {u : Thread} (hu : t.take? c = some u) :
    u.InGroup index := by
  obtain ⟨front, hstack, hfront⟩ := h.stack
  rw [Thread.take?, hstack] at hu
  by_cases hnil : front = []
  · rw [hnil] at hu
    cases hu
  · have hmove := hfront.move_renumber
    rw [move_append _ hnil] at hu
    cases hm : move front with
    | consume wanted k =>
      rw [hm] at hu hmove
      rw [Move.onto] at hu
      dsimp only at hu
      split at hu
      · rw [← Option.some.inj hu]
        exact h.withStack (Move.consume.inj hmove).2
      · cases hu
    | _ =>
      rw [hm] at hu
      cases hu

end Thread.InGroup

namespace Thread.InOrLeft

variable {index : Nat} {t : Thread}

/-- What has left the group goes nowhere. -/
theorem followed {g : Gap} (h : t.InOrLeft index g.place) :
    ∀ u ∈ (move t.stack).followed g t, u.InOrLeft index g.place := by
  rcases h with h | h
  · exact h.followed
  · intro u hu
    rw [h.stack] at hu
    cases hu

/-- It takes no character either. -/
theorem take? {place : Nat} (h : t.InOrLeft index place) {c : Char} {u : Thread}
    (hu : t.take? c = some u) : u.InOrLeft index (place + 1) := by
  rcases h with h | h
  · exact .inl (h.take? hu)
  · rw [Thread.take?, h.stack] at hu
    cases hu

end Thread.InOrLeft

/-- **What is found in a group is captured by it.** -/
theorem captures_of_run_group {index : Nat} {before : Option Char} {place : Nat}
    {ahead : List Char} {ts : List Thread} {found : Found} (hts : ∀ t ∈ ts, t.InGroup index)
    (h : run before place ahead ts none = some found) :
    found.captures = [⟨index, 0, found.width⟩] := by
  obtain ⟨t, ht, hdone, hcaptures⟩ := exists_of_run (P := fun place t => t.InOrLeft index place)
    (fun _ _ ht => ht.followed) (fun _ _ _ _ ht => ht.take?) (fun t ht => .inl (hts t ht)) h
  rcases ht with hin | hleft
  · rw [hin.isDone] at hdone
    cases hdone
  · rw [hcaptures, hleft.captures]

/-- **A group around an expression** without capture groups captures what is matched. -/
theorem Expr.match?_capture {e : Expr} (he : e.renumber (· + 1) = e) (index : Nat)
    (behind ahead : List Char) : (Expr.capture index e).match? behind ahead
      = ((e.match? behind ahead).map Found.width).map fun width => ⟨width, [⟨index, 0, width⟩]⟩ := by
  have hwidth : ((Expr.capture index e).match? behind ahead).map Found.width
      = (e.match? behind ahead).map Found.width :=
    Regex.Alike.capture index e Loopless.nil behind.head? 0 ahead
  rw [← hwidth]
  cases h : (Expr.capture index e).match? behind ahead with
  | none => rfl
  | some found =>
    rw [Expr.match?, run_step (.of_loopless (.cons rfl .nil)) rfl rfl] at h
    have hcaptures : found.captures = [⟨index, 0, found.width⟩] := by
      refine captures_of_run_group (fun t ht => ?_) h
      rw [List.mem_singleton.1 ht]
      exact ⟨⟨[.expr e], rfl, congrArg (fun e => [Frame.expr e]) he⟩, rfl, rfl⟩
    rw [Option.map_some, Option.map_some, ← hcaptures]

end StatefulLexer.Regex
