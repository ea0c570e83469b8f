/-
Several expressions, searched for at once.

To find which of several expressions comes first, a search is begun with a thread for each, in
their order. Each expression is put into a group that tells its number. That group encloses the
expression, so it is the last one that is left, and the capture remembered last tells which of
the expressions has been found.

What is found in this way is what each expression finds on its own, one after the other. So a
second search, for the expression that was found and for no other, ends where the first one
did.

Main statement: `findTogether?_eq`.
-/
import StatefulLexer.Proofs.Regex.Alike

set_option autoImplicit false

namespace StatefulLexer.Regex

/-! ## The number of what is found -/

/-- A thread in a group that encloses all of its stack, or one that has left that group last. -/
def Thread.Numbered (number : Nat) (t : Thread) : Prop :=
  (∃ front, t.stack = front ++ [.close number]) ∨
    (t.stack = [] ∧ t.captures.head?.map Capture.index = some number)

namespace Thread.Numbered

variable {number : Nat} {t : Thread}

/-- **A thread stays in the group or leaves it last.** -/
theorem followed (h : t.Numbered number) {g : Gap} :
    ∀ u ∈ (move t.stack).followed g t, u.Numbered number := by
  intro u hu
  rcases h with ⟨front, hstack⟩ | ⟨hstack, _⟩
  · by_cases hfront : front = []
    · rw [hstack, hfront] at hu
      rw [List.mem_singleton.1 hu]
      exact .inr ⟨rfl, rfl⟩
    · exact .inl (exists_stack_of_followed hstack hfront u hu)
  · rw [hstack] at hu
    cases hu

theorem take? (h : t.Numbered number) {c : Char} {u : Thread} (hu : t.take? c = some u) :
    u.Numbered number := by
  rcases h with ⟨front, hstack⟩ | ⟨hstack, _⟩
  · by_cases hfront : front = []
    · rw [Thread.take?, hstack, hfront] at hu
      cases hu
    · exact .inl (exists_stack_of_take? hstack hfront hu)
  · rw [Thread.take?, hstack] at hu
    cases hu

end Thread.Numbered

/-- The group around an expression is left last. -/
theorem head?_captures_of_match? {e : Expr} {number : Nat} {behind ahead : List Char}
    {found : Found} (h : (Expr.capture number e).match? behind ahead = some found) :
    found.captures.head?.map Capture.index = some number := by
  rw [Expr.match?, run_step (.of_loopless (.cons rfl .nil)) rfl rfl] at h
  obtain ⟨t, hnumbered, hdone, hcaptures⟩ := exists_of_run (P := fun _ t => t.Numbered number)
    (fun _ _ ht => ht.followed) (fun _ _ _ _ ht => ht.take?) (fun t ht => by
      rw [List.mem_singleton.1 ht]
      exact .inl ⟨[.expr e], rfl⟩) h
  rw [hcaptures]
  rcases hnumbered with ⟨front, hstack⟩ | ⟨_, hindex⟩
  · -- A thread that has matched has nothing left.
    rw [Thread.isDone, hstack, List.isEmpty_iff] at hdone
    exact absurd hdone (List.append_ne_nil_of_right_ne_nil _ (List.cons_ne_nil _ _))
  · exact hindex

/-! ## The search -/

/-- The number that a match tells, and its width. -/
def Found.numbered (found : Found) : Option (Nat × Nat) :=
  found.captures.head?.map fun c => (c.index, found.width)

/-- The thread of an expression in a group that tells its number. -/
def numberedThread (q : Expr × Nat) : Thread := { stack := [.expr (.capture q.2 q.1)] }

/-- **What several expressions find together** at a place: the number of the one that is
found, and the width of its match. -/
def findTogether? (es : List Expr) (behind ahead : List Char) : Option (Nat × Nat) :=
  (run behind.head? 0 ahead (es.zipIdx.map numberedThread) none).bind Found.numbered

/-- An expression in its group finds what it finds, and tells its number. -/
theorem match?_numbered (e : Expr) (number : Nat) (behind ahead : List Char) :
    ((Expr.capture number e).match? behind ahead).map Found.numbered
      = (e.match? behind ahead).map fun found => some (number, found.width) := by
  have hwidth : ((Expr.capture number e).match? behind ahead).map Found.width
      = (e.match? behind ahead).map Found.width :=
    Alike.capture number e Loopless.nil behind.head? 0 ahead
  cases h : (Expr.capture number e).match? behind ahead with
  | none =>
    rw [h] at hwidth
    rw [Option.map_eq_none_iff.1 hwidth.symm]
    rfl
  | some found =>
    rw [h] at hwidth
    obtain ⟨found', hfound', hwidth'⟩ := Option.map_eq_some_iff.1 hwidth.symm
    obtain ⟨c, hc, hindex⟩ := Option.map_eq_some_iff.1 (head?_captures_of_match? h)
    rw [hfound', Option.map_some, Option.map_some, Found.numbered, hc, hwidth', ← hindex]
    rfl

/-- **Together expressions find what they find one after the other.** -/
theorem findTogether?_eq (es : List Expr) (behind ahead : List Char) :
    findTogether? es behind ahead = es.zipIdx.findSome? fun (e, number) =>
      (e.match? behind ahead).map fun found => (number, found.width) := by
  unfold findTogether?
  induction es.zipIdx with
  | nil => rw [List.map_nil, run_nil, List.findSome?_nil, Option.bind_none]
  | cons q qs ih =>
    obtain ⟨e, number⟩ := q
    have hthread : run behind.head? 0 ahead [numberedThread (e, number)] none
        = (Expr.capture number e).match? behind ahead := rfl
    have hfirst := match?_numbered e number behind ahead
    rw [List.map_cons, ← List.singleton_append, run_append, hthread, List.findSome?_cons, ← ih]
    dsimp only
    -- The other expressions are asked only if this one finds nothing.
    cases h : (Expr.capture number e).match? behind ahead with
    | none =>
      rw [h] at hfirst
      rw [Option.map_eq_none_iff.1 hfirst.symm, Option.none_or]
      rfl
    | some found =>
      rw [h] at hfirst
      obtain ⟨found', hfound', hnumbered⟩ := Option.map_eq_some_iff.1 hfirst.symm
      rw [hfound', Option.some_or, Option.bind_some, ← hnumbered]
      rfl

end StatefulLexer.Regex
