/-
The scanners that can be reached.

A scanner is made by its table. From there on it is asked for items, fed, sent to
other states and set to other buffers, in any order and as often as the caller
likes. What fails leaves the scanner as it is, so it reaches nothing new.

An invariant of scanners is about steps: a call for an item is a sequence of them.
So what is to be shown of it is said once, in `Reachable.keeps`.
-/
import StatefulLexer.Proofs.Run.Place

set_option autoImplicit false

namespace StatefulLexer.Scanner

/-- **The scanners of a table** that a caller can bring about. -/
inductive Reachable (t : Table) : Scanner → Prop
  | new (buffer : List Char) : Reachable t (t.scanner buffer)
  | call {s : Scanner} (c : Call) : Reachable t s → Reachable t (s.call c)
  | reset {s s' : Scanner} {buffer : List Char} {saved : Option SavedPlace} :
    Reachable t s → s.reset buffer saved = .ok s' → Reachable t s'

/-- A scanner that is set to another buffer keeps its table. -/
theorem table_reset {s s' : Scanner} {buffer : List Char} {saved : Option SavedPlace}
    (h : s.reset buffer saved = .ok s') : s'.table = s.table := by
  unfold reset at h
  split at h
  · rw [← Except.ok.inj h]
    rfl
  · obtain ⟨state, _, h⟩ := bind_eq_ok.1 h
    obtain ⟨stack, _, h⟩ := bind_eq_ok.1 h
    rw [← Except.ok.inj h]

/-- What every step keeps, a sequence of steps keeps. -/
theorem Steps.keeps {P : Scanner → Prop}
    (pass : ∀ {s p behind}, P s → s.pass? = some (p, behind) → P behind)
    {s last : Scanner} {ps : List Passage} (h : s.Steps ps last) (hs : P s) : P last := by
  induction h with
  | nil s => exact hs
  | cons hpass _ ih => exact ih (pass hs hpass)

/-- **An invariant holds of what can be reached** if it holds of scanners at the start of
a buffer, and is kept by every step and every call that is not for an item. -/
theorem Reachable.keeps {P : Scanner → Prop} {t : Table}
    (start : ∀ {buffer base s}, Starts buffer base s → s.table = t → P s)
    (pass : ∀ {s p behind}, P s → s.pass? = some (p, behind) → P behind)
    (call : ∀ {s c}, P s → c ≠ .next → P (s.call c)) {s : Scanner} (hs : Reachable t s) :
    P s ∧ s.table = t := by
  induction hs with
  | new buffer => exact ⟨start (.new t) rfl, rfl⟩
  | @reset s s' buffer saved _ hreset ih =>
    have htable : s'.table = t := (table_reset hreset).trans ih.2
    exact ⟨start (.reset hreset) htable, htable⟩
  | @call s c _ ih =>
    by_cases hc : c = .next
    · have hsteps : s.Steps s.passed (s.call c) := by
        rw [hc]
        exact s.steps_passed
      refine hsteps.keeps (P := fun s => P s ∧ s.table = t) ?_ ih
      intro s p behind hP hpass
      exact ⟨pass hP.1 hpass, (table_pass? hpass).trans hP.2⟩
    · exact ⟨call ih.1 hc, (s.table_call hc).trans ih.2⟩

/-! ## Operations -/

/-- **What a caller can do** with a scanner. -/
inductive Operation where
  | call (c : Call)
  /-- Another buffer, in the saved place if there is one. -/
  | reset (buffer : List Char) (saved : Option SavedPlace)
  /-- Going on with a copy. -/
  | clone

/-- The scanner behind an operation. A reset that fails leaves it as it is, and a copy is
like the original. -/
def operate (s : Scanner) : Operation → Scanner
  | .call c => s.call c
  | .reset buffer saved => (s.reset buffer saved).toOption.getD s
  | .clone => s

/-- The scanner behind several operations. -/
def operateAll (s : Scanner) (operations : List Operation) : Scanner :=
  operations.foldl operate s

/-- **Operations reach nothing else.** -/
theorem Reachable.operateAll {t : Table} {s : Scanner} (hs : Reachable t s)
    (operations : List Operation) : Reachable t (s.operateAll operations) := by
  induction operations generalizing s with
  | nil => exact hs
  | cons operation operations ih =>
    apply ih
    cases operation with
    | call c => exact hs.call c
    | clone => exact hs
    | reset buffer saved =>
      rw [operate]
      cases hreset : s.reset buffer saved with
      | error e => exact hs
      | ok s' => exact hs.reset hreset

/-! ## The table -/

/-- Whatever a scanner does, its table stays. -/
theorem table_of_step {s behind : Scanner} {state : StateId} {m : RuleMatch}
    (h : s.step = .matched state m behind) : behind.table = s.table := by
  have hpass : s.pass? = some (.consumed s state m, behind) := by rw [pass?, h]
  exact table_pass? hpass

theorem table_next (s : Scanner) : s.next.2.table = s.table :=
  s.steps_passed.keeps (P := fun s' => s'.table = s.table)
    (fun hs hpass => (table_pass? hpass).trans hs) rfl

theorem table_allWithin (patience : Nat) (s : Scanner) :
    (s.allWithin patience).2.table = s.table := by
  fun_induction allWithin patience s with
  | case1 patience s behind hnext => rw [← s.table_next, hnext]
  | case2 patience s item behind hnext rest hrest items last hall ih =>
    rw [hall] at ih
    rw [ih, ← s.table_next, hnext]
  | case3 patience s item behind hnext hrest => rw [← s.table_next, hnext]

theorem table_operate (s : Scanner) (operation : Operation) :
    (s.operate operation).table = s.table := by
  cases operation with
  | clone => rfl
  | reset buffer saved =>
    rw [operate]
    cases hreset : s.reset buffer saved with
    | error e => rfl
    | ok s' => exact table_reset hreset
  | call c =>
    by_cases hc : c = .next
    · rw [operate, hc]
      exact s.table_next
    · exact s.table_call hc

theorem table_operateAll (s : Scanner) (operations : List Operation) :
    (s.operateAll operations).table = s.table := by
  induction operations generalizing s with
  | nil => rfl
  | cons operation operations ih =>
    rw [operateAll, List.foldl_cons]
    exact (ih _).trans (s.table_operate operation)

end StatefulLexer.Scanner
