/-
Runs of a scanner.

A scanner answers calls, and the caller sees an item for some of them. What lies
between two items is hidden: ignored matches are passed over in the same call.
This file brings out everything that a run passes. A passage is a step, seen from
the scanner in front of it; `passed` are the passages of one call for the next
item, and `passages` those of a run.

Main statements: `steps_passed`, by which a call for an item is a sequence of
steps, and `toList_next`, by which the item is what the passages give.
-/
import StatefulLexer.Scanner

set_option autoImplicit false

namespace StatefulLexer

/-! ## Passages -/

/-- **What a step passes:** a match that was found in a state and is consumed, or
the rest of the buffer where nothing matches. It is kept with the scanner in
front of it. -/
inductive Passage where
  | consumed (before : Scanner) (state : StateId) (m : RuleMatch)
  | skipped (before : Scanner)

namespace Passage

/-- The scanner in front of the passage. -/
def before : Passage → Scanner
  | consumed s _ _ => s
  | skipped s => s

/-- The bytes that are passed. -/
def span : Passage → Span
  | consumed _ _ m => m.span
  | skipped s => ⟨s.offset, s.cursor.finish⟩

/-- The text that is passed. -/
def text (p : Passage) : List Char := p.before.cursor.slice p.span

/-- Newlines in the text begin lines. That is for the rule of a match to say; what
is skipped may hold lines. -/
def countsLines : Passage → Bool
  | consumed s state m => (s.ruleOf state m).lineBreaks
  | skipped _ => true

/-- The token that is made, whether or not it is handed out. -/
def token? : Passage → Option Token
  | consumed s state m => some (s.tokenOf state m)
  | skipped _ => none

/-- What is handed out: the token of a rule that is not ignored, or the error. -/
def item? : Passage → Option Scanner.Item
  | consumed s state m =>
    if (s.ruleOf state m).ignore then none else some (.token (s.tokenOf state m))
  | skipped s => some (.error s.unmatchedError)

end Passage

namespace Scanner

/-- The passage of a step, and the scanner behind it. -/
def pass? (s : Scanner) : Option (Passage × Scanner) :=
  match s.step with
  | .finished => none
  | .matched state m behind => some (.consumed s state m, behind)
  | .unmatched _ behind => some (.skipped s, behind)

section

variable {s : Scanner}

/-- The match that waits is taken first. -/
theorem step_of_pending {state : StateId} {m : RuleMatch} {pending : List (StateId × RuleMatch)}
    (h : s.pending = (state, m) :: pending) :
    s.step = .matched state m ({ s with pending }.consume state m) := by
  rw [step, h]

theorem step_of_atEnd (h : s.pending = []) (hend : s.cursor.atEnd = true) : s.step = .finished := by
  rw [step, h]
  exact if_pos hend

/-- If nothing waits and there is text ahead, the state chooses. -/
theorem step_of_choose (h : s.pending = []) (hend : s.cursor.atEnd = false) {m : RuleMatch}
    {queued : Option RuleMatch}
    (hchoose : (s.table.state s.state).choose s.cursor = some (m, queued)) :
    s.step = .matched s.state m
      ({ s with pending := queued.toList.map fun q => (s.state, q) }.consume s.state m) := by
  rw [step, h]
  dsimp only
  rw [if_neg (Bool.eq_false_iff.1 hend), hchoose]

theorem step_of_choose_none (h : s.pending = []) (hend : s.cursor.atEnd = false)
    (hchoose : (s.table.state s.state).choose s.cursor = none) :
    s.step = .unmatched s.unmatchedError (s.advance s.cursor.finish true) := by
  rw [step, h]
  dsimp only
  rw [if_neg (Bool.eq_false_iff.1 hend), hchoose]

end

/-- **What a step does:** it takes the match that waits first, or chooses one, which
leaves the match behind a gap waiting, or skips the rest of the buffer. -/
theorem pass?_cases {s behind : Scanner} {p : Passage} (h : s.pass? = some (p, behind)) :
    (∃ state m pending, s.pending = (state, m) :: pending ∧ p = .consumed s state m ∧
      behind = { s with pending }.consume state m) ∨
    (∃ m queued, s.pending = [] ∧ s.cursor.atEnd = false ∧
      (s.table.state s.state).choose s.cursor = some (m, queued) ∧ p = .consumed s s.state m ∧
      behind = { s with pending := queued.toList.map fun q => (s.state, q) }.consume s.state m) ∨
    (s.pending = [] ∧ s.cursor.atEnd = false ∧
      (s.table.state s.state).choose s.cursor = none ∧ p = .skipped s ∧
      behind = s.advance s.cursor.finish true) := by
  unfold pass? at h
  cases hpending : s.pending with
  | cons q pending =>
    rw [step_of_pending hpending] at h
    cases h
    exact .inl ⟨q.1, q.2, pending, rfl, rfl, rfl⟩
  | nil =>
    by_cases hend : s.cursor.atEnd = true
    · rw [step_of_atEnd hpending hend] at h
      cases h
    · have hend := Bool.eq_false_iff.2 hend
      cases hchoose : (s.table.state s.state).choose s.cursor with
      | some choice =>
        rw [step_of_choose hpending hend hchoose] at h
        cases h
        exact .inr (.inl ⟨choice.1, choice.2, rfl, hend, rfl, rfl, rfl⟩)
      | none =>
        rw [step_of_choose_none hpending hend hchoose] at h
        cases h
        exact .inr (.inr ⟨rfl, hend, rfl, rfl, rfl⟩)

/-- **Steps that follow each other,** with what they pass. -/
inductive Steps : Scanner → List Passage → Scanner → Prop
  | nil (s : Scanner) : Steps s [] s
  | cons {s mid last : Scanner} {p : Passage} {ps : List Passage} :
    s.pass? = some (p, mid) → Steps mid ps last → Steps s (p :: ps) last

/-- The error of a step is the one for the place of the scanner. -/
theorem step_unmatched_error {s behind : Scanner} {e : LexError}
    (h : s.step = .unmatched e behind) : e = s.unmatchedError := by
  unfold step at h
  split at h
  · cases h
  · split at h
    · cases h
    · split at h
      · cases h
      · cases h
        rfl

/-! ## The rounds of a call -/

section

variable {s behind : Scanner} {state : StateId} {m : RuleMatch} {patience rest : Nat}

theorem nextWithin_of_finished (h : s.step = .finished) : s.nextWithin patience = (none, s) := by
  rw [nextWithin, h]

theorem nextWithin_of_unmatched {e : LexError} (h : s.step = .unmatched e behind) :
    s.nextWithin patience = (some (.error e), behind) := by
  rw [nextWithin, h]

/-- A match of a rule that is not ignored is handed out. -/
theorem nextWithin_of_handed_out (h : s.step = .matched state m behind)
    (hignore : (s.ruleOf state m).ignore = false) :
    s.nextWithin patience = (some (.token (s.tokenOf state m)), behind) := by
  rw [nextWithin, h]
  simp only [hignore, Bool.false_eq_true, if_false]

/-- A match of an ignored rule is passed over, and the call goes on behind it. -/
theorem nextWithin_of_ignored (h : s.step = .matched state m behind)
    (hignore : (s.ruleOf state m).ignore = true)
    (hrest : patienceBehind patience s behind = some rest) :
    s.nextWithin patience = behind.nextWithin rest := by
  rw [nextWithin, h]
  simp only [hignore, if_true]
  split
  · rename_i rest' hrest'
    rw [hrest, Option.some.injEq] at hrest'
    rw [hrest']
  · rename_i hrest'
    rw [hrest] at hrest'
    cases hrest'

/-- The call gives up where its patience ends. -/
theorem nextWithin_of_given_up (h : s.step = .matched state m behind)
    (hignore : (s.ruleOf state m).ignore = true)
    (hrest : patienceBehind patience s behind = none) :
    s.nextWithin patience = (none, behind) := by
  rw [nextWithin, h]
  simp only [hignore, if_true]
  split
  · rename_i rest' hrest'
    rw [hrest] at hrest'
    cases hrest'
  · rfl

/-! A drain ends with its first call that gives nothing. -/

variable {item : Item}

theorem allWithin_of_none (h : s.next = (none, behind)) : s.allWithin patience = ([], behind) := by
  rw [allWithin, h]

theorem allWithin_of_some (h : s.next = (some item, behind))
    (hrest : patienceBehind patience s behind = some rest) :
    s.allWithin patience
      = (item :: (behind.allWithin rest).1, (behind.allWithin rest).2) := by
  rw [allWithin, h]
  dsimp only
  split
  · rename_i rest' hrest'
    rw [hrest, Option.some.injEq] at hrest'
    rw [hrest']
  · rename_i hrest'
    rw [hrest] at hrest'
    cases hrest'

theorem allWithin_of_given_up (h : s.next = (some item, behind))
    (hrest : patienceBehind patience s behind = none) :
    s.allWithin patience = ([item], behind) := by
  rw [allWithin, h]
  dsimp only
  split
  · rename_i rest' hrest'
    rw [hrest] at hrest'
    cases hrest'
  · rfl

end

/-! ## The passages of one call -/

/-- What `nextWithin` passes. -/
def passedWithin (patience : Nat) (s : Scanner) : List Passage :=
  match s.step with
  | .finished => []
  | .unmatched _ _ => [.skipped s]
  | .matched state m behind =>
    if (s.ruleOf state m).ignore then
      match _h : patienceBehind patience s behind with
      | some rest => .consumed s state m :: passedWithin rest behind
      | none => [.consumed s state m]
    else [.consumed s state m]
termination_by (s.left, patience)
decreasing_by exact patienceBehind_lt (by assumption)

/-- What a call for the next item passes. -/
def passed (s : Scanner) : List Passage := s.passedWithin s.patience

/-- As far as the patience goes, a call for an item is a sequence of steps, and its
item is what the passages hand out. -/
theorem nextWithin_spec (patience : Nat) (s : Scanner) :
    s.Steps (s.passedWithin patience) (s.nextWithin patience).2 ∧
      (s.nextWithin patience).1.toList = (s.passedWithin patience).filterMap Passage.item? := by
  -- The cases are those of the recursion: the passages are gathered as the call goes on.
  fun_induction passedWithin patience s with
  | case1 patience s hstep =>
    rw [nextWithin_of_finished hstep]
    exact ⟨.nil s, rfl⟩
  | case2 patience s e behind hstep =>
    rw [nextWithin_of_unmatched hstep, s.step_unmatched_error hstep]
    exact ⟨.cons (by rw [pass?, hstep]) (.nil behind), rfl⟩
  | case3 patience s state m behind hstep higno rest hrest ih =>
    have hpass : s.pass? = some (.consumed s state m, behind) := by rw [pass?, hstep]
    have hitem : (Passage.consumed s state m).item? = none := if_pos higno
    rw [nextWithin_of_ignored hstep higno hrest, List.filterMap_cons_none hitem]
    exact ⟨.cons hpass ih.1, ih.2⟩
  | case4 patience s state m behind hstep higno hrest =>
    have hpass : s.pass? = some (.consumed s state m, behind) := by rw [pass?, hstep]
    have hitem : (Passage.consumed s state m).item? = none := if_pos higno
    rw [nextWithin_of_given_up hstep higno hrest, List.filterMap_cons_none hitem]
    exact ⟨.cons hpass (.nil behind), rfl⟩
  | case5 patience s state m behind hstep higno =>
    have hpass : s.pass? = some (.consumed s state m, behind) := by rw [pass?, hstep]
    have hitem : (Passage.consumed s state m).item? = some (.token (s.tokenOf state m)) :=
      if_neg higno
    rw [nextWithin_of_handed_out hstep (Bool.eq_false_iff.2 higno),
      List.filterMap_cons_some hitem]
    exact ⟨.cons hpass (.nil behind), rfl⟩

/-- **A call for an item is a sequence of steps.** -/
theorem steps_passed (s : Scanner) : s.Steps s.passed s.next.2 :=
  (s.nextWithin_spec s.patience).1

/-- **The item is what the passages hand out:** all of them are of ignored rules, the
last one apart. -/
theorem toList_next (s : Scanner) : s.next.1.toList = s.passed.filterMap Passage.item? :=
  (s.nextWithin_spec s.patience).2

end Scanner

/-! ## Calls and runs -/

/-- What can be asked of a scanner from one buffer to the next. -/
inductive Call where
  /-- The next item. -/
  | next
  /-- More text at the end of the buffer. -/
  | feed (text : List Char)
  /-- Another state. -/
  | setState (name : String)
  /-- Another state, with the present one remembered. -/
  | pushState (name : String)
  /-- The state that was remembered last. -/
  | popState

/-- The text that a call adds to the buffer. -/
def Call.fed : Call → List Char
  | .feed text => text
  | _ => []

namespace Scanner

/-- The scanner behind a call. One that asks for a state that does not exist leaves
it as it is. -/
def call (s : Scanner) : Call → Scanner
  | .next => s.next.2
  | .feed text => s.feed text
  | .setState name => (s.setState name).toOption.getD s
  | .pushState name => (s.pushState name).toOption.getD s
  | .popState => s.popState

/-- What a call passes. -/
def passedBy (s : Scanner) : Call → List Passage
  | .next => s.passed
  | _ => []

/-- The item that a call hands out. -/
def itemOf? (s : Scanner) : Call → Option Item
  | .next => s.next.1
  | _ => none

/-- **The scanner behind a run** of calls. -/
def run (s : Scanner) : List Call → Scanner
  | [] => s
  | call :: calls => (s.call call).run calls

/-- **What a run passes.** -/
def passages (s : Scanner) : List Call → List Passage
  | [] => []
  | call :: calls => s.passedBy call ++ (s.call call).passages calls

/-- **What a run hands out.** -/
def items (s : Scanner) : List Call → List Item
  | [] => []
  | call :: calls => (s.itemOf? call).toList ++ (s.call call).items calls

/-- A run hands out what its passages hand out, in their order. -/
theorem items_eq (s : Scanner) (calls : List Call) :
    s.items calls = (s.passages calls).filterMap Passage.item? := by
  induction calls generalizing s with
  | nil => rfl
  | cons call calls ih =>
    have hcall : (s.itemOf? call).toList = (s.passedBy call).filterMap Passage.item? := by
      cases call with
      | next => exact s.toList_next
      | _ => rfl
    rw [items, passages, List.filterMap_append, ih, hcall]

/-- What a run passes behind another one. -/
theorem passages_append (s : Scanner) (front back : List Call) :
    s.passages (front ++ back) = s.passages front ++ (s.run front).passages back := by
  induction front generalizing s with
  | nil => rfl
  | cons call front ih => rw [List.cons_append, passages, passages, run, ih, List.append_assoc]

theorem run_append (s : Scanner) (front back : List Call) :
    s.run (front ++ back) = (s.run front).run back := by
  induction front generalizing s with
  | nil => rfl
  | cons call front ih => rw [List.cons_append, run, run, ih]

/-- **From a step to a run.** A relation between a scanner, what is passed and fed
from there on, and the scanner behind it holds of every run if it can be put
together from parts, and holds of every step and of every call that passes
nothing. -/
theorem of_steps {R : Scanner → List Passage → List Char → Scanner → Prop}
    (nil : ∀ s, R s [] [] s)
    (append : ∀ {s mid last ps qs fed more}, R s ps fed mid → R mid qs more last →
      R s (ps ++ qs) (fed ++ more) last)
    (pass : ∀ {s p behind}, s.pass? = some (p, behind) → R s [p] [] behind)
    (call : ∀ (s : Scanner) (c : Call), c ≠ .next → R s [] c.fed (s.call c))
    (s : Scanner) (calls : List Call) :
    R s (s.passages calls) (calls.flatMap Call.fed) (s.run calls) := by
  have steps {s last : Scanner} {ps : List Passage} (h : s.Steps ps last) : R s ps [] last := by
    induction h with
    | nil s => exact nil s
    | cons hpass _ ih => exact append (pass hpass) ih
  induction calls generalizing s with
  | nil => exact nil s
  | cons c calls ih =>
    rw [passages, run, List.flatMap_cons]
    refine append ?_ (ih (s.call c))
    cases c with
    | next => exact steps s.steps_passed
    | _ => exact call s _ (by simp)

end Scanner

/-! ## Where runs begin -/

/-- **A scanner at the start of a buffer:** a new one, or one that was reset. `base`
is where it stands, which is line one and column one unless it was reset with a
saved place. -/
inductive Scanner.Starts (buffer : List Char) : Position → Scanner → Prop
  | new (t : Table) : Starts buffer {} (t.scanner buffer)
  | reset {s s' : Scanner} {saved : Option SavedPlace} :
    s.reset buffer saved = .ok s' →
      Starts buffer ((saved.map fun p => ⟨p.line, p.col⟩).getD {}) s'

end StatefulLexer
