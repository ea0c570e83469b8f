/-
What waits, and may be forgotten.

A caller who saves the place of a scanner does not save the match that waits behind a
gap. It need not be: as long as nobody but the rules sends the scanner to another
state, what waits is what the state would choose again, where the scanner stands. So a
scanner from which the waiting match is taken away goes on as it would have.

That the states are among those of the table is kept along with it.

Main statements: `Undisturbed.pass`, `Undisturbed.next_forget`.
-/
import StatefulLexer.Proofs.Run.Partition
import StatefulLexer.Proofs.Run.Reachable
import StatefulLexer.Proofs.State.Gap
import StatefulLexer.Proofs.Table.Compile

set_option autoImplicit false

namespace StatefulLexer.Scanner

/-! ## The invariant -/

/-- The states of the scanner are states of its table. -/
structure InTable (s : Scanner) : Prop where
  state : s.state < s.table.states.length
  stack : ∀ id ∈ s.stack, id < s.table.states.length

/-- **A scanner is undisturbed** if what waits is what would be chosen anyway. -/
structure Undisturbed (s : Scanner) : Prop where
  wellPlaced : s.WellPlaced
  inTable : s.InTable
  waiting : s.pending = [] ∨ ∃ m, s.pending = [(s.state, m)] ∧ s.cursor.atEnd = false ∧
    (s.table.state s.state).choose s.cursor = some (m, none)

/-! ## States of the table -/

/-- A transition to a state of the table, or back, leads to a state of the table. -/
theorem InTable.transit {s : Scanner} (hs : s.InTable) {t : Transition}
    (ht : ∀ id ∈ t.target?, id < s.table.states.length) : (s.transit t).InTable := by
  refine ⟨?_, ?_⟩
  · rw [table_transit]
    unfold Scanner.transit
    split
    · exact hs.state
    · exact ht _ rfl
    · exact ht _ rfl
    · split
      · exact hs.state
      · rename_i target stack hstack
        exact hs.stack target (by rw [hstack]; exact List.mem_cons_self)
  · rw [table_transit]
    unfold Scanner.transit
    split
    · exact hs.stack
    · intro id hid
      rcases List.mem_cons.1 hid with rfl | hid
      · exact hs.state
      · exact hs.stack id hid
    · exact hs.stack
    · split
      · exact hs.stack
      · rename_i target stack hstack
        intro id hid
        exact hs.stack id (by rw [hstack]; exact List.mem_cons_of_mem _ hid)

/-- To consume a match leads to a state of the table. -/
theorem InTable.consume {s : Scanner} (hs : s.InTable) {names : List String}
    (ht : s.table.Spec names) (pending : List (StateId × RuleMatch)) (state : StateId)
    (m : RuleMatch) : ({ s with pending }.consume state m).InTable := by
  have hadvanced : ({ s with pending }.advance m.span.stop (s.ruleOf state m).lineBreaks).InTable :=
    ⟨hs.state, hs.stack⟩
  refine hadvanced.transit ?_
  show ∀ id ∈ (s.ruleOf state m).transition.target?, id < s.table.states.length
  rcases s.ruleOf_mem state m with ⟨st, hst, hr⟩ | hr
  · exact ht.target_lt hst hr
  · rw [hr]
    exact nofun

/-- A name that is known leads to a state of the table. -/
theorem resolve_lt {s : Scanner} {name : String} {id : StateId} (h : s.resolve name = .ok id) :
    id < s.table.states.length := by
  unfold resolve at h
  split at h
  · rename_i id' hname
    rw [← Except.ok.inj h]
    exact Table.stateId?_lt hname
  · cases h

/-- Calls that are not for an item lead to states of the table. -/
theorem InTable.call {s : Scanner} (hs : s.InTable) {c : Call} (hc : c ≠ .next) :
    (s.call c).InTable := by
  have resolved {name : String} {id : StateId} (h : s.resolve name = .ok id)
      {target : StateId} (htarget : some target = some id) : target < s.table.states.length := by
    rw [Option.some.inj htarget]
    exact resolve_lt h
  cases c with
  | next => exact absurd rfl hc
  | feed text => exact ⟨hs.state, hs.stack⟩
  | popState => exact hs.transit (t := .pop) nofun
  | setState name =>
    rw [Scanner.call, setState]
    cases hname : s.resolve name with
    | error e => exact hs
    | ok id => exact hs.transit (t := .next id) fun _ htarget => resolved hname htarget.symm
  | pushState name =>
    rw [Scanner.call, pushState]
    cases hname : s.resolve name with
    | error e => exact hs
    | ok id => exact hs.transit (t := .push id) fun _ htarget => resolved hname htarget.symm

/-- At the start of a buffer the states are those of the table. -/
theorem Starts.inTable {buffer : List Char} {base : Position} {s : Scanner}
    (h : Starts buffer base s) {names : List String} (ht : s.table.Spec names) : s.InTable := by
  cases h with
  | new t => exact ⟨ht.start, nofun⟩
  | @reset s₀ _ saved h =>
    have htable : s.table = s₀.table := table_reset h
    cases saved with
    | none =>
      cases h
      exact ⟨ht.start, nofun⟩
    | some p =>
      obtain ⟨state, hstate, h⟩ := bind_eq_ok.1 h
      obtain ⟨stack, hstack, h⟩ := bind_eq_ok.1 h
      cases h
      refine ⟨resolve_lt hstate, fun id hid => ?_⟩
      obtain ⟨name, _, hname⟩ := exists_of_mem_mapM hstack id (List.mem_reverse.1 hid)
      exact resolve_lt hname

/-! ## Steps -/

/-- **Behind a gap** the scanner stands where the gap ends, in the state that found it. There
the state chooses the match that waits. -/
theorem consume_gap {s : Scanner} {names : List String} (ht : s.table.Spec names)
    (hlook : ∀ st ∈ s.table.states, st.LookFree) {m q : RuleMatch}
    (hchoose : (s.table.state s.state).choose s.cursor = some (m, some q))
    {pending : List (StateId × RuleMatch)}
    (hpassing : s.Passing (.consumed s s.state m) ({ s with pending }.consume s.state m)) :
    ({ s with pending }.consume s.state m).state = s.state ∧
    ({ s with pending }.consume s.state m).cursor.atEnd = false ∧
    (s.table.state s.state).choose ({ s with pending }.consume s.state m).cursor
      = some (q, none) := by
  have hst := Table.state_mem_of_choose hchoose
  obtain ⟨decls, ctx, _, hcompile⟩ := ht.states _ hst
  obtain ⟨k, hspan, hahead, hagain, hstay⟩ :=
    State.choose_behind_gap hcompile (hlook _ hst) hchoose
  have htext : s.cursor.ComesNext (s.cursor.ahead.take k) m.span := by
    rw [hspan]
    exact ⟨List.take_prefix k _, rfl, s.cursor.offset_advance k⟩
  have hplace : ({ s with pending }.consume s.state m).cursor = s.cursor.advance k := by
    rw [hpassing.cursor, ← s.cursor.advance_length_take k]
    exact congrArg (fun text : List Char => s.cursor.advance text.length) htext.slice
  have hrule : (s.ruleOf s.state m).transition = .stay := hstay
  refine ⟨?_, ?_, ?_⟩
  · show (Scanner.transit _ (s.ruleOf s.state m).transition).state = s.state
    rw [hrule]
    rfl
  · rw [hplace]
    exact List.isEmpty_eq_false_iff.2 hahead
  · rw [hplace]
    exact hagain

/-- **A step leaves a scanner undisturbed.** What it leaves waiting was found behind a gap,
and is what the state chooses there. -/
theorem Undisturbed.pass {s behind : Scanner} (hs : s.Undisturbed) {names : List String}
    (ht : s.table.Spec names) (hlook : ∀ st ∈ s.table.states, st.LookFree) {p : Passage}
    (h : s.pass? = some (p, behind)) : behind.Undisturbed := by
  have hpassing := pass?_passing hs.wellPlaced h
  rcases pass?_cases h with ⟨state, m, pending, hpending, _, hbehind⟩ |
    ⟨m, queued, _, _, hchoose, hp, hbehind⟩ | ⟨hpending, _, _, _, hbehind⟩
  · refine ⟨hpassing.wellPlaced, ?_, .inl ?_⟩
    · rw [hbehind]
      exact hs.inTable.consume ht ..
    · -- There was one match at most, and it is gone.
      have hone := hs.wellPlaced.one
      rw [hpending, List.length_cons] at hone
      rw [hbehind, consume, pending_transit]
      exact List.length_eq_zero_iff.1 (Nat.le_zero.1 (Nat.le_of_succ_le_succ hone))
  · have hwaits : behind.pending = queued.toList.map fun q => (s.state, q) := by
      rw [hbehind, consume, pending_transit]
      rfl
    refine ⟨hpassing.wellPlaced, by rw [hbehind]; exact hs.inTable.consume ht .., ?_⟩
    cases queued with
    | none => exact .inl hwaits
    | some q =>
      rw [hp] at hpassing
      rw [hbehind] at hpassing hwaits ⊢
      obtain ⟨hstate, hend, hagain⟩ := consume_gap ht hlook hchoose hpassing
      refine .inr ⟨q, ?_, hend, ?_⟩
      · rw [hwaits, hstate]
        rfl
      · rw [hpassing.table, hstate]
        exact hagain
  · refine ⟨hpassing.wellPlaced, ?_, .inl ?_⟩
    · rw [hbehind]
      exact ⟨hs.inTable.state, hs.inTable.stack⟩
    · rw [hbehind]
      exact hpending

/-! ## Forgetting -/

/-- The scanner without the match that waits. -/
def forget (s : Scanner) : Scanner := { s with pending := [] }

/-- **To forget what waits changes nothing** about the next item and the scanner behind it. -/
theorem Undisturbed.next_forget {s : Scanner} (hs : s.Undisturbed) : s.forget.next = s.next := by
  rcases hs.waiting with hnil | ⟨m, hpending, hend, hchoose⟩
  · have hsame : s.forget = s := by
      unfold forget
      rw [← hnil]
    rw [hsame]
  · -- Both consume the same match in the same state, and go on alike.
    have hstep : s.step = .matched s.state m (s.forget.consume s.state m) :=
      step_of_pending hpending
    have hforget : s.forget.step = .matched s.state m (s.forget.consume s.state m) :=
      step_of_choose (s := s.forget) rfl hend hchoose
    unfold next
    by_cases higno : (s.ruleOf s.state m).ignore = true
    · have hsame : patienceBehind s.forget.patience s.forget (s.forget.consume s.state m)
          = patienceBehind s.patience s (s.forget.consume s.state m) := rfl
      rcases Option.eq_none_or_eq_some
          (patienceBehind s.patience s (s.forget.consume s.state m)) with hrest | ⟨rest, hrest⟩
      · rw [nextWithin_of_given_up hstep higno hrest,
          nextWithin_of_given_up hforget higno (hsame.trans hrest)]
      · rw [nextWithin_of_ignored hstep higno hrest,
          nextWithin_of_ignored hforget higno (hsame.trans hrest)]
    · have higno := Bool.eq_false_iff.2 higno
      rw [nextWithin_of_handed_out hstep higno, nextWithin_of_handed_out hforget higno]
      rfl

end StatefulLexer.Scanner
