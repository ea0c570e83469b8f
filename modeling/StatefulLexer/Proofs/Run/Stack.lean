/-
The stack of states.

Of all that a scanner does only transitions touch the states it is and was in: those of the
rules whose matches it consumes, and those that a caller asks for. So a run is looked at as
the list of its transitions, one for each match and for each call. What holds of the stack
is then shown of lists of transitions, and carried over to runs by `modes_singleRun`.

What was pushed is popped by the transition that matches it, whatever the states in between
did. A pop that matches no push takes from what was there at the beginning, and nothing if
there is nothing.

Main statement: `stack_discipline`.
-/
import StatefulLexer.Proofs.Run.Resume
import StatefulLexer.Proofs.Run.Undecorated

set_option autoImplicit false

namespace StatefulLexer

/-! ## Transitions alone -/

/-- The state that a scanner is in, and those it remembers, last one first. -/
abbrev Modes : Type := StateId × List StateId

namespace Transition

/-- The states behind a transition. -/
def lead : Transition → Modes → Modes
  | .stay, m => m
  | .push target, (state, stack) => (target, state :: stack)
  | .next target, (_, stack) => (target, stack)
  | .pop, (state, []) => (state, [])
  | .pop, (_, target :: stack) => (target, stack)

/-- The depth behind a transition: one more, or one less if there is one. -/
def depth : Transition → Nat → Nat
  | .push _, d => d + 1
  | .pop, d => d - 1
  | _, d => d

/-- A state is remembered. -/
def isPush : Transition → Bool
  | .push _ => true
  | _ => false

/-- The number of states that are remembered. -/
def pushes (ts : List Transition) : Nat := ts.countP isPush

/-- The number of states that are asked back for. -/
def pops (ts : List Transition) : Nat := ts.count .pop

/-- The states behind several transitions. -/
def leadAll (ts : List Transition) (m : Modes) : Modes := ts.foldl (fun m t => t.lead m) m

/-- The depth behind several transitions. -/
def depthAll (ts : List Transition) (d : Nat) : Nat := ts.foldl (fun d t => t.depth d) d

/-- **Balanced transitions:** each push is followed by the pop that matches it, and each pop
matches a push. In between the state may change without regard to the stack. -/
inductive Balanced : List Transition → Prop
  | nil : Balanced []
  | stay {ts : List Transition} : Balanced ts → Balanced (.stay :: ts)
  | next (target : StateId) {ts : List Transition} : Balanced ts → Balanced (.next target :: ts)
  | nest (target : StateId) {inner outer : List Transition} : Balanced inner → Balanced outer →
    Balanced (.push target :: (inner ++ .pop :: outer))

theorem leadAll_cons (t : Transition) (ts : List Transition) (m : Modes) :
    leadAll (t :: ts) m = leadAll ts (t.lead m) := rfl

theorem leadAll_append (ts us : List Transition) (m : Modes) :
    leadAll (ts ++ us) m = leadAll us (leadAll ts m) := List.foldl_append

theorem depthAll_cons (t : Transition) (ts : List Transition) (d : Nat) :
    depthAll (t :: ts) d = depthAll ts (t.depth d) := rfl

/-- A transition changes the depth of the stack as it changes a depth. -/
theorem length_lead (t : Transition) (m : Modes) :
    (t.lead m).2.length = t.depth m.2.length := by
  obtain ⟨state, stack⟩ := m
  cases t with
  | stay => rfl
  | push target => rfl
  | next target => rfl
  | pop =>
    cases stack with
    | nil => rfl
    | cons top stack => rfl

/-- **The depth is the fold** of what the transitions do to it. -/
theorem length_leadAll (ts : List Transition) (m : Modes) :
    (leadAll ts m).2.length = depthAll ts m.2.length := by
  induction ts generalizing m with
  | nil => rfl
  | cons t ts ih => rw [leadAll_cons, depthAll_cons, ih, length_lead]

/-- What is on top is popped. -/
theorem lead_pop {m : Modes} {top : StateId} {stack : List StateId} (h : m.2 = top :: stack) :
    lead .pop m = (top, stack) := by
  obtain ⟨state, rest⟩ := m
  subst h
  rfl

/-- **Balanced transitions leave the stack as it is,** whatever state they end in. -/
theorem Balanced.stack_leadAll {ts : List Transition} (h : Balanced ts) (m : Modes) :
    (leadAll ts m).2 = m.2 := by
  induction h generalizing m with
  | nil => rfl
  | stay _ ih => exact ih m
  | next target _ ih => exact ih (target, m.2)
  | nest target _ _ ih ih' =>
    -- The pop finds on top what the push put there.
    rw [leadAll_cons, leadAll_append, leadAll_cons, lead_pop (ih (lead (.push target) m))]
    exact ih' m

/-- **A push, and the pop that matches it,** lead back to where they began. -/
theorem Balanced.leadAll_nest {inner : List Transition} (h : Balanced inner) (target : StateId)
    (m : Modes) : leadAll (.push target :: (inner ++ [.pop])) m = m := by
  rw [leadAll_cons, leadAll_append]
  exact lead_pop (h.stack_leadAll (lead (.push target) m))

/-- Where there is nothing to pop, pops change nothing. -/
theorem leadAll_pops {ts : List Transition} (h : ∀ t ∈ ts, t = .pop) (state : StateId) :
    leadAll ts (state, []) = (state, []) := by
  induction ts with
  | nil => rfl
  | cons t ts ih =>
    obtain ⟨rfl, hts⟩ := List.forall_mem_cons.1 h
    exact ih hts

@[simp] theorem pushes_nil : pushes [] = 0 := rfl

@[simp] theorem pops_nil : pops [] = 0 := rfl

@[simp] theorem pushes_cons (t : Transition) (ts : List Transition) :
    pushes (t :: ts) = pushes ts + if t.isPush then 1 else 0 := by
  rw [pushes, List.countP_cons]
  rfl

@[simp] theorem pops_cons (t : Transition) (ts : List Transition) :
    pops (t :: ts) = pops ts + if t = .pop then 1 else 0 := by
  simp [pops, List.count_cons]

/-- Pushes and pops make up for the depth, as long as there never were more pops than pushes
and `credit` more that are known to find something. -/
theorem depthAll_add_pops {ts : List Transition} {credit d : Nat} (hcredit : credit ≤ d)
    (h : ∀ front, front <+: ts → pops front ≤ pushes front + credit) :
    depthAll ts d + pops ts = d + pushes ts := by
  induction ts generalizing credit d with
  | nil => rfl
  | cons t ts ih =>
    have hmore (front : List Transition) (hfront : front <+: ts) :=
      h (t :: front) (List.cons_prefix_cons.2 ⟨rfl, hfront⟩)
    simp only [pops_cons, pushes_cons] at hmore ⊢
    rw [depthAll_cons]
    cases t with
    | stay => exact ih hcredit hmore
    | next target => exact ih hcredit hmore
    | push target =>
      simp only [isPush, reduceCtorEq, if_true, if_false] at hmore ⊢
      have hpushed := ih (show credit + 1 ≤ d + 1 by omega) fun front hfront => by
        have := hmore front hfront
        omega
      show depthAll ts (d + 1) + _ = _
      omega
    | pop =>
      simp only [isPush, Bool.false_eq_true, if_true, if_false] at hmore ⊢
      -- The pop takes one of those that are known to find something.
      have hone := hmore [] List.nil_prefix
      simp only [pops_nil, pushes_nil] at hone
      have hpopped := ih (show credit - 1 ≤ d - 1 by omega) fun front hfront => by
        have := hmore front hfront
        omega
      show depthAll ts (d - 1) + _ = _
      omega

/-- **What lies deeper than a transition reaches** is unchanged. -/
theorem bottom_lead (t : Transition) (m : Modes) {n : Nat} (hn : n ≤ m.2.length)
    (hn' : n ≤ (t.lead m).2.length) : (t.lead m).2.reverse.take n = m.2.reverse.take n := by
  obtain ⟨state, stack⟩ := m
  cases t with
  | stay => rfl
  | next target => rfl
  | push target =>
    show (state :: stack).reverse.take n = _
    rw [List.reverse_cons, List.take_append_of_le_length]
    rw [List.length_reverse]
    exact hn
  | pop =>
    cases stack with
    | nil => rfl
    | cons top stack =>
      show stack.reverse.take n = (top :: stack).reverse.take n
      rw [List.reverse_cons, List.take_append_of_le_length]
      rw [List.length_reverse]
      exact hn'

end Transition

/-! ## The transitions of a run -/

/-- The transition of the rule whose match is consumed. -/
def Passage.transition : Passage → Transition
  | consumed s state m => (s.ruleOf state m).transition
  | skipped _ => .stay

namespace Scanner

/-- The state that the scanner is in, and those it remembers. -/
def modes (s : Scanner) : Modes := (s.state, s.stack)

/-- The transition of a call, where a call for an item is a single match. One that asks for
a state that does not exist makes none. -/
def transitionOf (s : Scanner) : Call → Transition
  | .next => (s.pass?.map fun q => q.1.transition).getD .stay
  | .feed _ => .stay
  | .setState name => ((s.resolve name).toOption.map .next).getD .stay
  | .pushState name => ((s.resolve name).toOption.map .push).getD .stay
  | .popState => .pop

/-- The scanner behind several matches and calls. -/
def calledSingly (s : Scanner) (calls : List Call) : Scanner := s.singleRun (calls.map .call)

/-- **The transitions of several matches and calls,** one for each of them. -/
def transitions (s : Scanner) : List Call → List Transition
  | [] => []
  | c :: calls => s.transitionOf c :: (s.singleStep (.call c)).transitions calls

theorem calledSingly_append (s : Scanner) (front back : List Call) :
    s.calledSingly (front ++ back) = (s.calledSingly front).calledSingly back := by
  rw [calledSingly, List.map_append, singleRun_append]
  rfl

/-- The first transitions of a run are those of its first calls. -/
theorem exists_of_prefix_transitions {s : Scanner} {calls : List Call} {ts : List Transition}
    (h : ts <+: s.transitions calls) : ∃ front, front <+: calls ∧ s.transitions front = ts := by
  induction calls generalizing s ts with
  | nil => exact ⟨[], List.prefix_refl _, (List.prefix_nil.1 h).symm⟩
  | cons c calls ih =>
    rcases List.prefix_cons_iff.1 h with rfl | ⟨ts, rfl, hts⟩
    · exact ⟨[], List.nil_prefix, rfl⟩
    · obtain ⟨front, hfront, rfl⟩ := ih hts
      exact ⟨c :: front, List.cons_prefix_cons.2 ⟨rfl, hfront⟩, rfl⟩

/-- A transition leads to the states that it leads to by itself. -/
theorem modes_transit (s : Scanner) (t : Transition) : (s.transit t).modes = t.lead s.modes := by
  cases t with
  | stay => rfl
  | push target => rfl
  | next target => rfl
  | pop =>
    rw [transit, modes, modes]
    cases hstack : s.stack with
    | nil => exact congrArg (Prod.mk s.state) hstack
    | cons top stack => rfl

/-- **A match or a call touches the states by its transition alone.** -/
theorem modes_singleStep (s : Scanner) (c : Call) :
    (s.singleStep (.call c)).modes = (s.transitionOf c).lead s.modes := by
  cases c with
  | next =>
    rw [singleStep, transitionOf]
    cases hpass : s.pass? with
    | none => rfl
    | some q =>
      obtain ⟨p, behind⟩ := q
      rcases pass?_cases hpass with ⟨state, m, pending, _, rfl, rfl⟩ |
        ⟨m, queued, _, _, _, rfl, rfl⟩ | ⟨_, _, _, rfl, rfl⟩
      · exact modes_transit _ _
      · exact modes_transit _ _
      · rfl
  | feed text => rfl
  | setState name =>
    show ((s.setState name).toOption.getD s).modes = _
    rw [setState, transitionOf]
    cases s.resolve name with
    | error e => rfl
    | ok id => exact s.modes_transit (.next id)
  | pushState name =>
    show ((s.pushState name).toOption.getD s).modes = _
    rw [pushState, transitionOf]
    cases s.resolve name with
    | error e => rfl
    | ok id => exact s.modes_transit (.push id)
  | popState => exact s.modes_transit .pop

/-- **A run touches the states by its transitions alone.** -/
theorem modes_calledSingly (s : Scanner) (calls : List Call) :
    (s.calledSingly calls).modes = Transition.leadAll (s.transitions calls) s.modes := by
  induction calls generalizing s with
  | nil => rfl
  | cons c calls ih =>
    rw [transitions, Transition.leadAll_cons, ← modes_singleStep]
    exact ih (s.singleStep (.call c))

/-- **Every run is one of single matches and calls:** a call for an item is some matches. -/
theorem exists_calledSingly (s : Scanner) (calls : List Call) :
    ∃ singles, s.run calls = s.calledSingly singles := by
  induction calls generalizing s with
  | nil => exact ⟨[], rfl⟩
  | cons c calls ih =>
    have hcall : ∃ front, s.call c = s.calledSingly front := by
      by_cases hc : c = .next
      · refine ⟨List.replicate s.passed.length .next, ?_⟩
        rw [hc, calledSingly, List.map_replicate, s.steps_passed.singly.1]
        rfl
      · refine ⟨[c], ?_⟩
        have hne : Operation.call c ≠ .call .next := fun h => hc (Operation.call.inj h)
        exact (single_of_ne hne s).1.symm
    obtain ⟨front, hfront⟩ := hcall
    obtain ⟨back, hback⟩ := ih (s.call c)
    refine ⟨front ++ back, ?_⟩
    rw [run, hback, calledSingly_append, hfront]

/-- What lies deeper than a run ever reaches is unchanged. -/
theorem bottom_calledSingly (s : Scanner) (calls : List Call) {n : Nat}
    (h : ∀ front, front <+: calls → n ≤ (s.calledSingly front).stack.length) :
    (s.calledSingly calls).stack.reverse.take n = s.stack.reverse.take n := by
  induction calls generalizing s with
  | nil => rfl
  | cons c calls ih =>
    have hbegin : n ≤ s.modes.2.length := h [] List.nil_prefix
    have hstep : n ≤ ((s.transitionOf c).lead s.modes).2.length := by
      rw [← modes_singleStep]
      exact h [c] (List.cons_prefix_cons.2 ⟨rfl, List.nil_prefix⟩)
    have hbottom := Transition.bottom_lead _ _ hbegin hstep
    rw [← modes_singleStep] at hbottom
    refine (ih (s.singleStep (.call c)) fun front hfront => ?_).trans hbottom
    exact h (c :: front) (List.cons_prefix_cons.2 ⟨rfl, hfront⟩)

/-- **The stack is a stack,** along every run of matches and calls. A push and the pop that
matches it lead back to the state and the stack in front of the push, if what lies in between
is balanced. The depth is what the pushes and pops make of it, and less than at the beginning
only if somewhere on the way there were more pops than pushes. What lies deeper than the run
ever reaches is unchanged. And where the stack is empty, pops change nothing. -/
theorem stack_discipline (s : Scanner) (calls : List Call) :
    (∀ target inner, s.transitions calls = .push target :: (inner ++ [.pop]) →
      Transition.Balanced inner →
      (s.calledSingly calls).state = s.state ∧ (s.calledSingly calls).stack = s.stack) ∧
    (s.calledSingly calls).stack.length
      = Transition.depthAll (s.transitions calls) s.stack.length ∧
    ((s.calledSingly calls).stack.length < s.stack.length → ∃ front, front <+: calls ∧
      Transition.pushes (s.transitions front) < Transition.pops (s.transitions front)) ∧
    (∀ n, (∀ front, front <+: calls → n ≤ (s.calledSingly front).stack.length) →
      (s.calledSingly calls).stack.reverse.take n = s.stack.reverse.take n) ∧
    (s.stack = [] → (∀ t ∈ s.transitions calls, t = .pop) →
      (s.calledSingly calls).state = s.state ∧ (s.calledSingly calls).stack = []) := by
  have hmodes := s.modes_calledSingly calls
  have hlength : (s.calledSingly calls).stack.length
      = Transition.depthAll (s.transitions calls) s.stack.length := by
    have hleads := Transition.length_leadAll (s.transitions calls) s.modes
    rw [← hmodes] at hleads
    exact hleads
  refine ⟨fun target inner hcalls hinner => ?_, hlength, fun hless => ?_,
    fun n hn => s.bottom_calledSingly calls hn, fun hempty hpops => ?_⟩
  · rw [hcalls, hinner.leadAll_nest] at hmodes
    exact Prod.mk.inj hmodes
  · -- As long as pops are no more than pushes, the depth is what it was and the rest of them.
    by_contra hnone
    have hnone : ∀ front, front <+: calls →
        Transition.pops (s.transitions front) ≤ Transition.pushes (s.transitions front) :=
      fun front hfront => Nat.not_lt.1 fun hlt => hnone ⟨front, hfront, hlt⟩
    have hdepth := Transition.depthAll_add_pops (Nat.zero_le s.stack.length) fun ts hts => by
      obtain ⟨front, hfront, rfl⟩ := exists_of_prefix_transitions hts
      exact hnone front hfront
    have hall := hnone calls (List.prefix_refl _)
    omega
  · rw [modes, modes, hempty, Transition.leadAll_pops hpops] at hmodes
    exact Prod.mk.inj hmodes

/-- A word in braces. Before its end the caller goes to the text and back again, with a push
and a pop of its own. -/
def bracedCalls : List Call :=
  [.next, .next, .setState "text", .pushState "words", .popState, .setState "words", .next]

/-- Behind the closing brace the scanner is where it was in front of the opening one. -/
theorem stack_discipline_braces :
    ∃ t s, bracesLexer.compile = .ok t ∧ t.scanner "\x7bab\x7d".toList = s ∧
      s.transitions bracedCalls = .push 1 :: ([.stay, .next 0, .push 1, .pop, .next 1] ++ [.pop]) ∧
      (s.calledSingly bracedCalls).state = s.state ∧ (s.calledSingly bracedCalls).stack = s.stack := by
  have hfacts : (bracesLexer.compile.toOption.map fun t =>
      (t.scanner "\x7bab\x7d".toList).transitions bracedCalls)
      = some (.push 1 :: ([.stay, .next 0, .push 1, .pop, .next 1] ++ [.pop])) := by cbv
  obtain ⟨t, ht, hcalls⟩ := exists_ok_of_map hfacts
  have hbalanced : Transition.Balanced [.stay, .next 0, .push 1, .pop, .next 1] :=
    .stay (.next 0 (.nest 1 .nil (.next 1 .nil)))
  obtain ⟨hstate, hstack⟩ := (stack_discipline _ bracedCalls).1 1 _ hcalls hbalanced
  exact ⟨t, _, ht, rfl, hcalls, hstate, hstack⟩

end Scanner

end StatefulLexer
