/-
Scanning with states in another order.

Two lexers are the same but for the order of their states. A scanner of the first one has
numbers of states in three places: the state it is in, those it remembers, and those that
its waiting matches were found in. With other numbers there, and the table of the second
lexer, it does what it did, since a state chooses the same and leads to the same names. So
scanners of both are in step from the start, operation by operation. What they hand out
and what they save has names in it and no numbers.

Main statement: `Scanner.order_of_states`.
-/
import StatefulLexer.Proofs.Run.Reachable
import StatefulLexer.Proofs.Table.Permuted

set_option autoImplicit false

namespace StatefulLexer

variable {f : StateId → StateId} {t t' : Table}

/-! ## States and rules -/

/-- Rules are found by their numbers in the state. -/
theorem State.rule_renumber (st : State) (id : RuleId) :
    (st.renumber f).rule id = (st.rule id).renumber f := by
  rw [rule, rule, List.getD_eq_getElem?_getD, List.getD_eq_getElem?_getD, renumber,
    List.getElem?_map]
  cases st.rules[id]? <;> rfl

/-- **A state chooses the same,** wherever its rules lead. -/
theorem State.choose_renumber (st : State) (c : Cursor) :
    (st.renumber f).choose c = st.choose c := by
  have hmatch (c : Cursor) : (st.renumber f).matchAt? c = st.matchAt? c := by
    simp only [matchAt?, rule_renumber]
    rfl
  have hsearch (n : Nat) (c : Cursor) : (st.renumber f).findWithin n c = st.findWithin n c := by
    induction n generalizing c with
    | zero => exact hmatch c
    | succ n ih => rw [findWithin, findWithin, hmatch, ih]
  simp only [choose, hmatch, hsearch]
  rfl

/-- The state of a name is the same, but that it is at another number. -/
theorem Table.Renumbered.stateNamed? (h : t.Renumbered f t') (name : String) :
    t'.stateNamed? name = (t.stateNamed? name).map (State.renumber f) := by
  have hfind (t : Table) : t.stateNamed? name = (t.stateId? name).bind fun id => t.states[id]? :=
    List.find?_eq_bind_findIdx?_getElem?
  rw [hfind, hfind, h.stateId?, Option.bind_map]
  cases t.stateId? name with
  | none => rfl
  | some id => exact h.states id

namespace Scanner

/-! ## The scanner of the other lexer -/

/-- **The scanner with other numbers,** in the table where these are those of its states. -/
def renumber (f : StateId → StateId) (t' : Table) (s : Scanner) : Scanner :=
  { s with
    table := t'
    state := f s.state
    stack := s.stack.map f
    pending := s.pending.map fun q => (f q.1, q.2) }

/-- A step of the scanner with other numbers. -/
def Step.renumber (f : StateId → StateId) (t' : Table) : Step → Step
  | finished => finished
  | matched state m behind => matched (f state) m (behind.renumber f t')
  | unmatched error behind => unmatched error (behind.renumber f t')

section

variable {s : Scanner} (h : s.table.Renumbered f t')
include h

/-- Names are saved, so the same is saved. -/
theorem save_renumber : (s.renumber f t').save = s.save := by
  simp only [save, stateName, stackNames, renumber, h.name, ← List.map_reverse, List.map_map,
    Function.comp_def]

theorem ruleOf_renumber (state : StateId) (m : RuleMatch) :
    (s.renumber f t').ruleOf (f state) m = (s.ruleOf state m).renumber f := by
  rw [ruleOf, ruleOf, renumber]
  dsimp only
  rw [h.state, State.rule_renumber]

/-- No token has a number of a state in it. -/
theorem tokenOf_renumber (state : StateId) (m : RuleMatch) :
    (s.renumber f t').tokenOf (f state) m = s.tokenOf state m := by
  rw [tokenOf, tokenOf, ruleOf_renumber h]
  rfl

omit h in
theorem transit_renumber (s : Scanner) (transition : Transition) :
    (s.renumber f t').transit (transition.renumber f) = (s.transit transition).renumber f t' := by
  cases transition with
  | pop =>
    cases s with
    | mk table cursor position state stack pending => cases stack <;> rfl
  | _ => rfl

theorem consume_renumber (state : StateId) (m : RuleMatch) :
    (s.renumber f t').consume (f state) m = (s.consume state m).renumber f t' := by
  rw [consume, consume, ruleOf_renumber h, ← transit_renumber]
  rfl

/-- **A step is the same** with other numbers. -/
theorem step_renumber : (s.renumber f t').step = s.step.renumber f t' := by
  -- A match leads to the same, whatever waits behind it.
  have hconsume (pending : List (StateId × RuleMatch)) (state : StateId) (m : RuleMatch) :
      ({ s with pending }.renumber f t').consume (f state) m
        = ({ s with pending }.consume state m).renumber f t' :=
    consume_renumber (s := { s with pending }) h state m
  cases hpending : s.pending with
  | cons q pending =>
    have hpending' : (s.renumber f t').pending
        = (f q.1, q.2) :: pending.map fun q => (f q.1, q.2) := by
      rw [renumber, hpending]
      rfl
    rw [step_of_pending hpending, step_of_pending hpending', Step.renumber, ← hconsume]
    rfl
  | nil =>
    have hpending' : (s.renumber f t').pending = [] := by
      rw [renumber, hpending]
      rfl
    by_cases hend : s.cursor.atEnd = true
    · rw [step_of_atEnd hpending hend, step_of_atEnd (s := s.renumber f t') hpending' hend]
      rfl
    · have hend := Bool.eq_false_iff.2 hend
      -- The present state is the same one at its other number, so it chooses the same.
      have hchoose : (t'.state (f s.state)).choose s.cursor
          = (s.table.state s.state).choose s.cursor := by
        rw [h.state, State.choose_renumber]
      cases hchosen : (s.table.state s.state).choose s.cursor with
      | some choice =>
        rw [step_of_choose hpending hend hchosen,
          step_of_choose (s := s.renumber f t') hpending' hend (hchoose.trans hchosen),
          Step.renumber, ← hconsume]
        cases choice.2 <;> rfl
      | none =>
        rw [step_of_choose_none hpending hend hchosen,
          step_of_choose_none (s := s.renumber f t') hpending' hend (hchoose.trans hchosen)]
        rfl

/-- So a step is told from the one that is known. -/
theorem step_renumber_of {step : Step} (hstep : s.step = step) :
    (s.renumber f t').step = step.renumber f t' := by
  rw [step_renumber h, hstep]

theorem patience_renumber : (s.renumber f t').patience = s.patience := by
  simp only [patience, renumber, List.length_map, h.length]

/-- What is behind has the same table. -/
theorem patienceBehind_renumber {behind : Scanner} (htable : behind.table = s.table)
    (patience : Nat) : patienceBehind patience (s.renumber f t') (behind.renumber f t')
      = patienceBehind patience s behind := by
  rw [← htable] at h
  rw [patienceBehind, patience_renumber h]
  rfl

/-- **A call gives the same item,** and goes on with other numbers. -/
theorem nextWithin_renumber (patience : Nat) :
    (s.renumber f t').nextWithin patience
      = ((s.nextWithin patience).1, (s.nextWithin patience).2.renumber f t') := by
  -- The cases are those of the call, and each step has its other numbers.
  fun_induction nextWithin patience s with
  | case1 patience s hstep => exact nextWithin_of_finished (step_renumber_of h hstep)
  | case2 patience s e behind hstep => exact nextWithin_of_unmatched (step_renumber_of h hstep)
  | case3 patience s state m behind hstep hignore rest hrest ih =>
    have htable := table_of_step hstep
    rw [nextWithin_of_ignored (step_renumber_of h hstep) ?_
      ((patienceBehind_renumber h htable patience).trans hrest)]
    · exact ih (htable ▸ h)
    · rw [ruleOf_renumber h]
      exact hignore
  | case4 patience s state m behind hstep hignore hrest =>
    have htable := table_of_step hstep
    refine nextWithin_of_given_up (step_renumber_of h hstep) ?_
      ((patienceBehind_renumber h htable patience).trans hrest)
    rw [ruleOf_renumber h]
    exact hignore
  | case5 patience s state m behind hstep hignore =>
    rw [nextWithin_of_handed_out (step_renumber_of h hstep), tokenOf_renumber h]
    rw [ruleOf_renumber h]
    exact Bool.eq_false_iff.2 hignore

theorem next_renumber : (s.renumber f t').next = (s.next.1, s.next.2.renumber f t') := by
  rw [next, patience_renumber h, nextWithin_renumber h]
  rfl

theorem next_renumber_of {item : Option Item} {behind : Scanner} (hnext : s.next = (item, behind)) :
    (s.renumber f t').next = (item, behind.renumber f t') := by
  rw [next_renumber h, hnext]

/-- **All items are the same.** -/
theorem allWithin_renumber (patience : Nat) :
    (s.renumber f t').allWithin patience
      = ((s.allWithin patience).1, (s.allWithin patience).2.renumber f t') := by
  fun_induction allWithin patience s with
  | case1 patience s behind hnext => exact allWithin_of_none (next_renumber_of h hnext)
  | case2 patience s item behind hnext rest hrest items last hall ih =>
    have htable : behind.table = s.table := by
      rw [← table_next s, hnext]
    rw [allWithin_of_some (next_renumber_of h hnext)
      ((patienceBehind_renumber h htable patience).trans hrest), ih (htable ▸ h), hall]
  | case3 patience s item behind hnext hrest =>
    have htable : behind.table = s.table := by
      rw [← table_next s, hnext]
    exact allWithin_of_given_up (next_renumber_of h hnext)
      ((patienceBehind_renumber h htable patience).trans hrest)

theorem all_renumber : (s.renumber f t').all = (s.all.1, s.all.2.renumber f t') := by
  rw [all, patience_renumber h, allWithin_renumber h]
  rfl

/-- A name has the number of its state. -/
theorem resolve_renumber (name : String) :
    (s.renumber f t').resolve name = (s.resolve name).map f := by
  rw [resolve, resolve, renumber, h.stateId?]
  cases s.table.stateId? name <;> rfl

theorem setState_renumber (name : String) :
    (s.renumber f t').setState name = (s.setState name).map (renumber f t') := by
  rw [setState, setState, resolve_renumber h]
  cases s.resolve name <;> rfl

theorem pushState_renumber (name : String) :
    (s.renumber f t').pushState name = (s.pushState name).map (renumber f t') := by
  rw [pushState, pushState, resolve_renumber h]
  cases s.resolve name <;> rfl

omit h in
/-- A scanner starts in the state that the table starts in. -/
theorem scanner_renumber (h : t.Renumbered f t') (buffer : List Char) :
    t'.scanner buffer = (t.scanner buffer).renumber f t' := by
  rw [Table.scanner, h.start]
  rfl

/-- **A reset is the same,** or fails for the same name. -/
theorem reset_renumber (buffer : List Char) (saved : Option SavedPlace) :
    (s.renumber f t').reset buffer saved = (s.reset buffer saved).map (renumber f t') := by
  cases saved with
  | none => exact congrArg Except.ok (scanner_renumber h buffer)
  | some p =>
    -- Names are resolved one by one, so the first that is unknown is the same one.
    simp only [reset, resolve_renumber h, mapM_map (resolve_renumber h)]
    cases s.resolve p.state with
    | error e => rfl
    | ok state =>
      cases p.stack.mapM s.resolve with
      | error e => rfl
      | ok stack =>
        refine congrArg Except.ok ?_
        simp only [renumber, List.map_reverse, List.map_nil]

/-- **An operation is the same.** -/
theorem operate_renumber (operation : Operation) :
    (s.renumber f t').operate operation = (s.operate operation).renumber f t' := by
  cases operation with
  | clone => rfl
  | reset buffer saved =>
    rw [operate, operate, reset_renumber h]
    cases s.reset buffer saved <;> rfl
  | call c =>
    cases c with
    | next => exact congrArg Prod.snd (next_renumber h)
    | feed text => rfl
    | setState name =>
      rw [operate, operate, call, call, setState_renumber h]
      cases s.setState name <;> rfl
    | pushState name =>
      rw [operate, operate, call, call, pushState_renumber h]
      cases s.pushState name <;> rfl
    | popState => exact transit_renumber s .pop

end

/-! ## What is seen of a run -/

/-- **What an operation answers:** an item if it is a call for one, and an error if it fails. -/
def answer (s : Scanner) : Operation → Except LexError (Option Item)
  | .call .next => .ok s.next.1
  | .call (.setState name) => (s.setState name).map fun _ => none
  | .call (.pushState name) => (s.pushState name).map fun _ => none
  | .reset buffer saved => (s.reset buffer saved).map fun _ => none
  | _ => .ok none

/-- **What is seen of a run:** what each operation answers, and what is saved behind it. -/
def observed (s : Scanner) : List Operation → List (Except LexError (Option Item) × SavedPlace)
  | [] => []
  | operation :: operations =>
    (s.answer operation, (s.operate operation).save) :: (s.operate operation).observed operations

section

variable {s : Scanner} (h : s.table.Renumbered f t')
include h

/-- Answers have names in them and no numbers. -/
theorem answer_renumber (operation : Operation) :
    (s.renumber f t').answer operation = s.answer operation := by
  cases operation with
  | clone => rfl
  | reset buffer saved =>
    rw [answer, answer, reset_renumber h]
    cases s.reset buffer saved <;> rfl
  | call c =>
    cases c with
    | next =>
      rw [answer, answer, next_renumber h]
    | feed text => rfl
    | setState name =>
      rw [answer, answer, setState_renumber h]
      cases s.setState name <;> rfl
    | pushState name =>
      rw [answer, answer, pushState_renumber h]
      cases s.pushState name <;> rfl
    | popState => rfl

/-- **Runs look the same,** operation by operation. -/
theorem observed_renumber (operations : List Operation) :
    (s.renumber f t').observed operations = s.observed operations := by
  induction operations generalizing s with
  | nil => rfl
  | cons operation operations ih =>
    have hbehind : (s.operate operation).table.Renumbered f t' := by
      rw [table_operate]
      exact h
    rw [observed, observed, answer_renumber h, operate_renumber h, save_renumber hbehind,
      ih hbehind]

/-- And they lead to scanners that differ in their numbers alone. -/
theorem operateAll_renumber (operations : List Operation) :
    (s.renumber f t').operateAll operations = (s.operateAll operations).renumber f t' := by
  induction operations generalizing s with
  | nil => rfl
  | cons operation operations ih =>
    have hbehind : (s.operate operation).table.Renumbered f t' := by
      rw [table_operate]
      exact h
    rw [operateAll, operateAll, List.foldl_cons, List.foldl_cons, operate_renumber h]
    exact ih hbehind

end

/-- **The order of the states does not matter.** A lexer that begins in a state it names
compiles, and so does the one that declares the same states in another order. A state of
either is a state of the other, of the same name and with the same rules: they match the
same and make the same tokens, are kept in the same way, and lead to states of the same
names. Over the same buffer and through the same operations, both scanners answer the same,
items and errors, and save the same behind each operation; and then both would hand out the
same to the end. -/
theorem order_of_states {spec spec' : LexerSpec} (h : spec.Permuted spec') {name : String}
    (hname : spec.start = some name) (hname' : spec'.start = some name) {t : Table}
    (ht : spec.compile = .ok t) :
    ∃ t' f, spec'.compile = .ok t' ∧
      (∀ id, (t'.state (f id)).name = (t.state id).name) ∧
      (∀ name, t'.stateNamed? name = (t.stateNamed? name).map (State.renumber f)) ∧
      ∀ buffer operations,
        (t'.scanner buffer).observed operations = (t.scanner buffer).observed operations ∧
        ((t'.scanner buffer).operateAll operations).all.1
          = ((t.scanner buffer).operateAll operations).all.1 ∧
        ((t'.scanner buffer).operateAll operations).all.2.save
          = ((t.scanner buffer).operateAll operations).all.2.save := by
  obtain ⟨t', ht', hrenumbered⟩ := h.compile hname hname' ht
  refine ⟨t', spec.numberIn spec', ht', hrenumbered.name, hrenumbered.stateNamed?, ?_⟩
  intro buffer operations
  have hstart : (t.scanner buffer).table.Renumbered (spec.numberIn spec') t' := hrenumbered
  have hbehind : ((t.scanner buffer).operateAll operations).table.Renumbered
      (spec.numberIn spec') t' := by
    rw [table_operateAll]
    exact hstart
  have hlast : ((t.scanner buffer).operateAll operations).all.2.table.Renumbered
      (spec.numberIn spec') t' := by
    rw [all, table_allWithin]
    exact hbehind
  rw [scanner_renumber hrenumbered, operateAll_renumber hstart, all_renumber hbehind]
  exact ⟨observed_renumber hstart operations, rfl, save_renumber hlast⟩

/-- The states of a lexer for words in brackets. -/
def bracketStates : List StateSpec := [
  { name := "words"
    rules := [
      ("open", .options { matchers := [.literal "("], push := some "inner" }),
      ("word", .options { matchers := [.regex "[a-z]+"] })] },
  { name := "inner"
    rules := [
      ("close", .options { matchers := [.literal ")"], pop := some 1 }),
      ("words", .splice "words")] },
  { name := "quoted", rules := [("quote", .options { matchers := [.literal "q"], pop := some 1 })] }]

/-- The lexer with its states in some order. -/
def bracketsLexer (states : List StateSpec) : LexerSpec where
  states := states
  shared := [("quote", .options { matchers := [.literal "'"], push := some "quoted" })]
  start := some "words"

/-- The other way round the first state is the last one. Inside the brackets both go on with
the rules that were taken over, and remember the same. -/
theorem order_of_states_brackets :
    (bracketsLexer bracketStates).Permuted (bracketsLexer bracketStates.reverse) ∧
    ∃ t t', (bracketsLexer bracketStates).compile = .ok t ∧
      (bracketsLexer bracketStates.reverse).compile = .ok t' ∧ t.start = 0 ∧ t'.start = 2 ∧
      (t'.state 1).rules.map (·.transition) = [.pop, .push 1, .stay, .push 0] ∧
      (t.state 1).rules.map (·.transition) = [.pop, .push 1, .stay, .push 2] ∧
      ((t.scanner "a((b".toList).operateAll (List.replicate 4 (.call .next))).save
        = ⟨1, 5, "inner", ["words", "inner"]⟩ ∧
      (t'.scanner "a((b".toList).observed (List.replicate 4 (.call .next))
        = (t.scanner "a((b".toList).observed (List.replicate 4 (.call .next)) := by
  have hperm : (bracketsLexer bracketStates).Permuted (bracketsLexer bracketStates.reverse) :=
    ⟨List.reverse_perm _, rfl⟩
  have hfacts : ((bracketsLexer bracketStates).compile.toOption.map fun t =>
      (t.start, (t.state 1).rules.map (·.transition),
        ((t.scanner "a((b".toList).operateAll (List.replicate 4 (.call .next))).save))
      = some (0, [.pop, .push 1, .stay, .push 2], ⟨1, 5, "inner", ["words", "inner"]⟩) := by cbv
  have hfacts' : ((bracketsLexer bracketStates.reverse).compile.toOption.map fun t' =>
      (t'.start, (t'.state 1).rules.map (·.transition)))
      = some (2, [.pop, .push 1, .stay, .push 0]) := by cbv
  obtain ⟨t, ht, hfacts⟩ := exists_ok_of_map hfacts
  obtain ⟨t', ht', hfacts'⟩ := exists_ok_of_map hfacts'
  simp only [Prod.mk.injEq] at hfacts hfacts'
  obtain ⟨hstart, htransitions, hsave⟩ := hfacts
  obtain ⟨hstart', htransitions'⟩ := hfacts'
  obtain ⟨other, f, hother, _, _, hruns⟩ := order_of_states hperm rfl rfl ht
  have hsame : other = t' := Except.ok.inj (hother.symm.trans ht')
  subst hsame
  exact ⟨hperm, t, other, ht, ht', hstart, hstart', htransitions', htransitions, hsave,
    (hruns "a((b".toList _).1⟩

end Scanner

end StatefulLexer
