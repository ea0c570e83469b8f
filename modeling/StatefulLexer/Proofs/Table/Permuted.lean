/-
Tables of lexers whose states are in another order.

What is compiled from the rules of a state has numbers of states in one place only, and
that is where its rules lead to. A name has another number if the states are in another
order, so a rule is compiled to one that differs there. All that is done with rules
afterwards, when a state is put together, does not look at it.

Main statements: `RuleDecl.compile_renumber`, `State.compile_renumber`,
`LexerSpec.Permuted.compile`.
-/
import StatefulLexer.Proofs.Inclusion.Permuted

set_option autoImplicit false

namespace StatefulLexer

variable {f : StateId → StateId}

/-! ## Rules -/

/-- A transition to the state of another number. -/
def Transition.renumber (f : StateId → StateId) : Transition → Transition
  | stay => stay
  | push target => push (f target)
  | pop => pop
  | next target => next (f target)

@[simp] theorem Transition.renumber_eq_stay_iff (transition : Transition) :
    transition.renumber f = .stay ↔ transition = .stay := by
  cases transition <;> simp [renumber]

/-- A rule that leads to the state of another number. -/
def Rule.renumber (f : StateId → StateId) (r : Rule) : Rule :=
  { r with transition := r.transition.renumber f }

/-- **Contexts in which states have other numbers.** -/
structure RuleContext.Renumbered (f : StateId → StateId) (ctx ctx' : RuleContext) : Prop where
  stateName : ctx'.stateName = ctx.stateName
  hasStates : ctx'.hasStates = ctx.hasStates
  stateId? : ∀ name, ctx'.stateId? name = (ctx.stateId? name).map f

variable {ctx ctx' : RuleContext}

/-- A transition is to the same name, whatever its number is. -/
theorem RuleOptions.transition_renumber (h : ctx.Renumbered f ctx') (o : RuleOptions)
    (tokenType : String) :
    o.transition tokenType ctx' = (o.transition tokenType ctx).map (Transition.renumber f) := by
  -- What a name leads to has another number.
  have target (name : String) (e : LexError) {make : StateId → Transition}
      (hmake : ∀ id, make (f id) = (make id).renumber f) :
      (ctx'.lookup name e).map make
        = ((ctx.lookup name e).map make).map (Transition.renumber f) := by
    rw [RuleContext.lookup, RuleContext.lookup, h.stateId?]
    cases ctx.stateId? name with
    | none => rfl
    | some id => exact congrArg Except.ok (hmake id)
  unfold transition
  dsimp only
  rw [h.hasStates, h.stateName]
  split
  · rfl
  · split
    · rfl
    · split
      · rfl
      · split
        · exact target _ _ fun _ => rfl
        · exact target _ _ fun _ => rfl
        · rfl
        · rfl

/-- Only a rule that stays is chosen by its characters. -/
theorem RuleOptions.fastChars_renumber (o : RuleOptions) (transition : Transition) :
    o.fastChars (transition.renumber f) = o.fastChars transition := by
  simp only [fastChars, Transition.renumber_eq_stay_iff]

/-- **A rule is compiled to the same,** but that it leads to the state of another number. -/
theorem RuleDecl.compile_renumber (h : ctx.Renumbered f ctx') (d : RuleDecl) :
    d.compile ctx' = (d.compile ctx).map (Rule.renumber f) := by
  unfold RuleDecl.compile
  dsimp only
  split
  · rfl
  · rw [RuleOptions.transition_renumber h]
    cases d.options.transition d.tokenType ctx with
    | error e => rfl
    | ok transition =>
      simp only [Except.map, ok_bind, ne_eq, Transition.renumber_eq_stay_iff,
        RuleOptions.fastChars_renumber]
      split
      · rfl
      · cases d.pattern (d.options.lineBreaks || d.options.takesUnmatched) <;> rfl

/-! ## States -/

/-- The rules of what has been put together lead to states of other numbers. -/
def StateSoFar.renumber (f : StateId → StateId) (s : StateSoFar) : StateSoFar :=
  { s with rules := s.rules.map (Rule.renumber f) }

@[simp] theorem StateSoFar.length_renumber (s : StateSoFar) :
    (s.renumber f).rules.length = s.rules.length := List.length_map _

/-- Where a rule is kept does not depend on where it leads. -/
theorem StateSoFar.add_renumber (s : StateSoFar) (r : Rule) :
    (s.renumber f).add (r.renumber f) = (s.add r).renumber f := by
  cases r with
  | mk tokenType role pattern fastChars =>
    simp only [add, Rule.renumber, length_renumber]
    cases pattern with
    | none => rfl
    | some p =>
      cases fastChars with
      | none => rfl
      | some chars =>
        change (if s.fastAllowed then _ else _) = renumber f (if s.fastAllowed then _ else _)
        split <;> rfl

/-- Nor does it whether there are two rules for unmatched input. -/
theorem StateSoFar.push_renumber (s : StateSoFar) (r : Rule) (name : String) :
    (s.renumber f).push (r.renumber f) name = (s.push r name).map (renumber f) := by
  have hrole : (s.renumber f).withRole (r.renumber f) name = s.withRole r name := by
    simp only [withRole, length_renumber]
    rfl
  rw [push, push, hrole]
  cases s.withRole r name with
  | error e => rfl
  | ok unmatched =>
    refine congrArg Except.ok ?_
    rw [add_renumber]
    rfl

/-- A state whose rules lead to states of other numbers. -/
def State.renumber (f : StateId → StateId) (st : State) : State :=
  { st with rules := st.rules.map (Rule.renumber f) }

/-- The check of what is searched for does not depend on it either. -/
theorem State.fits_renumber (st : State) :
    (if Regex.fits ((st.renumber f).patterns.map (·.expr)) then pure (st.renumber f)
      else throw .regexTooLarge : Except LexError State)
      = Except.map (renumber f) (if Regex.fits (st.patterns.map (·.expr)) then pure st
        else throw .regexTooLarge) := by
  change (if Regex.fits (st.patterns.map (·.expr)) then _ else _) = _
  split <;> rfl

/-- **A state is compiled to the same,** but for where its rules lead. -/
theorem State.compile_renumber (h : ctx.Renumbered f ctx') (decls : List RuleDecl) :
    compile decls ctx' = (compile decls ctx).map (renumber f) := by
  let push (ctx : RuleContext) (s : StateSoFar) (d : RuleDecl) : Except LexError StateSoFar := do
    s.push (← d.compile ctx) ctx.stateName
  -- Rule by rule, what has been put together differs in this alone.
  have hpush (s : StateSoFar) (d : RuleDecl) :
      push ctx' (s.renumber f) d = (push ctx s d).map (StateSoFar.renumber f) := by
    simp only [push]
    rw [RuleDecl.compile_renumber h, h.stateName]
    cases d.compile ctx with
    | error e => rfl
    | ok r => exact s.push_renumber r ctx.stateName
  have hfold := foldlM_map hpush decls { fastAllowed := !decls.any (·.options.fallback) }
  have hempty (fastAllowed : Bool) : StateSoFar.renumber f { fastAllowed } = { fastAllowed } := rfl
  rw [hempty] at hfold
  unfold compile
  dsimp only
  simp only [push] at hfold
  rw [hfold]
  cases decls.foldlM (push ctx) { fastAllowed := !decls.any (·.options.fallback) } with
  | error e => rfl
  | ok s =>
    have hstate := State.fits_renumber (f := f)
      { name := ctx.stateName
        rules := s.rules.reverse
        fast := s.fast
        searched := s.searched.reverse
        unmatched := s.unmatched }
    rw [State.renumber, List.map_reverse] at hstate
    rw [h.stateName]
    exact hstate

/-! ## Tables -/

/-- **Two tables have the same states** at other numbers, and begin in the same one. -/
structure Table.Renumbered (f : StateId → StateId) (t t' : Table) : Prop where
  length : t'.states.length = t.states.length
  states : ∀ id, t'.states[f id]? = t.states[id]?.map (State.renumber f)
  stateId? : ∀ name, t'.stateId? name = (t.stateId? name).map f
  start : t'.start = f t.start

namespace Table.Renumbered

variable {t t' : Table}

/-- Each state is at its other number. -/
theorem state (h : t.Renumbered f t') (id : StateId) :
    t'.state (f id) = (t.state id).renumber f := by
  rw [Table.state, Table.state, List.getD_eq_getElem?_getD, List.getD_eq_getElem?_getD, h.states]
  cases t.states[id]? <;> rfl

/-- And has its name. -/
theorem name (h : t.Renumbered f t') (id : StateId) :
    (t'.state (f id)).name = (t.state id).name := by
  rw [h.state]
  rfl

end Table.Renumbered

namespace LexerSpec.Permuted

variable {spec spec' : LexerSpec}

/-- Rules are compiled where states have other numbers. -/
theorem context (h : Permuted spec spec') (name : String) : RuleContext.Renumbered (spec.numberIn spec')
      { stateName := name, stateNames := spec.states.map (·.name) }
      { stateName := name, stateNames := spec'.states.map (·.name) } where
  stateName := rfl
  hasStates := by
    simp only [RuleContext.hasStates]
    rw [h.names.length_eq]
  stateId? := idxOf?_renumbering h.names

/-- The state of a list is compiled to the same, but for where its rules lead. -/
theorem stateOf (h : Permuted spec spec') (hnames : (spec.states.map (·.name)).Nodup)
    {q : EntryList} (hq : q ∈ spec.entryLists) {st : State} (hst : spec.stateOf q = .ok st) :
    spec'.stateOf (q.renumber (spec.numberIn spec'))
      = .ok (st.renumber (spec.numberIn spec')) := by
  obtain ⟨decls, hdecls, hcompile⟩ := bind_eq_ok.1 hst
  refine bind_eq_ok.2 ⟨decls, h.rules hnames hq hdecls, ?_⟩
  have hsame := State.compile_renumber (h.context q.name) decls
  rw [hcompile] at hsame
  exact hsame

/-- **A lexer compiles in any order of its states** if it begins in a state that is named. -/
theorem compile (h : Permuted spec spec') {name : String} (hname : spec.start = some name)
    (hname' : spec'.start = some name) {t : Table} (ht : spec.compile = .ok t) :
    ∃ t', spec'.compile = .ok t' ∧ t.Renumbered (spec.numberIn spec') t' := by
  obtain ⟨hne, hnames, hstates, hstart⟩ := compile_eq_ok ht
  have hnames' : (spec'.states.map (·.name)).Nodup := h.names.nodup_iff.2 hnames
  -- Every state is one of the first lexer, so it is compiled.
  have htotal : ∀ q' ∈ spec'.entryLists, ∃ st', spec'.stateOf q' = .ok st' := by
    intro q' hq'
    obtain ⟨q, hq, rfl⟩ := h.exists_entryList hnames hq'
    obtain ⟨id, hid⟩ := List.mem_iff_getElem?.1 hq
    obtain ⟨st, _, hst⟩ := getElem?_mapM hstates hid
    exact ⟨_, h.stateOf hnames hq hst⟩
  obtain ⟨states', hstates'⟩ := exists_mapM htotal
  have hne' : spec'.states ≠ [] := fun hnil => by
    have hperm := h.states
    rw [hnil] at hperm
    exact hne hperm.nil_eq.symm
  rw [hname] at hstart
  have hidx' : (spec'.states.map (·.name)).idxOf? name = some (spec.numberIn spec' t.start) := by
    rw [idxOf?_renumbering h.names, idxOf?_of_getElem? hnames hstart]
    rfl
  have ht' := compile_of_states hne' hnames' hstates' hname' hidx'
  refine ⟨_, ht', ?_, fun id => ?_, fun name => ?_, rfl⟩
  · have hlength (spec : LexerSpec) : spec.entryLists.length = (spec.states.map (·.name)).length := by
      rw [← spec.names_entryLists, List.length_map]
    rw [length_of_mapM hstates, length_of_mapM hstates', hlength, hlength, h.names.length_eq]
  · -- At the other number there is the list of the state, so the state, or there is none.
    have hlist := h.getElem?_entryLists hnames id
    cases hq : spec.entryLists[id]? with
    | none =>
      rw [hq] at hlist
      rw [getElem?_mapM_none hstates hq, getElem?_mapM_none hstates' hlist]
      rfl
    | some q =>
      rw [hq] at hlist
      obtain ⟨st, hget, hst⟩ := getElem?_mapM hstates hq
      obtain ⟨st', hget', hst'⟩ := getElem?_mapM hstates' hlist
      rw [h.stateOf hnames (List.mem_of_getElem? hq) hst] at hst'
      rw [hget, hget', ← Except.ok.inj hst']
      rfl
  · rw [Table.stateId?_eq_idxOf?, Table.stateId?_eq_idxOf?, (compile_spec ht').stateNames,
      (compile_spec ht).stateNames]
    exact idxOf?_renumbering h.names name

end LexerSpec.Permuted

end StatefulLexer
