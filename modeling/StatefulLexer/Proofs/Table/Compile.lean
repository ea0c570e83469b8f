/-
What a compiled table is.

Its states have the names that they were declared with, which are distinct, and each
was compiled from its rules. So what is known of compiled states is known of all states
of a table. States are numbered there and named outside; that the one leads to the other
and back is said here.

Main statements: `LexerSpec.compile_spec`, `Table.Spec.stateId?_name`.
-/
import Mathlib.Data.List.Nodup
import StatefulLexer.Proofs.State.Assemble
import StatefulLexer.Proofs.State.Place
import StatefulLexer.Table

set_option autoImplicit false

namespace StatefulLexer

/-! ## Names -/

/-- Names of which none is found a second time are distinct. -/
theorem nodup_of_firstRepeated? {seen names : List String} (h : firstRepeated? seen names = none) :
    names.Nodup ∧ ∀ name ∈ names, name ∉ seen := by
  induction names generalizing seen with
  | nil => exact ⟨.nil, nofun⟩
  | cons name names ih =>
    rw [firstRepeated?] at h
    split at h
    · cases h
    · rename_i hname
      obtain ⟨hnodup, hseen⟩ := ih h
      rw [List.contains_iff_mem] at hname
      refine ⟨List.nodup_cons.2 ⟨fun hmem => hseen name hmem List.mem_cons_self, hnodup⟩, ?_⟩
      intro other hother
      rcases List.mem_cons.1 hother with rfl | hother
      · exact hname
      · exact fun hmem => hseen other hother (List.mem_cons_of_mem name hmem)

/-- In distinct names none is found a second time. -/
theorem firstRepeated?_eq_none {seen names : List String} (hnodup : names.Nodup)
    (hseen : ∀ name ∈ names, name ∉ seen) : firstRepeated? seen names = none := by
  induction names generalizing seen with
  | nil => rfl
  | cons name names ih =>
    obtain ⟨hname, hnodup⟩ := List.nodup_cons.1 hnodup
    have hnew : ¬ seen.contains name = true := fun h =>
      hseen name List.mem_cons_self (List.contains_iff_mem.1 h)
    rw [firstRepeated?, if_neg hnew]
    refine ih hnodup fun other hother hmem => ?_
    rcases List.mem_cons.1 hmem with rfl | hmem
    · exact hname hother
    · exact hseen other (List.mem_cons_of_mem name hother) hmem

/-- Of distinct names each is found at its place. -/
theorem idxOf?_of_getElem? {names : List String} (hnames : names.Nodup) {id : Nat} {name : String}
    (h : names[id]? = some name) : names.idxOf? name = some id := by
  obtain ⟨id', hid'⟩ := Option.isSome_iff_exists.1 (List.isSome_idxOf?.2 (List.mem_of_getElem? h))
  obtain ⟨hlt, heq⟩ := List.getElem?_eq_some_iff.1 h
  obtain ⟨hlt', heq', _⟩ := List.findIdx?_eq_some_iff_getElem.1 hid'
  rw [hid', hnames.getElem_inj_iff.1 ((beq_iff_eq.1 heq').trans heq.symm)]

/-- The entries of the states are in the order of the states. -/
theorem LexerSpec.names_entryLists (spec : LexerSpec) :
    spec.entryLists.map (·.name) = spec.states.map (·.name) := by
  have hfst : spec.states.zipIdx.map Prod.fst = spec.states := List.zipIdx_map_fst 0 spec.states
  conv => rhs; rw [← hfst, List.map_map]
  rw [entryLists, List.map_map]
  rfl

/-! ## Tables -/

/-- **What is known of a compiled table** with states of these names. -/
structure Table.Spec (t : Table) (names : List String) : Prop where
  stateNames : t.states.map (·.name) = names
  nodup : names.Nodup
  start : t.start < t.states.length
  /-- Each state was compiled from rules. -/
  states : ∀ st ∈ t.states, ∃ decls ctx, ctx.stateNames = names ∧ State.compile decls ctx = .ok st

/-- The state that a list of entries of a lexer gives. -/
def LexerSpec.stateOf (spec : LexerSpec) (s : EntryList) : Except LexError State := do
  let decls ← EntryList.rules spec.entryLists s
  State.compile decls { stateName := s.name, stateNames := spec.states.map (·.name) }

/-- **A lexer that compiles** has states, whose names differ. The table has the states that
its lists of entries give, and begins in the one that was asked for, or in the first. -/
theorem LexerSpec.compile_eq_ok {spec : LexerSpec} {t : Table} (h : spec.compile = .ok t) :
    spec.states ≠ [] ∧ (spec.states.map (·.name)).Nodup ∧
      spec.entryLists.mapM spec.stateOf = .ok t.states ∧
      match spec.start with
      | none => t.start = 0
      | some name => (spec.states.map (·.name))[t.start]? = some name := by
  unfold LexerSpec.compile at h
  dsimp only at h
  split at h
  · cases h
  · rename_i hsome
    split at h
    · cases h
    · rename_i hrepeated
      obtain ⟨states, hstates, h⟩ := bind_eq_ok.1 h
      have hne : spec.states ≠ [] := by
        intro hnil
        rw [hnil] at hsome
        exact hsome rfl
      have hnodup : (spec.states.map (·.name)).Nodup :=
        (nodup_of_firstRepeated? (Option.eq_none_iff_forall_ne_some.2 hrepeated)).1
      cases hname : spec.start with
      | none =>
        rw [hname] at h
        rw [← Except.ok.inj h]
        exact ⟨hne, hnodup, hstates, rfl⟩
      | some name =>
        rw [hname] at h
        dsimp only at h
        split at h
        · rename_i start hstart
          obtain ⟨hlt, heq, _⟩ := List.findIdx?_eq_some_iff_getElem.1 hstart
          rw [← Except.ok.inj h]
          refine ⟨hne, hnodup, hstates, ?_⟩
          dsimp only
          rw [List.getElem?_eq_getElem hlt, beq_iff_eq.1 heq]
        · cases h

/-- A lexer compiles if its states have different names and are compiled, and there is a
state to begin in. -/
theorem LexerSpec.compile_of_states {spec : LexerSpec} (hne : spec.states ≠ [])
    (hnodup : (spec.states.map (·.name)).Nodup) {states : List State}
    (hstates : spec.entryLists.mapM spec.stateOf = .ok states) {name : String} {start : StateId}
    (hname : spec.start = some name) (hstart : (spec.states.map (·.name)).idxOf? name = some start) :
    spec.compile = .ok { states, start } := by
  have hsome : ¬ (spec.states.map (·.name)).isEmpty = true := fun h =>
    hne (List.map_eq_nil_iff.1 (List.isEmpty_iff.1 h))
  have hnone : firstRepeated? [] (spec.states.map (·.name)) = none :=
    firstRepeated?_eq_none hnodup fun _ _ => List.not_mem_nil
  unfold compile
  dsimp only
  rw [if_neg hsome, hnone]
  refine bind_eq_ok.2 ⟨states, hstates, ?_⟩
  rw [hname]
  dsimp only
  rw [hstart]
  rfl

theorem LexerSpec.compile_spec {spec : LexerSpec} {t : Table} (h : spec.compile = .ok t) :
    t.Spec (spec.states.map (·.name)) := by
  obtain ⟨hne, hnodup, hstates, hstart⟩ := compile_eq_ok h
  have hnames : t.states.map (·.name) = spec.states.map (·.name) := by
    rw [← spec.names_entryLists]
    apply map_eq_of_mapM _ hstates
    intro s st hst
    obtain ⟨decls, _, hcompile⟩ := bind_eq_ok.1 hst
    exact (State.compile_spec hcompile).name
  have hlength : t.states.length = spec.states.length := by
    rw [← List.length_map (f := fun st : State => st.name), hnames, List.length_map]
  refine ⟨hnames, hnodup, ?_, ?_⟩
  · rw [hlength]
    split at hstart
    · rw [hstart]
      exact List.length_pos_iff.2 hne
    · have hlt := (List.getElem?_eq_some_iff.1 hstart).1
      rw [List.length_map] at hlt
      exact hlt
  · intro st hst
    obtain ⟨s, _, hcompile⟩ := exists_of_mem_mapM hstates st hst
    obtain ⟨decls, _, hcompile⟩ := bind_eq_ok.1 hcompile
    exact ⟨decls, _, rfl, hcompile⟩

/-- There are as many states as were declared. -/
theorem LexerSpec.length_states {spec : LexerSpec} {t : Table} (h : spec.compile = .ok t) :
    t.states.length = spec.states.length := by
  rw [← List.length_map (f := fun st : State => st.name), (compile_spec h).stateNames,
    List.length_map]

/-- **The state of a number** was compiled from the rules that its list gives. -/
theorem LexerSpec.state_of_compile {spec : LexerSpec} {t : Table} (h : spec.compile = .ok t)
    {id : StateId} {st : State} (hst : t.states[id]? = some st) :
    ∃ q decls, spec.entryLists[id]? = some q ∧ EntryList.rules spec.entryLists q = .ok decls ∧
      State.compile decls { stateName := q.name, stateNames := spec.states.map (·.name) }
        = .ok st := by
  obtain ⟨_, _, hstates, _⟩ := compile_eq_ok h
  obtain ⟨q, hq, hstate⟩ := getElem?_of_mapM hstates hst
  obtain ⟨decls, hdecls, hcompile⟩ := bind_eq_ok.1 hstate
  exact ⟨q, decls, hq, hdecls, hcompile⟩

/-- **Each state of a table was compiled** from rules. -/
theorem LexerSpec.states_of_compile {spec : LexerSpec} {t : Table} (h : spec.compile = .ok t) :
    ∀ st ∈ t.states, ∃ decls ctx, State.compile decls ctx = .ok st := by
  intro st hst
  obtain ⟨decls, ctx, _, hcompile⟩ := (compile_spec h).states st hst
  exact ⟨decls, ctx, hcompile⟩

/-- The state of a number. -/
theorem Table.state_of_getElem? {t : Table} {id : StateId} {st : State}
    (h : t.states[id]? = some st) : t.state id = st := by
  rw [Table.state, List.getD_eq_getElem?_getD, h, Option.getD_some]

/-- Other numbers stand for a state without rules. -/
theorem Table.state_of_length_le {t : Table} {id : StateId} (h : t.states.length ≤ id) :
    t.state id = default := by
  rw [Table.state, List.getD_eq_getElem?_getD, List.getElem?_eq_none h, Option.getD_none]

/-- A number that is one of a state is the number of its state. -/
theorem Table.getElem?_state {t : Table} {id : StateId} (h : id < t.states.length) :
    t.states[id]? = some (t.state id) := by
  rw [Table.state_of_getElem? (List.getElem?_eq_getElem h), List.getElem?_eq_getElem h]

/-- The number of a state is the place of its name. -/
theorem Table.stateId?_eq_idxOf? (t : Table) (name : String) :
    t.stateId? name = (t.states.map (·.name)).idxOf? name := by
  rw [Table.stateId?, List.idxOf?, List.findIdx?_map]
  rfl

namespace Table.Spec

variable {t : Table} {names : List String}

/-- **A state is found by its name.** -/
theorem stateId?_name (h : t.Spec names) {id : StateId} (hid : id < t.states.length) :
    t.stateId? (t.state id).name = some id := by
  rw [stateId?_eq_idxOf?, h.stateNames]
  refine idxOf?_of_getElem? h.nodup ?_
  rw [← h.stateNames, List.getElem?_map, getElem?_state hid]
  rfl

/-- **The rules lead to states of the table.** -/
theorem target_lt (h : t.Spec names) {st : State} (hst : st ∈ t.states) {r : Rule}
    (hr : r ∈ st.rules) : ∀ id ∈ r.transition.target?, id < t.states.length := by
  obtain ⟨decls, ctx, hctx, hcompile⟩ := h.states st hst
  obtain ⟨d, _, hd⟩ := (State.compile_spec hcompile).declared r hr
  have hlt := RuleOptions.target_lt (RuleDecl.transition_of_compile hd).1
  rw [hctx, ← h.stateNames, List.length_map] at hlt
  exact hlt

end Table.Spec

/-- The state of a name is one of the table. -/
theorem Table.stateId?_lt {t : Table} {name : String} {id : StateId}
    (h : t.stateId? name = some id) : id < t.states.length :=
  (List.findIdx?_eq_some_iff_getElem.1 h).1

/-- **Only a state of the table chooses.** A number that is not one of a state stands for a
state without rules. -/
theorem Table.state_mem_of_choose {t : Table} {id : StateId} {c : Cursor}
    {choice : RuleMatch × Option RuleMatch} (h : (t.state id).choose c = some choice) :
    t.state id ∈ t.states := by
  unfold Table.state at h ⊢
  rw [List.getD_eq_getElem?_getD] at h ⊢
  rcases Option.eq_none_or_eq_some t.states[id]? with hget | ⟨st, hget⟩
  · rw [hget, Option.getD_none, State.choose_default] at h
    cases h
  · rw [hget]
    exact List.mem_of_getElem? hget

end StatefulLexer
