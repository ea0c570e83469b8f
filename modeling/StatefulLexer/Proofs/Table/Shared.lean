/-
What shared rules do to a lexer.

A state of a lexer with shared rules has the rules that its own entries give, and behind
them those that the shared entries give. The first are not always those that it has without
the shared entries, though no rule is missing among them. If the state takes over another
one, a shared directive may be met in there, and then what it leads to is in front of the
rest. So a rule that enters a state by the shared rules alone can be preferred to a rule of
the state. It takes a shared directive, and one for another state than the first that the
state takes over by itself.

Main statement: `LexerSpec.shared_last`.
-/
import StatefulLexer.Proofs.Inclusion.Expand
import StatefulLexer.Proofs.Inclusion.Shared

set_option autoImplicit false

namespace StatefulLexer

namespace LexerSpec

/-! ## Entries -/

/-- The lexer without its shared rules. -/
def withoutShared (spec : LexerSpec) : LexerSpec := { spec with shared := [] }

/-- The entries of a state that are its own. -/
def ownEntries (number : StateId) (state : StateSpec) : List LocatedEntry :=
  LocatedEntry.ofEntries (some number) (RuleList.normalize state.rules)

/-- The entries that all states have. -/
def sharedEntries (spec : LexerSpec) : List LocatedEntry :=
  LocatedEntry.ofEntries none (RuleList.normalize spec.shared)

variable {spec : LexerSpec} {t : Table}

/-- The lists of a lexer are those without shared rules, with the shared entries behind. -/
theorem entryLists_eq_extend (spec : LexerSpec) :
    spec.entryLists = spec.withoutShared.entryLists.map (·.extend spec.sharedEntries) := by
  rw [entryLists, entryLists, List.map_map]
  refine List.map_congr_left fun p _ => ?_
  simp only [Function.comp, EntryList.extend, withoutShared, sharedEntries, RuleList.normalize,
    List.flatMap_nil, LocatedEntry.ofEntries, List.zipIdx_nil, List.map_nil, List.append_nil]

/-- Without shared rules the list of a state is that of its own entries. -/
theorem getElem?_entryLists_withoutShared (spec : LexerSpec) (number : StateId) :
    spec.withoutShared.entryLists[number]? = spec.states[number]?.map fun state =>
      { name := state.name, entries := ownEntries number state } := by
  rw [getElem?_entryLists]
  refine congrArg (Option.map · _) (funext fun state => ?_)
  simp only [withoutShared, RuleList.normalize, List.flatMap_nil, LocatedEntry.ofEntries,
    List.zipIdx_nil, List.map_nil, List.append_nil, ownEntries]

theorem areShared_sharedEntries (spec : LexerSpec) : EntryList.AreShared spec.sharedEntries := by
  intro e he
  rw [sharedEntries, LocatedEntry.ofEntries, List.mem_map] at he
  obtain ⟨⟨entry, number⟩, _, rfl⟩ := he
  cases entry <;> rfl

theorem isShared_ownEntries {number : StateId} {state : StateSpec} :
    ∀ e ∈ ownEntries number state, e.isShared = false := by
  intro e he
  rw [ownEntries, LocatedEntry.ofEntries, List.mem_map] at he
  obtain ⟨⟨entry, number⟩, _, rfl⟩ := he
  cases entry <;> rfl

/-! ## Rules -/

/-- The rules that entries of a state are compiled to. -/
def compileEntries (spec : LexerSpec) (state : StateSpec) (entries : List LocatedEntry) :
    Except LexError (List Rule) :=
  (entries.filterMap LocatedEntry.decl?).mapM
    (·.compile { stateName := state.name, stateNames := spec.states.map (·.name) })

/-- **The rules of a compiled state** are those of the expansion of its list. -/
theorem expansion_of_compile (ht : spec.compile = .ok t) {number : StateId} {st : State}
    (hst : t.states[number]? = some st) :
    ∃ q out new, spec.entryLists[number]? = some q ∧
      EntryList.Expansion spec.entryLists q.name [] q.entries out new ∧
      (out.filterMap LocatedEntry.decl?).mapM
        (·.compile { stateName := q.name, stateNames := spec.states.map (·.name) })
          = .ok st.rules := by
  have hnodup := (compile_eq_ok ht).2.1
  obtain ⟨q, decls, hq, hdecls, hcompile⟩ := state_of_compile ht hst
  obtain ⟨out, hout, hrules⟩ := bind_eq_ok.1 hdecls
  cases hrules
  obtain ⟨⟨new, hexpansion, _⟩, _⟩ :=
    (EntryList.expand_entryLists hnodup (List.mem_of_getElem? hq)).2.2 out hout
  exact ⟨q, out, new, hq, hexpansion, (State.compile_spec hcompile).rules⟩

/-- **Shared rules wait for a state:** no shared directive is for another state than the
first that the state takes over by itself. -/
def SharedWait (spec : LexerSpec) (number : StateId) (state : StateSpec) : Prop :=
  ∀ first ∈ EntryList.firstOther? state.name (ownEntries number state),
    ∀ b, .splice b ∈ spec.sharedEntries → b = state.name ∨ b = first

/-- **What shared entries do to a state.** Its own entries give `front` and the shared ones
`back`, and without the shared ones it has the rules of `out`. -/
structure Sharing (spec : LexerSpec) (number : StateId) (state : StateSpec)
    (front back out : List LocatedEntry) : Prop where
  expansion : ∃ new more,
    EntryList.Expansion spec.entryLists state.name [] (ownEntries number state) front new ∧
    EntryList.Expansion spec.entryLists state.name new spec.sharedEntries back more
  without : ∃ new, EntryList.Expansion spec.withoutShared.entryLists state.name []
    (ownEntries number state) out new
  /-- No rule of the state has to wait for what is at the end. -/
  kept : ∀ e ∈ out, e ∈ front
  /-- All shared rules are at the end, in their order. -/
  ordered : back.filter (·.isShared) = spec.sharedEntries.filter (·.isRule) ∧
    ∀ e ∈ front, e.isShared = false
  /-- There is nothing else at the end if no shared directive is for another state. -/
  plain : (∀ b, .splice b ∈ spec.sharedEntries → b = state.name) →
    back = spec.sharedEntries.filter (·.isRule)
  /-- What the state has only with shared entries is shared, or a shared directive leads to
  it. -/
  added : ∀ e ∈ front ++ back, e ∉ out → e ∈ spec.sharedEntries ∨
    ∃ b, .splice b ∈ spec.sharedEntries ∧ ∃ q ∈ spec.withoutShared.entryLists,
      EntryList.Reaches spec.entryLists b q.name ∧ e ∈ q.entries
  waits : spec.SharedWait number state → front = out

theorem nodup_names_entryLists (ht : spec.compile = .ok t) :
    (spec.entryLists.map (·.name)).Nodup := by
  rw [spec.names_entryLists]
  exact (compile_eq_ok ht).2.1

/-- The expansion with shared entries begins with that of the state's own. -/
theorem sharing_of_expansion (hnames : (spec.entryLists.map (·.name)).Nodup)
    {number : StateId} {state : StateSpec} (hstate : spec.states[number]? = some state)
    {all out : List LocatedEntry} {taken new : List String}
    (hall : EntryList.Expansion spec.entryLists state.name []
      (ownEntries number state ++ spec.sharedEntries) all taken)
    (hout : EntryList.Expansion spec.withoutShared.entryLists state.name []
      (ownEntries number state) out new) :
    ∃ front back, all = front ++ back ∧ spec.Sharing number state front back out := by
  have ha := areShared_sharedEntries spec
  have hnames₀ : (spec.withoutShared.entryLists.map (·.name)).Nodup := by
    rw [names_entryLists] at hnames ⊢
    exact hnames
  let q : EntryList := { name := state.name, entries := ownEntries number state }
  have hq : q ∈ spec.withoutShared.entryLists := by
    refine List.mem_of_getElem? (i := number) ?_
    rw [getElem?_entryLists_withoutShared, hstate, Option.map_some]
  have hlists := entryLists_eq_extend spec
  -- No shared rule comes in from another state.
  have hshared {taken new : List String} {todo out : List LocatedEntry}
      (h : EntryList.Expansion spec.entryLists state.name taken todo out new) :
      out.filter (·.isShared) = todo.filter (·.isShared) :=
    h.filter_out (fun _ => rfl) fun q _ _ e he => (EntryList.mem_own_iff.1 he).2
  obtain ⟨front, back, new', more, hfront, hback, rfl, rfl⟩ := hall.of_append
  rw [List.append_nil] at hback
  refine ⟨front, back, rfl, ⟨_, _, hfront, hback⟩, ⟨_, hout⟩, ?_, ⟨?_, ?_⟩, ?_, ?_, ?_⟩
  · rw [hlists] at hfront
    exact hout.subset_extend (s := q) hnames₀ ha hq hfront
  · rw [hshared hback]
    exact List.filter_congr ha
  · intro e he
    have hnone : front.filter (·.isShared) = [] := by
      rw [hshared hfront]
      exact List.filter_eq_nil_iff.2 fun e he => Bool.eq_false_iff.1 (isShared_ownEntries e he)
    exact Bool.eq_false_iff.2 (List.filter_eq_nil_iff.1 hnone e he)
  · intro hself
    have hplain : EntryList.Expansion spec.entryLists state.name new' spec.sharedEntries
        (spec.sharedEntries.filter (·.isRule)) [] :=
      EntryList.Expansion.of_taken fun b hb => .inl (hself b hb)
    exact ((hback.unique hnames hplain).1).symm
  · intro e he hnew
    rw [hlists] at hall ⊢
    exact hout.from_shared (s := q) hnames₀ ha hq hall he hnew
  · intro hwait
    rw [hlists] at hfront hnames
    exact ((hout.extend ha hwait).unique hnames hfront).1

/-- **Shared rules are behind those of the state,** if they wait for it. In every state the
rules are those that its own entries give and then those that the shared entries give,
expanded in this order. Every rule that the state has without the shared entries is among
the first, and so before all that the shared entries give at the end; those are in their
order, less directives, if all of these are for the state itself. What else there is among
the rules is shared, or comes from a state that a shared directive leads to. And if shared
rules wait for the state, then the first are exactly the rules that it has without them. -/
theorem shared_last (spec : LexerSpec) (t t₀ : Table) (ht : spec.compile = .ok t)
    (ht₀ : spec.withoutShared.compile = .ok t₀) :
    t.states.length = t₀.states.length ∧
    ∀ number st, t.states[number]? = some st →
      ∃ state st₀ front back out rules contributed,
        spec.states[number]? = some state ∧ t₀.states[number]? = some st₀ ∧
        spec.Sharing number state front back out ∧
        spec.compileEntries state front = .ok rules ∧
        spec.compileEntries state back = .ok contributed ∧
        spec.compileEntries state out = .ok st₀.rules ∧
        st.rules = rules ++ contributed ∧
        (spec.SharedWait number state → st.rules = st₀.rules ++ contributed) := by
  have hlength : t.states.length = t₀.states.length :=
    (length_states ht).trans (length_states ht₀).symm
  refine ⟨hlength, fun number st hst => ?_⟩
  have hlt : number < t₀.states.length := hlength ▸ (List.getElem?_eq_some_iff.1 hst).1
  obtain ⟨st₀, hst₀⟩ : ∃ st₀, t₀.states[number]? = some st₀ := ⟨_, List.getElem?_eq_getElem hlt⟩
  obtain ⟨q', all, taken, hq', hall, hrules⟩ := expansion_of_compile ht hst
  obtain ⟨q, out, new, hq, hout, hrules₀⟩ := expansion_of_compile ht₀ hst₀
  -- The list of the state is that of its own entries, with the shared ones behind.
  rw [entryLists_eq_extend, List.getElem?_map, hq, Option.map_some, Option.some.injEq] at hq'
  subst hq'
  rw [getElem?_entryLists_withoutShared] at hq
  obtain ⟨state, hstate, rfl⟩ := Option.map_eq_some_iff.1 hq
  obtain ⟨front, back, rfl, hsharing⟩ :=
    sharing_of_expansion (nodup_names_entryLists ht) hstate hall hout
  rw [List.filterMap_append, mapM_append_eq_ok] at hrules
  obtain ⟨rules, contributed, hfront, hback, happend⟩ := hrules
  refine ⟨state, st₀, front, back, out, rules, contributed, hstate, hst₀, hsharing, hfront, hback,
    hrules₀, happend, fun hwait => ?_⟩
  rw [hsharing.waits hwait] at hfront
  have hsame : st₀.rules = rules := Except.ok.inj (hrules₀.symm.trans hfront)
  rw [happend, hsame]

/-- A lexer with shared numbers and blanks, the former in a state of their own. The first
state takes them over by itself. -/
def numbersLexer : LexerSpec where
  states := [
    { name := "main", rules := [("numbers", .splice "numbers"), ("word", .literal "w")] },
    { name := "numbers", rules := [("number", .literal "n")] },
    { name := "quoted", rules := [("quote", .literal "q")] }]
  shared := [("blank", .literal " "), ("numbers", .splice "numbers")]

/-- In the first state just the blanks are behind, in the last one the numbers too. -/
theorem shared_last_numbers :
    ∃ t t₀, numbersLexer.compile = .ok t ∧ numbersLexer.withoutShared.compile = .ok t₀ ∧
      (t.states.map fun st => st.rules.map (·.tokenType))
        = [["number", "word", "blank"], ["number", "blank"], ["quote", "blank", "number"]] ∧
      ∀ st ∈ t.states, ∃ st₀ ∈ t₀.states, ∃ contributed, st.rules = st₀.rules ++ contributed := by
  have htypes : (numbersLexer.compile.toOption.map fun t =>
      t.states.map fun st => st.rules.map (·.tokenType))
      = some [["number", "word", "blank"], ["number", "blank"], ["quote", "blank", "number"]] := by
    cbv
  have hplain : (numbersLexer.withoutShared.compile.toOption.map fun t => t.start) = some 0 := by cbv
  obtain ⟨t, ht, htypes⟩ := exists_ok_of_map htypes
  obtain ⟨t₀, ht₀, _⟩ := exists_ok_of_map hplain
  refine ⟨t, t₀, ht, ht₀, htypes, fun st hst => ?_⟩
  obtain ⟨number, hnumber⟩ := List.mem_iff_getElem?.1 hst
  obtain ⟨state, st₀, _, _, _, _, contributed, hstate, hst₀, _, _, _, _, _, hsame⟩ :=
    (shared_last numbersLexer t t₀ ht ht₀).2 number st hnumber
  refine ⟨st₀, List.mem_of_getElem? hst₀, contributed, hsame fun first hfirst b hb => ?_⟩
  -- There is one shared directive, and one state that takes over another one.
  have hshared : numbersLexer.sharedEntries
      = [.rule ⟨none, 0⟩ (.ofOptions "blank" { matchers := [.literal " "] }), .splice "numbers"] := rfl
  rw [hshared] at hb
  have hb : b = "numbers" := by simpa using hb
  rcases number with _ | _ | _ | number
  · cases hstate
    exact .inr (hb.trans (Option.some.inj hfirst))
  · cases hstate
    cases hfirst
  · cases hstate
    cases hfirst
  · cases hstate

/-- A lexer with a shared directive. The first state takes over another one. -/
def earlyLexer : LexerSpec where
  states := [
    { name := "main", rules := [("inner", .splice "inner"), ("own", .literal "x")] },
    { name := "inner", rules := [("inner", .literal "i")] },
    { name := "extra", rules := [("extra", .literal "x")] }]
  shared := [("extra", .splice "extra")]

/-- **A shared directive does not wait.** It is met at the end of the state that is taken
over, so what it brings in is in front of a rule that the state has itself, and is chosen
in its place. -/
theorem shared_before_own :
    ∃ t t₀, earlyLexer.compile = .ok t ∧ earlyLexer.withoutShared.compile = .ok t₀ ∧
      (t.state 0).rules.map (·.tokenType) = ["inner", "extra", "own"] ∧
      (t₀.state 0).rules.map (·.tokenType) = ["inner", "own"] ∧
      (¬ ∃ contributed, (t.state 0).rules = (t₀.state 0).rules ++ contributed) ∧
      (t.state 0).choose (Cursor.start "x".toList) = some ({ rule := 1, span := ⟨0, 1⟩ }, none) := by
  have hfacts : (earlyLexer.compile.toOption.map fun t => ((t.state 0).rules.map (·.tokenType),
      (t.state 0).choose (Cursor.start "x".toList)))
      = some (["inner", "extra", "own"], some ({ rule := 1, span := ⟨0, 1⟩ }, none)) := by cbv
  have hfacts₀ : (earlyLexer.withoutShared.compile.toOption.map fun t =>
      (t.state 0).rules.map (·.tokenType)) = some ["inner", "own"] := by cbv
  obtain ⟨t, ht, hfacts⟩ := exists_ok_of_map hfacts
  obtain ⟨t₀, ht₀, htypes₀⟩ := exists_ok_of_map hfacts₀
  obtain ⟨htypes, hchoose⟩ := Prod.mk.inj hfacts
  refine ⟨t, t₀, ht, ht₀, htypes, htypes₀, ?_, hchoose⟩
  rintro ⟨contributed, heq⟩
  rw [heq, List.map_append, htypes₀, List.cons_append, List.cons_append] at htypes
  exact absurd (List.cons.inj (List.cons.inj htypes).2).1 (by decide)

end LexerSpec

end StatefulLexer
