/-
Taking over, entry by entry.

The definition keeps one list, works through it from the left and puts what a directive
brings in into its middle, less what is in the list already. That this is the expansion
is not a matter of the list alone. It takes that every rule knows the list it was written
in: then a rule that is in the list already is one of the state itself or of a state that
was taken over, or else it is shared. So of a state that is new just the shared rules are
left out, which is what `Working` keeps.

Main statements: `Working.expand_cases`, `expand_entryLists`.
-/
import StatefulLexer.Proofs.Evaluated
import StatefulLexer.Proofs.Inclusion.Expansion
import StatefulLexer.Proofs.Table.Compile

set_option autoImplicit false

namespace StatefulLexer

/-! ## Entries that are new -/

namespace LocatedEntry

/-- A rule is among some entries if one of them was written at the same place. -/
theorem isAmong_rule_iff {origin : Origin} {decl : RuleDecl} {entries : List LocatedEntry} :
    (rule origin decl).isAmong entries = true ↔ origin ∈ entries.filterMap origin? := by
  rw [isAmong, origin?, List.any_eq_true, List.mem_filterMap]
  exact exists_congr fun e => and_congr_right fun _ => beq_iff_eq

/-- Rules that were written at different places are new if they were not there before. -/
theorem newIn_eq_filter {present entries : List LocatedEntry}
    (h : (entries.filterMap origin?).Nodup) :
    newIn present entries = entries.filter fun e => !e.isAmong present := by
  induction entries generalizing present with
  | nil => rfl
  | cons e entries ih =>
    have hrest : (entries.filterMap origin?).Nodup := by
      cases e with
      | rule origin decl => exact (List.nodup_cons.1 h).2
      | splice target => exact h
    rw [newIn, List.filter_cons]
    by_cases hamong : e.isAmong present = true
    · rw [if_pos hamong, ih hrest, hamong]
      rfl
    · rw [if_neg hamong, ih hrest, Bool.eq_false_iff.2 hamong]
      -- No entry further on is a rule that was written where this one was.
      refine congrArg (e :: ·) (List.filter_congr fun e' he' => ?_)
      cases e' with
      | splice target => rfl
      | rule origin' decl' =>
        have horigin' : origin' ∈ entries.filterMap origin? :=
          List.mem_filterMap.2 ⟨_, he', rfl⟩
        congr 1
        rw [Bool.eq_iff_iff, isAmong_rule_iff, isAmong_rule_iff, List.filterMap_append,
          List.mem_append]
        refine or_iff_left fun hmem => ?_
        cases e with
        | splice target => cases hmem
        | rule origin decl =>
          rw [List.mem_singleton.1 hmem] at horigin'
          exact (List.nodup_cons.1 h).1 horigin'

end LocatedEntry

namespace EntryList

/-! ## Lists of different owners -/

/-- **Lists whose rules know where they were written:** in one list, or among the shared
rules, which are in all of them. -/
structure Located (lists : List EntryList) : Prop where
  names : (lists.map (·.name)).Nodup
  origins : ∀ q ∈ lists, (q.entries.filterMap LocatedEntry.origin?).Nodup
  owner : ∀ q ∈ lists, ∀ q' ∈ lists, ∀ origin : Origin, origin.owner ≠ none →
    origin ∈ q.entries.filterMap LocatedEntry.origin? →
    origin ∈ q'.entries.filterMap LocatedEntry.origin? → q' = q
  shared : ∀ q ∈ lists, ∀ q' ∈ lists, ∀ e ∈ q.entries, e.isShared = true → e ∈ q'.entries

/-- **What is kept** while the list of a state is worked through. -/
structure Working (lists : List EntryList) (s : EntryList) (taken : List String)
    (done todo : List LocatedEntry) : Prop where
  origins : ((done.reverse ++ todo).filterMap LocatedEntry.origin?).Nodup
  shared : ∀ e ∈ s.entries, e.isShared = true → e ∈ done.reverse ++ todo
  owner : ∀ origin ∈ (done.reverse ++ todo).filterMap LocatedEntry.origin?,
    ∃ q ∈ lists, (q.name = s.name ∨ q.name ∈ taken) ∧
      origin ∈ q.entries.filterMap LocatedEntry.origin?
  reaches : ∀ target, .splice target ∈ todo → Reaches lists s.name target

namespace Working

variable {lists : List EntryList} {s q : EntryList} {taken : List String}
  {done todo : List LocatedEntry}

/-- At first there is the list of the state. -/
theorem start (hl : Located lists) (hs : s ∈ lists) : Working lists s [] [] s.entries where
  origins := hl.origins s hs
  shared _ he _ := he
  owner _ horigin := ⟨s, hs, .inl rfl, horigin⟩
  reaches _ htarget := .single ⟨s, hs, rfl, htarget⟩

/-- A rule is done. -/
theorem rule {origin : Origin} {decl : RuleDecl}
    (h : Working lists s taken done (.rule origin decl :: todo)) :
    Working lists s taken (.rule origin decl :: done) todo := by
  have hsame : (LocatedEntry.rule origin decl :: done).reverse ++ todo
      = done.reverse ++ .rule origin decl :: todo := by
    rw [List.reverse_cons, List.append_assoc]
    rfl
  refine ⟨?_, ?_, ?_, fun target htarget => h.reaches target (List.mem_cons_of_mem _ htarget)⟩
  · rw [hsame]
    exact h.origins
  · rw [hsame]
    exact h.shared
  · rw [hsame]
    exact h.owner

/-- A directive goes. -/
theorem again {target : String} (h : Working lists s taken done (.splice target :: todo)) :
    Working lists s taken done todo := by
  have hsame : (done.reverse ++ LocatedEntry.splice target :: todo).filterMap LocatedEntry.origin?
      = (done.reverse ++ todo).filterMap LocatedEntry.origin? := by
    rw [List.filterMap_append, List.filterMap_append]
    rfl
  refine ⟨?_, fun e he hshared => ?_, ?_, fun b hb => h.reaches b (List.mem_cons_of_mem _ hb)⟩
  · rw [← hsame]
    exact h.origins
  · rcases List.mem_append.1 (h.shared e he hshared) with hmem | hmem
    · exact List.mem_append_left _ hmem
    · rcases List.mem_cons.1 hmem with rfl | hmem
      · cases hshared
      · exact List.mem_append_right _ hmem
  · rw [← hsame]
    exact h.owner

/-- **Of a state that is new,** just the shared rules are there already. -/
theorem isAmong_eq (h : Working lists s taken done todo) (hl : Located lists) (hs : s ∈ lists)
    (hq : q ∈ lists) (hname : q.name ≠ s.name) (htaken : q.name ∉ taken) {e : LocatedEntry}
    (he : e ∈ q.entries) : e.isAmong (done.reverse ++ todo) = e.isShared := by
  cases e with
  | splice target => rfl
  | rule origin decl =>
    have horigin : origin ∈ q.entries.filterMap LocatedEntry.origin? :=
      List.mem_filterMap.2 ⟨_, he, rfl⟩
    by_cases hshared : (LocatedEntry.rule origin decl).isShared = true
    · rw [hshared, LocatedEntry.isAmong_rule_iff]
      exact List.mem_filterMap.2 ⟨_, h.shared _ (hl.shared q hq s hs _ he hshared) hshared, rfl⟩
    · rw [Bool.eq_false_iff.2 hshared, Bool.eq_false_iff, ne_eq, LocatedEntry.isAmong_rule_iff]
      intro hmem
      obtain ⟨q', hq', hknown, horigin'⟩ := h.owner origin hmem
      have howner : origin.owner ≠ none := by
        intro hnone
        rw [LocatedEntry.isShared, hnone] at hshared
        exact hshared rfl
      rw [hl.owner q hq q' hq' origin howner horigin horigin'] at hknown
      exact hknown.elim hname htaken

/-- So all others come in. -/
theorem newIn_eq (h : Working lists s taken done todo) (hl : Located lists) (hs : s ∈ lists)
    (hq : q ∈ lists) (hname : q.name ≠ s.name) (htaken : q.name ∉ taken) :
    LocatedEntry.newIn (done.reverse ++ todo) q.entries = q.own := by
  rw [LocatedEntry.newIn_eq_filter (hl.origins q hq), own]
  refine List.filter_congr fun e he => ?_
  rw [h.isAmong_eq hl hs hq hname htaken he]

/-- A state is taken over. -/
theorem splice (h : Working lists s taken done (.splice q.name :: todo)) (hl : Located lists)
    (hs : s ∈ lists) (hq : q ∈ lists) (hname : q.name ≠ s.name) (htaken : q.name ∉ taken) :
    Working lists s (q.name :: taken) done (q.own ++ todo) := by
  have hreach := h.reaches q.name List.mem_cons_self
  have h := h.again
  have hmem : ∀ e, e ∈ done.reverse ++ (q.own ++ todo) ↔ e ∈ done.reverse ++ todo ∨ e ∈ q.own := by
    intro e
    rw [List.mem_append, List.mem_append, List.mem_append, or_assoc]
    exact or_congr_right or_comm
  refine ⟨?_, fun e he hshared => (hmem e).2 (.inl (h.shared e he hshared)), ?_, ?_⟩
  · have hperm : ((done.reverse ++ (q.own ++ todo)).filterMap LocatedEntry.origin?).Perm
        (q.own.filterMap LocatedEntry.origin? ++
          (done.reverse ++ todo).filterMap LocatedEntry.origin?) := by
      rw [← List.filterMap_append]
      exact (List.perm_append_comm_assoc _ _ _).filterMap _
    rw [hperm.nodup_iff, List.nodup_append]
    refine ⟨(hl.origins q hq).sublist (List.filter_sublist.filterMap _), h.origins, ?_⟩
    rintro origin horigin _ hpresent rfl
    obtain ⟨e, he, heq⟩ := List.mem_filterMap.1 horigin
    cases e with
    | splice target => cases heq
    | rule origin' decl =>
      cases heq
      obtain ⟨hentry, hshared⟩ := mem_own_iff.1 he
      have hamong := h.isAmong_eq hl hs hq hname htaken hentry
      rw [hshared, LocatedEntry.isAmong_rule_iff.2 hpresent] at hamong
      cases hamong
  · intro origin horigin
    obtain ⟨e, he, heq⟩ := List.mem_filterMap.1 horigin
    rcases (hmem e).1 he with he | he
    · obtain ⟨q', hq', hknown, horigin'⟩ := h.owner origin (List.mem_filterMap.2 ⟨e, he, heq⟩)
      exact ⟨q', hq', hknown.imp_right (List.mem_cons_of_mem _), horigin'⟩
    · exact ⟨q, hq, .inr List.mem_cons_self,
        List.mem_filterMap.2 ⟨e, (mem_own_iff.1 he).1, heq⟩⟩
  · intro target htarget
    rcases List.mem_append.1 htarget with htarget | htarget
    · exact hreach.tail ⟨q, hq, rfl, splice_mem_own_iff.1 htarget⟩
    · exact h.reaches target htarget

/-- **Working through a list expands it,** or comes to a directive for a state that does not
exist. -/
theorem expand_cases (h : Working lists s taken done todo) (hl : Located lists) (hs : s ∈ lists) :
    (∃ out new, expand lists s.name taken done todo = .ok (done.reverse ++ out) ∧
      Expansion lists s.name taken todo out new ∧
      ((done.reverse ++ out).filterMap LocatedEntry.origin?).Nodup) ∨
    (∃ target, expand lists s.name taken done todo = .error (.missingInclude target s.name) ∧
      Reaches lists s.name target ∧ ∀ q ∈ lists, q.name ≠ target) := by
  fun_induction expand lists s.name taken done todo with
  | case1 taken done =>
    refine .inl ⟨[], [], by rw [List.append_nil], .nil taken, h.origins⟩
  | case2 taken done origin decl todo ih =>
    rcases ih h.rule with ⟨out, new, hout, hexpansion, hnodup⟩ | herror
    · rw [List.reverse_cons, List.append_assoc] at hout hnodup
      exact .inl ⟨_, new, hout, .rule origin decl hexpansion, hnodup⟩
    · exact .inr herror
  | case3 taken done todo ih =>
    rcases ih h.again with ⟨out, new, hout, hexpansion, hnodup⟩ | herror
    · exact .inl ⟨out, new, hout, .again (.inl rfl) hexpansion, hnodup⟩
    · exact .inr herror
  | case4 taken done target todo hname htaken ih =>
    rcases ih h.again with ⟨out, new, hout, hexpansion, hnodup⟩ | herror
    · refine .inl ⟨out, new, hout, .again (.inr ?_) hexpansion, hnodup⟩
      exact List.contains_iff_mem.1 htaken
    · exact .inr herror
  | case5 taken done target todo hname htaken hfind =>
    refine .inr ⟨target, rfl, h.reaches target List.mem_cons_self, fun q hq => ?_⟩
    exact fun heq => List.find?_eq_none.1 hfind q hq (beq_iff_eq.2 heq)
  | case6 taken done target todo hname htaken q hfind _ ih =>
    have hq : q ∈ lists := List.mem_of_find?_eq_some hfind
    have htarget : q.name = target := by simpa using List.find?_some hfind
    subst htarget
    rw [List.contains_iff_mem] at htaken
    -- Just the own entries of the state come in, and they are expanded in front of the rest.
    rw [List.unattach_reverse, List.unattach_attach, h.again.newIn_eq hl hs hq hname htaken] at ih
    rw [h.again.newIn_eq hl hs hq hname htaken]
    rcases ih (h.splice hl hs hq hname htaken) with ⟨out, new, hout, hexpansion, hnodup⟩ | herror
    · obtain ⟨out₁, out₂, new₁, new₂, hown, hrest, rfl, rfl⟩ := hexpansion.of_append
      exact .inl ⟨_, _, hout, .splice hq hname htaken hown hrest, hnodup⟩
    · exact .inr herror

end Working

end EntryList

/-! ## The lists of a lexer -/

namespace LocatedEntry

/-- The entries of a list, where the first one has the number `n`. -/
def numberedFrom (owner : Option Nat) : Nat → List RuleEntry → List LocatedEntry
  | _, [] => []
  | n, .rule decl :: entries => .rule ⟨owner, n⟩ decl :: numberedFrom owner (n + 1) entries
  | n, .splice state :: entries => .splice state :: numberedFrom owner (n + 1) entries

theorem ofEntries_eq (owner : Option Nat) (entries : List RuleEntry) :
    ofEntries owner entries = numberedFrom owner 0 entries := by
  unfold ofEntries
  generalize 0 = n
  induction entries generalizing n with
  | nil => rfl
  | cons entry entries ih =>
    rw [List.zipIdx_cons, List.map_cons, ih]
    cases entry <;> rfl

/-- Each place of a list occurs once, and has the number of the first entry or a greater
one. -/
theorem origins_numberedFrom (owner : Option Nat) (n : Nat) (entries : List RuleEntry) :
    ((numberedFrom owner n entries).filterMap origin?).Nodup ∧
      ∀ origin ∈ (numberedFrom owner n entries).filterMap origin?,
        origin.owner = owner ∧ n ≤ origin.number := by
  induction entries generalizing n with
  | nil => exact ⟨.nil, nofun⟩
  | cons entry entries ih =>
    obtain ⟨hnodup, howner⟩ := ih (n + 1)
    have later : ∀ origin ∈ (numberedFrom owner (n + 1) entries).filterMap origin?,
        origin.owner = owner ∧ n ≤ origin.number := fun origin h =>
      ⟨(howner origin h).1, Nat.le_of_succ_le (howner origin h).2⟩
    cases entry with
    | splice state => exact ⟨hnodup, later⟩
    | rule decl =>
      refine ⟨List.nodup_cons.2 ⟨fun hmem => ?_, hnodup⟩, fun origin hmem => ?_⟩
      · exact Nat.not_succ_le_self n (howner _ hmem).2
      · rcases List.mem_cons.1 hmem with rfl | hmem
        · exact ⟨rfl, Nat.le_refl n⟩
        · exact later origin hmem

end LocatedEntry

namespace LexerSpec

/-- The entries of a state are its own, and the shared ones behind them. -/
theorem getElem?_entryLists (spec : LexerSpec) (number : Nat) :
    spec.entryLists[number]? = spec.states[number]?.map fun state =>
      { name := state.name
        entries := LocatedEntry.ofEntries (some number) (RuleList.normalize state.rules) ++
          LocatedEntry.ofEntries none (RuleList.normalize spec.shared) } := by
  rw [entryLists, List.getElem?_map, List.getElem?_zipIdx, Option.map_map]
  simp only [Function.comp_def, Nat.zero_add]

theorem mem_entryLists_iff {spec : LexerSpec} {q : EntryList} :
    q ∈ spec.entryLists ↔ ∃ (number : Nat) (state : StateSpec), spec.states[number]? = some state ∧
      q = { name := state.name
            entries := LocatedEntry.ofEntries (some number) (RuleList.normalize state.rules) ++
              LocatedEntry.ofEntries none (RuleList.normalize spec.shared) } := by
  rw [List.mem_iff_getElem?]
  refine exists_congr fun number => ?_
  rw [getElem?_entryLists, Option.map_eq_some_iff]
  exact exists_congr fun state => and_congr_right fun _ => eq_comm

/-- A rule of a list is owned by the state, or by none. -/
theorem owner_of_entries {spec : LexerSpec} {number : Nat} {state : StateSpec} {origin : Origin}
    (h : origin ∈ (LocatedEntry.ofEntries (some number) (RuleList.normalize state.rules) ++
      LocatedEntry.ofEntries none (RuleList.normalize spec.shared)).filterMap
        LocatedEntry.origin?) : origin.owner = some number ∨ origin.owner = none := by
  rw [List.filterMap_append, LocatedEntry.ofEntries_eq, LocatedEntry.ofEntries_eq] at h
  rcases List.mem_append.1 h with h | h
  · exact .inl ((LocatedEntry.origins_numberedFrom _ _ _).2 origin h).1
  · exact .inr ((LocatedEntry.origins_numberedFrom _ _ _).2 origin h).1

/-- **The rules of a lexer know where they were written.** -/
theorem located_entryLists {spec : LexerSpec} (h : (spec.states.map (·.name)).Nodup) :
    EntryList.Located spec.entryLists := by
  refine ⟨?_, ?_, ?_, ?_⟩
  · rw [spec.names_entryLists]
    exact h
  · intro q hq
    obtain ⟨number, state, _, rfl⟩ := mem_entryLists_iff.1 hq
    have hown := LocatedEntry.origins_numberedFrom (some number) 0 (RuleList.normalize state.rules)
    have hshared := LocatedEntry.origins_numberedFrom none 0 (RuleList.normalize spec.shared)
    rw [List.filterMap_append, LocatedEntry.ofEntries_eq, LocatedEntry.ofEntries_eq,
      List.nodup_append]
    refine ⟨hown.1, hshared.1, ?_⟩
    rintro origin horigin _ hmem rfl
    have hnone := (hshared.2 origin hmem).1
    rw [(hown.2 origin horigin).1] at hnone
    cases hnone
  · intro q hq q' hq' origin howner hmem hmem'
    obtain ⟨number, state, hget, rfl⟩ := mem_entryLists_iff.1 hq
    obtain ⟨number', state', hget', rfl⟩ := mem_entryLists_iff.1 hq'
    have hsome := (owner_of_entries hmem).resolve_right howner
    have hsome' := (owner_of_entries hmem').resolve_right howner
    rw [hsome] at hsome'
    cases hsome'
    rw [hget] at hget'
    cases hget'
    rfl
  · intro q hq q' hq' e he hshared
    obtain ⟨number, state, _, rfl⟩ := mem_entryLists_iff.1 hq
    obtain ⟨number', state', _, rfl⟩ := mem_entryLists_iff.1 hq'
    rcases List.mem_append.1 he with he | he
    · -- The own rules of a state are not shared.
      cases e with
      | splice target => cases hshared
      | rule origin decl =>
        rw [LocatedEntry.ofEntries_eq] at he
        have howner := ((LocatedEntry.origins_numberedFrom _ _ _).2 origin
          (List.mem_filterMap.2 ⟨_, he, rfl⟩)).1
        rw [LocatedEntry.isShared, howner] at hshared
        cases hshared
    · exact List.mem_append_right _ he

end LexerSpec

/-! ## What is taken over -/

namespace EntryList

/-- What the directives of a state lead to exists, if taking over succeeds. -/
theorem Expansion.known_of_reaches {lists : List EntryList} (hl : Located lists) {s : EntryList}
    (hs : s ∈ lists) {out : List LocatedEntry} {new : List String}
    (h : Expansion lists s.name [] s.entries out new) {target : String}
    (htarget : Reaches lists s.name target) : ∃ q ∈ lists, q.name = target := by
  by_cases hname : target = s.name
  · exact ⟨s, hs, hname.symm⟩
  · exact (h.nodup_new.2 target ((h.mem_new_iff hl.names hs target).2 ⟨hname, htarget⟩)).2.2

/-- The rules that are given are those of the states that are reached. -/
theorem Expansion.mem_iff {lists : List EntryList} (hl : Located lists) {s : EntryList}
    (hs : s ∈ lists) {out : List LocatedEntry} {new : List String}
    (h : Expansion lists s.name [] s.entries out new) (e : LocatedEntry) :
    e ∈ out ↔ e.isRule = true ∧ ∃ q ∈ lists, Reaches lists s.name q.name ∧ e ∈ q.entries := by
  rw [h.mem_out_iff hl.names]
  refine and_congr_right fun _ => ⟨?_, ?_⟩
  · rintro (he | ⟨q, hq, hnew, he⟩)
    · exact ⟨s, hs, .refl, he⟩
    · exact ⟨q, hq, ((h.mem_new_iff hl.names hs _).1 hnew).2, (mem_own_iff.1 he).1⟩
  · rintro ⟨q, hq, hreach, he⟩
    by_cases hshared : e.isShared = true
    · exact .inl (hl.shared q hq s hs e he hshared)
    · by_cases hname : q.name = s.name
      · rw [List.inj_on_of_nodup_map hl.names hq hs hname] at he
        exact .inl he
      · refine .inr ⟨q, hq, (h.mem_new_iff hl.names hs _).2 ⟨hname, hreach⟩, ?_⟩
        exact mem_own_iff.2 ⟨he, Bool.eq_false_iff.2 hshared⟩

/-- The rules of the state itself stand in the order of its list. -/
theorem Expansion.filter_isAmong {lists : List EntryList} (hl : Located lists) {s : EntryList}
    (hs : s ∈ lists) {out : List LocatedEntry} {new : List String}
    (h : Expansion lists s.name [] s.entries out new) :
    out.filter (·.isAmong s.entries) = s.entries.filter (·.isRule) := by
  have hout : out.filter (·.isAmong s.entries) = s.entries.filter (·.isAmong s.entries) := by
    refine h.filter_out (fun target => rfl) fun q hq hname e he => ?_
    -- What another state brings in was written there, so not in the list of this one.
    obtain ⟨hentry, hshared⟩ := mem_own_iff.1 he
    cases e with
    | splice target => rfl
    | rule origin decl =>
      rw [Bool.eq_false_iff, ne_eq, LocatedEntry.isAmong_rule_iff]
      intro hmem
      have howner : origin.owner ≠ none := by
        intro hnone
        rw [LocatedEntry.isShared, hnone] at hshared
        cases hshared
      have hsame := hl.owner q hq s hs origin howner (List.mem_filterMap.2 ⟨_, hentry, rfl⟩) hmem
      exact hname (congrArg EntryList.name hsame.symm)
  rw [hout]
  refine List.filter_congr fun e he => ?_
  cases e with
  | splice target => rfl
  | rule origin decl => exact LocatedEntry.isAmong_rule_iff.2 (List.mem_filterMap.2 ⟨_, he, rfl⟩)

/-- **Taking over gives the expansion.** Whatever the directives are, it ends. It fails
exactly if a directive for a state that does not exist can be reached, and names one that
can. Otherwise it gives the one expansion of the list of the state: the others that are
reached come in once each, where a directive for them is met first. The rules are those of
the state and of the states that it reaches, each of them once. Those of its own list, the
shared ones among them, stand in the order of that list. -/
theorem expand_entryLists {spec : LexerSpec} (hnames : (spec.states.map (·.name)).Nodup)
    {s : EntryList} (hs : s ∈ spec.entryLists) :
    ((∃ e, expand spec.entryLists s.name [] [] s.entries = .error e) ↔
      ∃ target, Reaches spec.entryLists s.name target ∧ target ∉ spec.states.map (·.name)) ∧
    (∀ e, expand spec.entryLists s.name [] [] s.entries = .error e →
      ∃ target, e = .missingInclude target s.name ∧ Reaches spec.entryLists s.name target ∧
        target ∉ spec.states.map (·.name)) ∧
    (∀ out, expand spec.entryLists s.name [] [] s.entries = .ok out →
      (∃ new, Expansion spec.entryLists s.name [] s.entries out new ∧ new.Nodup ∧
        ∀ b, b ∈ new ↔ b ≠ s.name ∧ Reaches spec.entryLists s.name b) ∧
      (∀ out' new', Expansion spec.entryLists s.name [] s.entries out' new' → out' = out) ∧
      (∀ e, e ∈ out ↔ e.isRule = true ∧
        ∃ q ∈ spec.entryLists, Reaches spec.entryLists s.name q.name ∧ e ∈ q.entries) ∧
      (out.filterMap LocatedEntry.origin?).Nodup ∧
      out.filter (·.isAmong s.entries) = s.entries.filter (·.isRule) ∧
      rules spec.entryLists s = .ok (out.filterMap LocatedEntry.decl?)) := by
  have hl := spec.located_entryLists hnames
  have hknown (target : String) :
      target ∈ spec.states.map (·.name) ↔ ∃ q ∈ spec.entryLists, q.name = target := by
    rw [← spec.names_entryLists, List.mem_map]
  have hcases := (Working.start hl hs).expand_cases hl hs
  have herror : ∀ e, expand spec.entryLists s.name [] [] s.entries = .error e →
      ∃ target, e = .missingInclude target s.name ∧ Reaches spec.entryLists s.name target ∧
        target ∉ spec.states.map (·.name) := by
    intro e he
    rcases hcases with ⟨out, new, hok, _⟩ | ⟨target, hfail, hreach, hunknown⟩
    · rw [hok] at he
      cases he
    · rw [hfail] at he
      refine ⟨target, (Except.error.inj he).symm, hreach, ?_⟩
      rw [hknown]
      exact fun ⟨q, hq, hname⟩ => hunknown q hq hname
  refine ⟨⟨?_, ?_⟩, herror, ?_⟩
  · rintro ⟨e, he⟩
    obtain ⟨target, _, hreach, hunknown⟩ := herror e he
    exact ⟨target, hreach, hunknown⟩
  · rintro ⟨target, hreach, hunknown⟩
    rcases hcases with ⟨out, new, _, hexpansion, _⟩ | ⟨_, hfail, _⟩
    · exact absurd ((hknown target).2 (hexpansion.known_of_reaches hl hs hreach)) hunknown
    · exact ⟨_, hfail⟩
  · intro out hout
    rcases hcases with ⟨out', new, hok, hexpansion, hnodup⟩ | ⟨_, hfail, _⟩
    · rw [hok] at hout
      cases hout
      refine ⟨⟨new, hexpansion, hexpansion.nodup_new.1, hexpansion.mem_new_iff hl.names hs⟩, ?_,
        hexpansion.mem_iff hl hs, hnodup, hexpansion.filter_isAmong hl hs, ?_⟩
      · exact fun out'' new'' h => (hexpansion.unique hl.names h).1
      · exact bind_eq_ok.2 ⟨_, hok, rfl⟩
    · rw [hfail] at hout
      cases hout

/-- A lexer whose states include each other, and one of them twice. -/
def cyclicLexer : LexerSpec where
  states := [
    { name := "main"
      rules := [("word", .literal "w"), ("more", .splice "more"), ("end", .literal "e")] },
    { name := "more"
      rules := [("back", .splice "main"), ("rest", .splice "rest"), ("number", .literal "n")] },
    { name := "rest"
      rules := [("again", .splice "more"), ("rest", .splice "rest"), ("quote", .literal "q")] }]
  shared := [("blank", .literal " ")]

/-- Each rule once, those of the state that was met first in front. -/
theorem expand_entryLists_cyclic :
    (cyclicLexer.states.map (·.name)).Nodup ∧ ∃ s ∈ cyclicLexer.entryLists, ∃ out new,
      Expansion cyclicLexer.entryLists s.name [] s.entries out new ∧
      (out.filterMap LocatedEntry.decl?).map (·.tokenType)
        = ["word", "quote", "number", "end", "blank"] ∧
      (∀ b, b ∈ new ↔ b ≠ s.name ∧ Reaches cyclicLexer.entryLists s.name b) := by
  have hnames : (cyclicLexer.states.map (·.name)).Nodup := by decide
  have hfacts : (cyclicLexer.entryLists.head?.bind fun s =>
      (expand cyclicLexer.entryLists s.name [] [] s.entries).toOption.map fun out =>
        (out.filterMap LocatedEntry.decl?).map (·.tokenType))
      = some ["word", "quote", "number", "end", "blank"] := by cbv
  obtain ⟨s, hs, hfacts⟩ := Option.bind_eq_some_iff.1 hfacts
  obtain ⟨out, hout, htypes⟩ := exists_ok_of_map hfacts
  have hmem : s ∈ cyclicLexer.entryLists := List.mem_of_head? hs
  obtain ⟨⟨new, hexpansion, _, hnew⟩, _⟩ := (expand_entryLists hnames hmem).2.2 out hout
  exact ⟨hnames, s, hmem, out, new, hexpansion, htypes, hnew⟩

end EntryList

end StatefulLexer
