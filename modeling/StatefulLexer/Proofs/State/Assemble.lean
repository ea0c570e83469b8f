/-
How a state is assembled from its rules.

A rule goes into the table of single characters, or among the patterns that are
searched for, or into neither. Where it goes depends on the rules in front of it,
and on whether the state has a rule for gaps. What does not depend on any of this
is which match is found at a place: that of the first rule that matches there.
This is the invariant by which a state is assembled.

Main statement: `State.compile_spec`.
-/
import StatefulLexer.Proofs.Rule.Compile

set_option autoImplicit false

namespace StatefulLexer

/-! ## The rules, one after the other -/

/-- **The match of the first rule** that matches at a place. -/
def firstMatch (rules : List Rule) (c : Cursor) : Option RuleMatch :=
  rules.zipIdx.findSome? fun (r, id) => r.match? id c

/-- One more rule is asked last. -/
theorem firstMatch_concat (rules : List Rule) (r : Rule) (c : Cursor) :
    firstMatch (rules ++ [r]) c = (firstMatch rules c).or (r.match? rules.length c) := by
  rw [firstMatch, List.zipIdx_append, List.findSome?_append, Nat.zero_add, List.zipIdx_singleton,
    List.findSome?_singleton, firstMatch]

/-- The first rule that matches is the one that no rule in front of it does. -/
theorem firstMatch_eq_some {rules : List Rule} {c : Cursor} {id : RuleId} {r : Rule}
    {m : RuleMatch} (hr : rules[id]? = some r) (hm : r.match? id c = some m)
    (hfirst : ∀ (j : RuleId) (r' : Rule), j < id → rules[j]? = some r' → r'.match? j c = none) :
    firstMatch rules c = some m := by
  obtain ⟨hlt, hget⟩ := List.getElem?_eq_some_iff.1 hr
  have hsplit : rules = rules.take id ++ r :: rules.drop (id + 1) := by
    rw [← hget, List.getElem_cons_drop, List.take_append_drop]
  have hlength : (rules.take id).length = id := List.length_take_of_le (Nat.le_of_lt hlt)
  -- The rules in front find nothing, so this one is asked.
  have hfront : (rules.take id).zipIdx.findSome? (fun (r, id) => r.match? id c) = none := by
    rw [List.findSome?_eq_none_iff]
    rintro ⟨r', j⟩ hj
    have hj' := List.mem_zipIdx_iff_getElem?.1 hj
    obtain ⟨hjlt, _⟩ := List.getElem?_eq_some_iff.1 hj'
    rw [hlength] at hjlt
    rw [List.getElem?_take_of_lt hjlt] at hj'
    exact hfirst j r' hjlt hj'
  rw [firstMatch, hsplit, List.zipIdx_append, List.findSome?_append, hfront, Option.none_or,
    List.zipIdx_cons, List.findSome?_cons, hlength, Nat.zero_add]
  dsimp only
  rw [hm]

/-- Where no rule matches there is no first one. -/
theorem firstMatch_eq_none {rules : List Rule} {c : Cursor}
    (h : ∀ (id : RuleId) (r : Rule), rules[id]? = some r → r.match? id c = none) :
    firstMatch rules c = none := by
  rw [firstMatch, List.findSome?_eq_none_iff]
  rintro ⟨r, id⟩ hr
  exact h id r (List.mem_zipIdx_iff_getElem?.1 hr)

/-- What a list of rules does with input that none of them matches. -/
def unmatchedOf (rules : List Rule) : Unmatched :=
  match rules.findIdx? (·.role == .error) with
  | some id => .takeRest id
  | none =>
    match rules.findIdx? (·.role == .fallback) with
    | some id => .takeGap id
    | none => .report

/-! ## Assembling -/

namespace StateSoFar

/-- What has been assembled, as a state. -/
def state (s : StateSoFar) : State where
  rules := s.rules.reverse
  fast := s.fast
  searched := s.searched.reverse
  unmatched := s.unmatched

/-- **A state is assembled** from its rules so far. -/
structure Assembled (s : StateSoFar) : Prop where
  /-- The first rule that matches is found. -/
  first : ∀ c, c.ahead ≠ [] →
    (s.state.fastMatch? c).or (s.state.matchAt? c) = firstMatch s.rules.reverse c
  /-- What is searched for are patterns of the rules. -/
  searched : ∀ q ∈ s.searched, ∃ r, s.rules.reverse[q.1]? = some r ∧ r.pattern = some q.2
  /-- The table is closed by the first pattern that is searched for. -/
  allowed : s.fastAllowed = true → s.searched = []
  unmatched : s.unmatched = unmatchedOf s.rules.reverse

/-- A character that has a rule already keeps it. -/
theorem lookup_addFast (fast : List (Char × RuleId)) (id : RuleId) (chars : List Char) (x : Char) :
    (addFast fast id chars).lookup x
      = (fast.lookup x).or (if chars.contains x then some id else none) := by
  induction chars generalizing fast with
  | nil => exact Option.or_none.symm
  | cons c chars ih =>
    rw [addFast, List.foldl_cons]
    -- The first character goes in if it has no rule yet, and the others after it.
    have hrest := ih (if (fast.lookup c).isSome then fast else fast ++ [(c, id)])
    rw [addFast] at hrest
    rw [hrest]
    by_cases hc : (fast.lookup c).isSome = true
    · rw [if_pos hc]
      by_cases hx : x = c
      · obtain ⟨id', hid'⟩ := Option.isSome_iff_exists.1 hc
        rw [hx, hid', Option.some_or, Option.some_or]
      · rw [List.contains_cons, beq_false_of_ne hx, Bool.false_or]
    · rw [if_neg hc]
      have hlookup : (fast ++ [(c, id)]).lookup x
          = (fast.lookup x).or (if x = c then some id else none) := by
        rw [List.lookup_append, List.lookup_cons, List.lookup_nil]
        by_cases hx : x = c
        · rw [if_pos hx, beq_iff_eq.2 hx]
        · rw [if_neg hx, beq_false_of_ne hx]
      rw [hlookup, Option.or_assoc]
      by_cases hx : x = c
      · rw [if_pos hx, List.contains_cons, beq_iff_eq.2 hx]
        rfl
      · rw [if_neg hx, List.contains_cons, beq_false_of_ne hx, Bool.false_or, Option.none_or]

/-- **Where a rule goes:** nowhere without a pattern, into the table as long as that is open
and the next character decides, and among what is searched for otherwise. -/
theorem add_cases (s : StateSoFar) (r : Rule) :
    (r.pattern = none ∧ s.add r = { s with rules := r :: s.rules }) ∨
    (∃ p chars, r.pattern = some p ∧ r.fastChars = some chars ∧ s.fastAllowed = true ∧
      s.add r = { s with
        rules := r :: s.rules
        fast := addFast s.fast s.rules.length chars }) ∨
    (∃ p, r.pattern = some p ∧ s.add r = { s with
      rules := r :: s.rules
      searched := (s.rules.length, p) :: s.searched
      fastAllowed := false }) := by
  unfold add
  dsimp only
  cases hp : r.pattern with
  | none => exact .inl ⟨rfl, rfl⟩
  | some p =>
    cases hchars : r.fastChars with
    | none => exact .inr (.inr ⟨p, rfl, rfl⟩)
    | some chars =>
      dsimp only
      by_cases hallowed : s.fastAllowed = true
      · rw [if_pos hallowed]
        exact .inr (.inl ⟨p, chars, rfl, rfl, hallowed, rfl⟩)
      · rw [if_neg hallowed]
        refine .inr (.inr ⟨p, rfl, ?_⟩)
        rw [Bool.eq_false_iff.2 hallowed]

/-- The first of the patterns that matches, for the rules whose they are. -/
def searchFor (rules : List Rule) (searched : List (RuleId × Regex.Compiled)) (c : Cursor) :
    Option RuleMatch :=
  searched.findSome? fun (id, p) =>
    (p.expr.match? c.behind c.ahead).map fun found => (rules.getD id default).matchOf id c found

/-- The rules of patterns stay the same when another rule comes behind them. -/
theorem searchFor_concat {rules : List Rule} {searched : List (RuleId × Regex.Compiled)}
    (hlt : ∀ q ∈ searched, q.1 < rules.length) (r : Rule) (c : Cursor) :
    searchFor (rules ++ [r]) searched c = searchFor rules searched c := by
  induction searched with
  | nil => rfl
  | cons q searched ih =>
    obtain ⟨id, p⟩ := q
    have hget : (rules ++ [r]).getD id default = rules.getD id default := by
      rw [List.getD_eq_getElem?_getD, List.getD_eq_getElem?_getD,
        List.getElem?_append_left (hlt (id, p) List.mem_cons_self)]
    have hrest := ih fun q hq => hlt q (List.mem_cons_of_mem _ hq)
    rw [searchFor, List.findSome?_cons, searchFor, List.findSome?_cons]
    dsimp only
    rw [hget]
    cases (p.expr.match? c.behind c.ahead).map fun found =>
      (rules.getD id default).matchOf id c found with
    | some m => rfl
    | none => exact hrest

/-- The pattern of the last rule is asked last. -/
theorem searchFor_last {rules : List Rule} {searched : List (RuleId × Regex.Compiled)}
    (hlt : ∀ q ∈ searched, q.1 < rules.length) {r : Rule} {p : Regex.Compiled}
    (hp : r.pattern = some p) (c : Cursor) :
    searchFor (rules ++ [r]) (searched ++ [(rules.length, p)]) c
      = (searchFor rules searched c).or (r.match? rules.length c) := by
  have hget : (rules ++ [r]).getD rules.length default = r := by
    rw [List.getD_eq_getElem?_getD, List.getElem?_concat_length]
    rfl
  have hfront := searchFor_concat hlt r c
  rw [searchFor] at hfront
  rw [searchFor, List.findSome?_append, hfront, List.findSome?_singleton, Rule.match?, hp]
  dsimp only
  rw [hget]
  rfl

/-- **One more rule is asked last,** wherever it goes. -/
theorem Assembled.first_add {s : StateSoFar} (hs : s.Assembled) {d : RuleDecl} {ctx : RuleContext}
    {r : Rule} (hr : d.compile ctx = .ok r) (c : Cursor) (hc : c.ahead ≠ []) :
    ((s.add r).state.fastMatch? c).or ((s.add r).state.matchAt? c)
      = firstMatch (s.rules.reverse ++ [r]) c := by
  have hlt : ∀ q ∈ s.searched.reverse, q.1 < s.rules.reverse.length := by
    intro q hq
    obtain ⟨_, hget, _⟩ := hs.searched q (List.mem_reverse.1 hq)
    exact (List.getElem?_eq_some_iff.1 hget).1
  have hmatchAt : s.state.matchAt? c = searchFor s.rules.reverse s.searched.reverse c := rfl
  rw [firstMatch_concat, ← hs.first c hc, hmatchAt]
  rcases s.add_cases r with ⟨hp, hadd⟩ | ⟨p, chars, _, hchars, hallowed, hadd⟩ | ⟨p, hp, hadd⟩
  -- A rule without a pattern never matches, and nothing is changed for the others.
  · have hnone : r.match? s.rules.reverse.length c = none := by rw [Rule.match?, hp]; rfl
    have hsearch : (s.add r).state.matchAt? c
        = searchFor (s.rules.reverse ++ [r]) s.searched.reverse c := by
      rw [hadd, ← List.reverse_cons]
      rfl
    rw [hsearch, searchFor_concat hlt, hnone, Option.or_none, hadd]
    rfl
  · -- Nothing is searched for yet, so the new entries of the table come last.
    have hsearched : s.searched = [] := hs.allowed hallowed
    have hsearch : (s.add r).state.matchAt? c = none := by
      rw [hadd, State.matchAt?, state, hsearched]
      rfl
    rw [hsearch, hsearched, Option.or_none, List.reverse_nil, searchFor, List.findSome?_nil,
      Option.or_none, List.length_reverse, Rule.match?_of_fastChars hr hchars, hadd,
      State.fastMatch?, State.fastMatch?]
    cases hahead : c.ahead with
    | nil => exact absurd hahead hc
    | cons x rest =>
      dsimp only [state]
      rw [lookup_addFast, Option.map_or]
      by_cases hx : chars.contains x = true
      · rw [if_pos hx, if_pos (by rw [List.head?_cons, Option.any_some]; exact hx)]
        rfl
      · rw [if_neg hx, if_neg (by rw [List.head?_cons, Option.any_some]; exact hx)]
        rfl
  -- The pattern is searched for last, whatever is in the table.
  · have hsearch : (s.add r).state.matchAt? c = searchFor (s.rules.reverse ++ [r])
        (s.searched.reverse ++ [(s.rules.reverse.length, p)]) c := by
      rw [hadd, List.length_reverse, ← List.reverse_cons, ← List.reverse_cons]
      rfl
    rw [hsearch, searchFor_last hlt hp, Option.or_assoc, hadd]
    rfl

@[simp] theorem rules_add (s : StateSoFar) (r : Rule) : (s.add r).rules = r :: s.rules := by
  rcases s.add_cases r with ⟨_, hadd⟩ | ⟨_, _, _, _, _, hadd⟩ | ⟨_, _, hadd⟩ <;> rw [hadd]

/-- What is searched for with one more rule are patterns of the rules. -/
theorem Assembled.searched_add {s : StateSoFar} (hs : s.Assembled) (r : Rule) :
    ∀ q ∈ (s.add r).searched, ∃ r', (s.rules.reverse ++ [r])[q.1]? = some r' ∧
      r'.pattern = some q.2 := by
  have hold : ∀ q ∈ s.searched, ∃ r', (s.rules.reverse ++ [r])[q.1]? = some r' ∧
      r'.pattern = some q.2 := by
    intro q hq
    obtain ⟨r', hget, hp⟩ := hs.searched q hq
    refine ⟨r', ?_, hp⟩
    rw [List.getElem?_append_left (List.getElem?_eq_some_iff.1 hget).1, hget]
  intro q hq
  rcases s.add_cases r with ⟨_, hadd⟩ | ⟨_, _, _, _, _, hadd⟩ | ⟨p, hp, hadd⟩
  · rw [hadd] at hq
    exact hold q hq
  · rw [hadd] at hq
    exact hold q hq
  · rw [hadd] at hq
    rcases List.mem_cons.1 hq with rfl | hq
    · refine ⟨r, ?_, hp⟩
      dsimp only
      rw [← List.length_reverse, List.getElem?_concat_length]
    · exact hold q hq

/-- The first rule of a kind is the first one so far, or else the new one. -/
theorem findIdx?_concat (rules : List Rule) (r : Rule) (is : Rule → Bool) :
    (rules ++ [r]).findIdx? is
      = (rules.findIdx? is).or (if is r then some rules.length else none) := by
  rw [List.findIdx?_append, List.findIdx?_singleton]
  split <;> simp

/-- Unmatched input is reported if there is no rule for it. -/
theorem findIdx?_of_report {rules : List Rule} (h : .report = unmatchedOf rules) :
    rules.findIdx? (·.role == .error) = none ∧ rules.findIdx? (·.role == .fallback) = none := by
  unfold unmatchedOf at h
  split at h
  · cases h
  · rename_i herror
    split at h
    · cases h
    · rename_i hfallback
      exact ⟨herror, hfallback⟩

/-- What is done with unmatched input is what the first rule for that says. -/
theorem withRole_eq_ok {s : StateSoFar} (hs : s.unmatched = unmatchedOf s.rules.reverse) {r : Rule}
    {name : String} {u : Unmatched} (h : s.withRole r name = .ok u) :
    u = unmatchedOf (s.rules.reverse ++ [r]) := by
  unfold withRole at h
  split at h
  · -- The rule is for ordinary input, so neither search finds it.
    rename_i hrole
    cases h
    rw [hs, unmatchedOf, unmatchedOf, findIdx?_concat, findIdx?_concat, hrole]
    simp
  · rename_i hrole hreport
    cases h
    rw [hreport] at hs
    obtain ⟨herror, _⟩ := findIdx?_of_report hs
    rw [unmatchedOf, findIdx?_concat, herror, hrole, Option.none_or, List.length_reverse]
    rfl
  · rename_i hrole hreport
    cases h
    rw [hreport] at hs
    obtain ⟨herror, hfallback⟩ := findIdx?_of_report hs
    rw [unmatchedOf, findIdx?_concat, findIdx?_concat, herror, hfallback, hrole,
      List.length_reverse]
    rfl
  · cases h

/-- **One more rule** keeps a state assembled. -/
theorem Assembled.push {s s' : StateSoFar} (hs : s.Assembled) {d : RuleDecl} {ctx : RuleContext}
    {r : Rule} (hr : d.compile ctx = .ok r) {name : String} (h : s.push r name = .ok s') :
    s'.Assembled ∧ s'.rules = r :: s.rules := by
  unfold StateSoFar.push at h
  obtain ⟨u, hu, h⟩ := bind_eq_ok.1 h
  cases h
  have hrules : (s.add r).rules.reverse = s.rules.reverse ++ [r] := by
    rw [rules_add, List.reverse_cons]
  refine ⟨⟨fun c hc => ?_, ?_, fun hallowed => ?_, ?_⟩, rules_add s r⟩
  · show ((s.add r).state.fastMatch? c).or ((s.add r).state.matchAt? c)
      = firstMatch (s.add r).rules.reverse c
    rw [hrules]
    exact hs.first_add hr c hc
  · show ∀ q ∈ (s.add r).searched, ∃ r', (s.add r).rules.reverse[q.1]? = some r' ∧
      r'.pattern = some q.2
    rw [hrules]
    exact hs.searched_add r
  · rcases s.add_cases r with ⟨_, hadd⟩ | ⟨_, _, _, _, hallowed', hadd⟩ | ⟨_, _, hadd⟩
    · rw [hadd] at hallowed ⊢
      exact hs.allowed hallowed
    · rw [hadd]
      exact hs.allowed hallowed'
    · rw [hadd] at hallowed
      cases hallowed
  · show u = unmatchedOf (s.add r).rules.reverse
    rw [hrules]
    exact withRole_eq_ok hs.unmatched hu

/-- Before the first rule, a state is assembled. -/
theorem Assembled.empty (allowed : Bool) : Assembled { fastAllowed := allowed } where
  first c hc := by
    rw [State.fastMatch?, State.matchAt?]
    cases c.ahead <;> rfl
  searched q hq := by cases hq
  allowed _ := rfl
  unmatched := rfl

/-- **All rules** keep a state assembled, and are kept in their order. -/
theorem Assembled.foldlM {s last : StateSoFar} (hs : s.Assembled) {decls : List RuleDecl}
    {ctx : RuleContext} {name : String}
    (h : decls.foldlM (fun s decl => do s.push (← decl.compile ctx) name) s = .ok last) :
    last.Assembled ∧ ∃ rules, decls.mapM (·.compile ctx) = .ok rules ∧
      last.rules.reverse = s.rules.reverse ++ rules := by
  induction decls generalizing s with
  | nil =>
    cases h
    exact ⟨hs, [], rfl, (List.append_nil _).symm⟩
  | cons d decls ih =>
    rw [List.foldlM_cons] at h
    obtain ⟨s', hstep, h⟩ := bind_eq_ok.1 h
    obtain ⟨r, hr, hpush⟩ := bind_eq_ok.1 hstep
    obtain ⟨hs', hrules⟩ := hs.push hr hpush
    obtain ⟨hlast, rules, hmap, hreverse⟩ := ih hs' h
    refine ⟨hlast, r :: rules, mapM_cons_eq_ok.2 ⟨r, rules, hr, hmap, rfl⟩, ?_⟩
    rw [hreverse, hrules, List.reverse_cons, List.append_assoc]
    rfl

end StateSoFar

/-! ## Compiled states -/

/-- **What is known of a compiled state.** -/
structure State.Spec (st : State) (decls : List RuleDecl) (ctx : RuleContext) : Prop where
  name : st.name = ctx.stateName
  /-- Its rules are the declared ones, in their order. -/
  rules : decls.mapM (·.compile ctx) = .ok st.rules
  /-- The first rule that matches at a place is found. -/
  first : ∀ c, c.ahead ≠ [] → (st.fastMatch? c).or (st.matchAt? c) = firstMatch st.rules c
  /-- What is searched for are patterns of the rules. -/
  searched : ∀ q ∈ st.searched, ∃ r, st.rules[q.1]? = some r ∧ r.pattern = some q.2
  unmatched : st.unmatched = unmatchedOf st.rules

theorem State.compile_spec {decls : List RuleDecl} {ctx : RuleContext} {st : State}
    (h : State.compile decls ctx = .ok st) : st.Spec decls ctx := by
  unfold State.compile at h
  obtain ⟨s, hfold, h⟩ := bind_eq_ok.1 h
  obtain ⟨hs, rules, hmap, hrules⟩ := (StateSoFar.Assembled.empty _).foldlM hfold
  have hrules : s.rules.reverse = rules := hrules
  dsimp only at h
  split at h
  · cases h
    refine ⟨rfl, ?_, hs.first, fun q hq => hs.searched q (List.mem_reverse.1 hq), hs.unmatched⟩
    rw [hrules]
    exact hmap
  · cases h

/-- Each rule of a state was declared. -/
theorem State.Spec.declared {st : State} {decls : List RuleDecl} {ctx : RuleContext}
    (h : st.Spec decls ctx) : ∀ r ∈ st.rules, ∃ d ∈ decls, d.compile ctx = .ok r :=
  exists_of_mem_mapM h.rules

/-- The rule of a number. -/
theorem State.rule_of_getElem? {s : State} {id : RuleId} {r : Rule} (h : s.rules[id]? = some r) :
    s.rule id = r := by
  rw [rule, List.getD_eq_getElem?_getD, h]
  rfl

/-- **What is searched for is a match of a rule.** -/
theorem State.Spec.exists_of_matchAt? {st : State} {decls : List RuleDecl} {ctx : RuleContext}
    (h : st.Spec decls ctx) {c : Cursor} {m : RuleMatch} (hm : st.matchAt? c = some m) :
    ∃ (r : Rule) (p : Regex.Compiled) (found : Regex.Found), st.rules[m.rule]? = some r ∧
      r.pattern = some p ∧ p.expr.match? c.behind c.ahead = some found ∧
      m = r.matchOf m.rule c found := by
  obtain ⟨⟨id, p⟩, hq, hmap⟩ := List.exists_of_findSome?_eq_some hm
  obtain ⟨found, hfound, rfl⟩ := Option.map_eq_some_iff.1 hmap
  obtain ⟨r, hr, hp⟩ := h.searched (id, p) hq
  exact ⟨r, p, found, hr, hp, hfound, by rw [rule_of_getElem? hr]; rfl⟩

/-- A rule that is found by what it is for was declared for that. -/
theorem State.Spec.declared_of_role {st : State} {decls : List RuleDecl} {ctx : RuleContext}
    (h : st.Spec decls ctx) {id : RuleId} {role : RuleRole}
    (hid : st.rules.findIdx? (·.role == role) = some id) :
    ∃ d ∈ decls, d.compile ctx = .ok (st.rule id) ∧ d.options.role = role := by
  obtain ⟨hlt, hrole, _⟩ := List.findIdx?_eq_some_iff_getElem.1 hid
  obtain ⟨d, hd, hcompile⟩ := h.declared _ (List.getElem_mem hlt)
  refine ⟨d, hd, ?_, ?_⟩
  · rw [State.rule_of_getElem? (List.getElem?_eq_getElem hlt)]
    exact hcompile
  · rw [← (RuleDecl.compile_eq_ok hcompile).role]
    exact beq_iff_eq.1 hrole

/-- **The rule for unmatched input** was declared for it. -/
theorem State.Spec.declared_of_unmatched {st : State} {decls : List RuleDecl} {ctx : RuleContext}
    (h : st.Spec decls ctx) (id : RuleId) :
    (st.unmatched = .takeRest id →
      ∃ d ∈ decls, d.compile ctx = .ok (st.rule id) ∧ d.options.role = .error) ∧
    (st.unmatched = .takeGap id →
      ∃ d ∈ decls, d.compile ctx = .ok (st.rule id) ∧ d.options.role = .fallback) := by
  rw [h.unmatched, unmatchedOf]
  split
  · rename_i id' herror
    refine ⟨?_, nofun⟩
    rintro ⟨⟩
    exact h.declared_of_role herror
  · split
    · rename_i id' hfallback
      refine ⟨nofun, ?_⟩
      rintro ⟨⟩
      exact h.declared_of_role hfallback
    · exact ⟨nofun, nofun⟩

end StatefulLexer
