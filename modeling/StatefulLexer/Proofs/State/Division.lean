/-
How the rules of a state are divided.

A state does not search for all of its rules. The first of them may go into the table
of single characters; from the first one on that cannot, all patterns are searched for.
So the rules are divided once, into those in front and those behind, and the table and
the search are made of the two parts. A rule for gaps moves the division in front of
all rules.

There is at most one rule for unmatched input, and what the state does with such input
says which rule it is, and of which kind.

Main statements: `State.divided_of_compile`, `State.Spec.unmatched_iff`.
-/
import Mathlib.Data.List.Induction
import StatefulLexer.Proofs.State.Assemble

set_option autoImplicit false

namespace StatefulLexer

/-! ## Tables and patterns of rules -/

/-- The table that rules make, if each of them may go into it. -/
def tableOf (rules : List Rule) : List (Char × RuleId) :=
  rules.zipIdx.foldl (fun fast (r, id) => StateSoFar.addFast fast id (r.fastChars.getD [])) []

/-- The patterns of rules, each with the number of its rule. The first rule has the
number `n`. -/
def patternsFrom (n : Nat) (rules : List Rule) : List (RuleId × Regex.Compiled) :=
  (rules.zipIdx n).filterMap fun (r, id) => r.pattern.map fun p => (id, p)

theorem tableOf_concat (rules : List Rule) (r : Rule) :
    tableOf (rules ++ [r])
      = StateSoFar.addFast (tableOf rules) rules.length (r.fastChars.getD []) := by
  rw [tableOf, List.zipIdx_append, List.foldl_append, List.zipIdx_singleton, Nat.zero_add]
  rfl

theorem patternsFrom_concat (n : Nat) (rules : List Rule) (r : Rule) :
    patternsFrom n (rules ++ [r])
      = patternsFrom n rules ++ (r.pattern.map fun p => (n + rules.length, p)).toList := by
  rw [patternsFrom, List.zipIdx_append, List.filterMap_append, List.zipIdx_singleton]
  cases hp : r.pattern with
  | none => simp [patternsFrom, hp]
  | some p => simp [patternsFrom, hp]

/-- A pattern is there with the number of its rule. -/
theorem mem_patternsFrom_iff {n : Nat} {rules : List Rule} {q : RuleId × Regex.Compiled} :
    q ∈ patternsFrom n rules ↔
      n ≤ q.1 ∧ ∃ r, rules[q.1 - n]? = some r ∧ r.pattern = some q.2 := by
  obtain ⟨id, p⟩ := q
  simp only [patternsFrom, List.mem_filterMap, Prod.exists, List.mem_zipIdx_iff_le_and_getElem?_sub,
    Option.map_eq_some_iff, Prod.mk.injEq]
  constructor
  · rintro ⟨r, j, ⟨hle, hr⟩, p', hp, rfl, rfl⟩
    exact ⟨hle, r, hr, hp⟩
  · rintro ⟨hle, r, hr, hp⟩
    exact ⟨r, id, ⟨hle, hr⟩, p, hp, rfl, rfl⟩

/-- The numbers of the patterns ascend. -/
theorem pairwise_patternsFrom (n : Nat) (rules : List Rule) :
    ((patternsFrom n rules).map Prod.fst).Pairwise (· < ·) := by
  induction rules generalizing n with
  | nil => exact .nil
  | cons r rules ih =>
    have hrest : ∀ q ∈ patternsFrom (n + 1) rules, n < q.1 := by
      intro q hq
      have := (mem_patternsFrom_iff.1 hq).1
      omega
    cases hp : r.pattern with
    | none =>
      have hnone : patternsFrom n (r :: rules) = patternsFrom (n + 1) rules := by
        simp [patternsFrom, List.zipIdx_cons, hp]
      rw [hnone]
      exact ih (n + 1)
    | some p =>
      have hsome : patternsFrom n (r :: rules) = (n, p) :: patternsFrom (n + 1) rules := by
        simp [patternsFrom, List.zipIdx_cons, hp]
      rw [hsome, List.map_cons, List.pairwise_cons]
      refine ⟨?_, ih (n + 1)⟩
      intro id hid
      obtain ⟨q, hq, rfl⟩ := List.mem_map.1 hid
      exact hrest q hq

/-- **The table gives a character its first rule.** -/
theorem lookup_tableOf (rules : List Rule) (x : Char) :
    (tableOf rules).lookup x
      = rules.findIdx? fun r => (r.fastChars.getD []).contains x := by
  induction rules using List.reverseRecOn with
  | nil => rfl
  | append_singleton rules r ih =>
    rw [tableOf_concat, StateSoFar.lookup_addFast, ih, List.findIdx?_append,
      List.findIdx?_singleton]
    split <;> simp

/-! ## Dividing the rules -/

/-- **The rules are divided** in two. Those in front are in the table, as far as they have a
pattern. The patterns of those behind are searched for. -/
structure Division (rules : List Rule) (fast : List (Char × RuleId))
    (searched : List (RuleId × Regex.Compiled)) (front back : List Rule) : Prop where
  rules : rules = front ++ back
  fast : fast = tableOf front
  searched : searched = patternsFrom front.length back
  chars : ∀ r ∈ front, r.pattern.isSome = true → r.fastChars.isSome = true

/-- **What is searched for** are the rules behind that have a pattern. -/
theorem Division.mem_searched_iff {rules front back : List Rule} {fast : List (Char × RuleId)}
    {searched : List (RuleId × Regex.Compiled)} (h : Division rules fast searched front back)
    {id : RuleId} : id ∈ searched.map Prod.fst ↔
      front.length ≤ id ∧ ∃ r, rules[id]? = some r ∧ r.pattern ≠ none := by
  rw [h.searched, h.rules]
  constructor
  · intro hid
    obtain ⟨q, hq, rfl⟩ := List.mem_map.1 hid
    obtain ⟨hlen, r, hr, hp⟩ := mem_patternsFrom_iff.1 hq
    rw [List.getElem?_append_right hlen]
    exact ⟨hlen, r, hr, by rw [hp]; exact Option.some_ne_none q.2⟩
  · rintro ⟨hlen, r, hr, hp⟩
    rw [List.getElem?_append_right hlen] at hr
    obtain ⟨p, hp⟩ := Option.ne_none_iff_exists'.1 hp
    exact List.mem_map.2 ⟨(id, p), mem_patternsFrom_iff.2 ⟨hlen, r, hr, hp⟩, rfl⟩

/-- A rule that may go into the table has a pattern. -/
theorem RuleDecl.isSome_pattern_of_fastChars {d : RuleDecl} {ctx : RuleContext} {r : Rule}
    (h : d.compile ctx = .ok r) (hchars : r.fastChars.isSome = true) :
    r.pattern.isSome = true := by
  have hgives := RuleDecl.compile_eq_ok h
  obtain ⟨chars, hchars⟩ := Option.isSome_iff_exists.1 hchars
  rw [hgives.fastChars] at hchars
  obtain ⟨_, hne, _⟩ := RuleOptions.fastChars_eq_some hchars
  rcases RuleDecl.pattern_eq_ok hgives.pattern with ⟨hnil, _⟩ | ⟨p, _, hp, _, _⟩
  · exact absurd hnil hne
  · rw [hp]
    rfl

namespace StateSoFar

/-- **The division so far:** as long as the table is open, no rule is behind. -/
structure Divided (s : StateSoFar) (front back : List Rule) : Prop where
  division : Division s.rules.reverse s.fast s.searched.reverse front back
  allowed : s.fastAllowed = true → back = []

section

variable {s : StateSoFar} {front back : List Rule} {r : Rule}

/-- A rule that is added in front goes into the table, if it has a pattern. -/
theorem Divided.add_front (hs : s.Divided front back) (hallowed : s.fastAllowed = true)
    (hfast : (s.add r).fast = addFast s.fast s.rules.length (r.fastChars.getD []))
    (hsearched : (s.add r).searched = s.searched)
    (hchars : r.pattern.isSome = true → r.fastChars.isSome = true) :
    (s.add r).Divided (front ++ [r]) [] := by
  -- As long as the table is open, all rules are in front.
  have hback := hs.allowed hallowed
  subst hback
  have hrules : s.rules.reverse = front := by rw [hs.division.rules, List.append_nil]
  refine ⟨⟨?_, ?_, ?_, ?_⟩, fun _ => rfl⟩
  · rw [rules_add, List.reverse_cons, hrules, List.append_nil]
  · rw [hfast, tableOf_concat, hs.division.fast, ← hrules, List.length_reverse]
  · rw [hsearched, hs.division.searched]
    rfl
  · intro r' hr'
    rcases List.mem_append.1 hr' with hr' | hr'
    · exact hs.division.chars r' hr'
    · rw [List.mem_singleton.1 hr']
      exact hchars

/-- A rule that is added behind is searched for, if it has a pattern. The table is closed
then. -/
theorem Divided.add_back (hs : s.Divided front back) (hfast : (s.add r).fast = s.fast)
    (hsearched : (s.add r).searched.reverse
      = s.searched.reverse ++ (r.pattern.map fun p => (s.rules.length, p)).toList)
    (hclosed : (s.add r).fastAllowed = false) : (s.add r).Divided front (back ++ [r]) := by
  have hlength : s.rules.length = front.length + back.length := by
    rw [← List.length_reverse, hs.division.rules, List.length_append]
  refine ⟨⟨?_, ?_, ?_, hs.division.chars⟩, ?_⟩
  · rw [rules_add, List.reverse_cons, hs.division.rules, List.append_assoc]
  · rw [hfast]
    exact hs.division.fast
  · rw [hsearched, patternsFrom_concat, ← hs.division.searched, hlength]
  · intro h
    rw [hclosed] at h
    cases h

/-- **Where a rule goes:** in front as long as the table is open and need not be closed for
it, and otherwise behind. -/
theorem Divided.add (hs : s.Divided front back) {d : RuleDecl} {ctx : RuleContext}
    (hr : d.compile ctx = .ok r) :
    (s.fastAllowed = true ∧ (s.add r).Divided (front ++ [r]) []) ∨
      (s.add r).Divided front (back ++ [r]) ∧ (s.add r).fastAllowed = false := by
  rcases s.add_cases r with ⟨hp, hadd⟩ | ⟨p, chars, hp, hchars, hallowed, hadd⟩ | ⟨p, hp, hadd⟩
  -- A rule without a pattern is on the side that the table is on.
  · have hnone : r.fastChars = none := by
      by_contra hne
      have hsome := RuleDecl.isSome_pattern_of_fastChars hr (Option.isSome_iff_ne_none.2 hne)
      rw [hp] at hsome
      cases hsome
    by_cases hallowed : s.fastAllowed = true
    · refine .inl ⟨hallowed, hs.add_front hallowed ?_ ?_ ?_⟩
      · rw [hadd, hnone]
        rfl
      · rw [hadd]
      · intro h
        rw [hp] at h
        cases h
    · have hclosed : (s.add r).fastAllowed = false := by
        rw [hadd]
        exact Bool.eq_false_iff.2 hallowed
      refine .inr ⟨hs.add_back ?_ ?_ hclosed, hclosed⟩
      · rw [hadd]
      · rw [hadd, hp, Option.map_none, Option.toList_none, List.append_nil]
  · refine .inl ⟨hallowed, hs.add_front hallowed ?_ ?_ ?_⟩
    · rw [hadd, hchars, Option.getD_some]
    · rw [hadd]
    · intro _
      rw [hchars]
      rfl
  · have hclosed : (s.add r).fastAllowed = false := by rw [hadd]
    refine .inr ⟨hs.add_back ?_ ?_ hclosed, hclosed⟩
    · rw [hadd]
    · rw [hadd, hp, Option.map_some, Option.toList_some, List.reverse_cons]

end

/-- Before the first rule there is nothing to divide. -/
theorem Divided.empty (allowed : Bool) : Divided { fastAllowed := allowed } [] [] where
  division := ⟨rfl, rfl, rfl, List.forall_mem_nil _⟩
  allowed _ := rfl

end StateSoFar

/-! ## Rules for unmatched input -/

/-- **At most one rule is for unmatched input.** -/
def OneForUnmatched (rules : List Rule) : Prop :=
  rules.Pairwise fun r r' => r.role = .ordinary ∨ r'.role = .ordinary

/-- Two rules for unmatched input are the same. -/
theorem OneForUnmatched.eq {rules : List Rule} (h : OneForUnmatched rules) {i j : RuleId}
    {r r' : Rule} (hi : rules[i]? = some r) (hj : rules[j]? = some r')
    (hr : r.role ≠ .ordinary) (hr' : r'.role ≠ .ordinary) : i = j := by
  obtain ⟨hilt, hi⟩ := List.getElem?_eq_some_iff.1 hi
  obtain ⟨hjlt, hj⟩ := List.getElem?_eq_some_iff.1 hj
  have hpairs := List.pairwise_iff_getElem.1 h
  by_contra hne
  rcases Nat.lt_or_gt_of_ne hne with hlt | hlt
  · have := hpairs i j hilt hjlt hlt
    rw [hi, hj] at this
    exact this.elim hr hr'
  · have := hpairs j i hjlt hilt hlt
    rw [hi, hj] at this
    exact this.elim hr' hr

/-- Where unmatched input is reported, all rules are for ordinary input. -/
theorem role_of_report {rules : List Rule} (h : .report = unmatchedOf rules) :
    ∀ r ∈ rules, r.role = .ordinary := by
  obtain ⟨herror, hfallback⟩ := StateSoFar.findIdx?_of_report h
  rw [List.findIdx?_eq_none_iff] at herror hfallback
  intro r hr
  have herror := herror r hr
  have hfallback := hfallback r hr
  cases hrole : r.role with
  | ordinary => rfl
  | error =>
    rw [hrole] at herror
    cases herror
  | fallback =>
    rw [hrole] at hfallback
    cases hfallback

namespace StateSoFar

/-- A second rule for unmatched input is refused. -/
theorem Assembled.oneForUnmatched_push {s s' : StateSoFar} (hs : s.Assembled)
    (hone : OneForUnmatched s.rules.reverse) {r : Rule} {name : String}
    (h : s.push r name = .ok s') : OneForUnmatched s'.rules.reverse := by
  obtain ⟨u, hu, h⟩ := bind_eq_ok.1 h
  have hrules : s'.rules.reverse = s.rules.reverse ++ [r] := by
    rw [← Except.ok.inj h, ← List.reverse_cons, ← s.rules_add r]
  rw [hrules, OneForUnmatched, List.pairwise_append]
  refine ⟨hone, List.pairwise_singleton _ _, ?_⟩
  intro r₁ hr₁ r₂ hr₂
  rw [List.mem_singleton.1 hr₂]
  by_cases hrole : r.role = .ordinary
  · exact .inr hrole
  · -- Then unmatched input was reported so far.
    left
    have hreport : s.unmatched = .report := by
      unfold withRole at hu
      split at hu
      · contradiction
      · assumption
      · assumption
      · cases hu
    have hnone : .report = unmatchedOf s.rules.reverse := by rw [← hs.unmatched, hreport]
    exact role_of_report hnone r₁ hr₁

end StateSoFar

/-! ## Compiled states -/

namespace State

variable {st : State} {decls : List RuleDecl} {ctx : RuleContext}

/-- **The rules of a compiled state are divided,** and at most one of them is for unmatched
input. A declared rule for gaps leaves no rule in front. -/
theorem divided_of_compile (h : compile decls ctx = .ok st) :
    (∃ front back, Division st.rules st.fast st.searched front back ∧
      (decls.any (·.options.fallback) = true → front = [])) ∧ OneForUnmatched st.rules := by
  unfold compile at h
  obtain ⟨s, hfold, h⟩ := bind_eq_ok.1 h
  -- What is kept: the state so far is assembled and divided, and a closed table stays closed.
  have hkept := foldlM_keeps (P := fun s : StateSoFar => s.Assembled ∧
      OneForUnmatched s.rules.reverse ∧ ∃ front back, s.Divided front back ∧
        (decls.any (·.options.fallback) = true → front = [] ∧ s.fastAllowed = false)) ?_ hfold ?_
  · obtain ⟨_, hone, front, back, hdivided, hfront⟩ := hkept
    dsimp only at h
    split at h
    · rw [← Except.ok.inj h]
      exact ⟨⟨front, back, hdivided.division, fun hany => (hfront hany).1⟩, hone⟩
    · cases h
  · rintro d _ s s' ⟨hs, hone, front, back, hdivided, hfront⟩ hstep
    obtain ⟨r, hr, hpush⟩ := bind_eq_ok.1 hstep
    refine ⟨(hs.push hr hpush).1, hs.oneForUnmatched_push hone hpush, ?_⟩
    obtain ⟨u, _, hpush⟩ := bind_eq_ok.1 hpush
    rw [← Except.ok.inj hpush]
    rcases hdivided.add hr with ⟨hallowed, hnew⟩ | ⟨hnew, hclosed⟩
    · refine ⟨_, _, ⟨hnew.division, hnew.allowed⟩, ?_⟩
      intro hany
      rw [(hfront hany).2] at hallowed
      cases hallowed
    · exact ⟨_, _, ⟨hnew.division, hnew.allowed⟩, fun hany => ⟨(hfront hany).1, hclosed⟩⟩
  · refine ⟨.empty _, .nil, [], [], .empty _, ?_⟩
    intro hany
    exact ⟨rfl, by rw [hany]; rfl⟩

/-- A state with a rule for gaps was declared with one. -/
theorem Spec.any_fallback (h : st.Spec decls ctx) {r : Rule} (hr : r ∈ st.rules)
    (hrole : r.role = .fallback) : decls.any (·.options.fallback) = true := by
  obtain ⟨d, hd, hcompile⟩ := h.declared r hr
  rw [(RuleDecl.compile_eq_ok hcompile).role, RuleOptions.role] at hrole
  rw [List.any_eq_true]
  refine ⟨d, hd, ?_⟩
  by_contra hnot
  rw [if_neg hnot] at hrole
  split at hrole <;> cases hrole

/-- The rule that was found by what it is for. -/
theorem exists_of_findIdx?_role {rules : List Rule} {role : RuleRole} {id : RuleId}
    (h : rules.findIdx? (·.role == role) = some id) :
    ∃ r, rules[id]? = some r ∧ r.role = role := by
  obtain ⟨hlt, hrole, _⟩ := List.findIdx?_eq_some_iff_getElem.1 h
  exact ⟨rules[id], List.getElem?_eq_getElem hlt, beq_iff_eq.1 hrole⟩

/-- **What a state does with unmatched input** names the rule that is for it. -/
theorem Spec.unmatched_iff (h : st.Spec decls ctx) (hone : OneForUnmatched st.rules)
    (id : RuleId) :
    (st.unmatched = .takeRest id ↔ ∃ r, st.rules[id]? = some r ∧ r.role = .error) ∧
    (st.unmatched = .takeGap id ↔ ∃ r, st.rules[id]? = some r ∧ r.role = .fallback) ∧
    (st.unmatched = .report ↔ ∀ r ∈ st.rules, r.role = .ordinary) := by
  -- The state has at most one rule for unmatched input, so one case excludes the others.
  have hunmatched := h.unmatched
  rw [unmatchedOf] at hunmatched
  cases herror : st.rules.findIdx? (·.role == .error) with
  | some e =>
    rw [herror] at hunmatched
    obtain ⟨re, he, hre⟩ := exists_of_findIdx?_role herror
    have same {r : Rule} (hr : st.rules[id]? = some r) (hrole : r.role ≠ .ordinary) :
        id = e ∧ r.role = .error := by
      have heq := hone.eq hr he hrole (by rw [hre]; decide)
      rw [heq, he] at hr
      rw [← Option.some.inj hr]
      exact ⟨heq, hre⟩
    rw [hunmatched]
    refine ⟨⟨?_, ?_⟩, ⟨(by rintro ⟨⟩), ?_⟩, ⟨(by rintro ⟨⟩), ?_⟩⟩
    · rintro ⟨⟩
      exact ⟨re, he, hre⟩
    · rintro ⟨r, hr, hrole⟩
      rw [(same hr (by rw [hrole]; decide)).1]
    · rintro ⟨r, hr, hrole⟩
      have := (same hr (by rw [hrole]; decide)).2
      rw [hrole] at this
      cases this
    · intro hall
      rw [hall re (List.mem_of_getElem? he)] at hre
      cases hre
  | none =>
    rw [herror] at hunmatched
    have noerror {r : Rule} (hr : st.rules[id]? = some r) : r.role ≠ .error := by
      have := List.findIdx?_eq_none_iff.1 herror r (List.mem_of_getElem? hr)
      intro hrole
      rw [hrole] at this
      cases this
    cases hfallback : st.rules.findIdx? (·.role == .fallback) with
    | some f =>
      rw [hfallback] at hunmatched
      obtain ⟨rf, hf, hrf⟩ := exists_of_findIdx?_role hfallback
      rw [hunmatched]
      refine ⟨⟨(by rintro ⟨⟩), ?_⟩, ⟨?_, ?_⟩, ⟨(by rintro ⟨⟩), ?_⟩⟩
      · rintro ⟨r, hr, hrole⟩
        exact absurd hrole (noerror hr)
      · rintro ⟨⟩
        exact ⟨rf, hf, hrf⟩
      · rintro ⟨r, hr, hrole⟩
        rw [hone.eq hr hf (by rw [hrole]; decide) (by rw [hrf]; decide)]
      · intro hall
        rw [hall rf (List.mem_of_getElem? hf)] at hrf
        cases hrf
    | none =>
      rw [hfallback] at hunmatched
      have hall := role_of_report (hunmatched.symm.trans h.unmatched)
      rw [hunmatched]
      refine ⟨⟨(by rintro ⟨⟩), ?_⟩, ⟨(by rintro ⟨⟩), ?_⟩, ⟨fun _ => hall, fun _ => rfl⟩⟩
      · rintro ⟨r, hr, hrole⟩
        exact absurd hrole (noerror hr)
      · rintro ⟨r, hr, hrole⟩
        rw [hall r (List.mem_of_getElem? hr)] at hrole
        cases hrole

end State

end StatefulLexer
