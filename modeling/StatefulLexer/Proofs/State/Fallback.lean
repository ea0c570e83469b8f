/-
Gaps, as they would be looked for by hand.

A state with a rule for gaps has no table. It searches once, for all its patterns, and
answers with a gap and the match behind it. By hand one would go from place to place and
try every rule there, in the order of their declaration: the first place where a rule
matches ends the gap, and of the rules that match there the first is taken. That the two
agree rests on the division of the rules, which a rule for gaps moves in front of all of
them, so that no rule escapes the search and none of them changes its rank.

Main statement: `State.scansByHand`.
-/
import StatefulLexer.Proofs.State.Division
import StatefulLexer.Proofs.State.First
import StatefulLexer.Proofs.State.Place

set_option autoImplicit false

namespace StatefulLexer

/-! ## Trying rules -/

/-- What the pattern of a rule finds at a place. A rule without a pattern finds nothing. -/
def Rule.find? (r : Rule) (c : Cursor) : Option Regex.Found :=
  r.pattern.bind fun p => p.expr.match? c.behind c.ahead

/-- **The first rule that matches** at a place is the one with this number. -/
structure FirstAt (rules : List Rule) (c : Cursor) (id : RuleId) (r : Rule)
    (found : Regex.Found) : Prop where
  rule : rules[id]? = some r
  found : r.find? c = some found
  before : ∀ (j : RuleId) (r' : Rule), j < id → rules[j]? = some r' → r'.find? c = none

/-- No rule matches at a place. -/
def NoneAt (rules : List Rule) (c : Cursor) : Prop := ∀ r ∈ rules, r.find? c = none

/-- The match of a rule is made of what its pattern finds. -/
theorem Rule.match?_eq (r : Rule) (id : RuleId) (c : Cursor) :
    r.match? id c = (r.find? c).map (r.matchOf id c) := by
  unfold match? find?
  cases r.pattern <;> rfl

theorem FirstAt.firstMatch {rules : List Rule} {c : Cursor} {id : RuleId} {r : Rule}
    {found : Regex.Found} (h : FirstAt rules c id r found) :
    firstMatch rules c = some (r.matchOf id c found) := by
  apply firstMatch_eq_some h.rule
  · rw [Rule.match?_eq, h.found]
    rfl
  · intro j r' hj hr'
    rw [Rule.match?_eq, h.before j r' hj hr']
    rfl

theorem NoneAt.firstMatch {rules : List Rule} {c : Cursor} (h : NoneAt rules c) :
    firstMatch rules c = none := by
  apply firstMatch_eq_none
  intro id r hr
  rw [Rule.match?_eq, h r (List.mem_of_getElem? hr)]
  rfl

/-- A place that lies further on in the text lies at a later byte. -/
theorem Cursor.offset_lt_advance (c : Cursor) {k : Nat} (hpos : 0 < k)
    (hk : k ≤ c.ahead.length) : c.offset < (c.advance k).offset := by
  have hne : c.ahead.take k ≠ [] := by
    intro hnil
    have hlength := congrArg List.length hnil
    rw [List.length_take, Nat.min_eq_left hk, List.length_nil] at hlength
    omega
  have hbytes : byteSize (c.ahead.take k) ≠ 0 := fun h => hne ((byteSize_eq_zero_iff _).1 h)
  have hoffset := c.offset_advance k
  omega

namespace State

variable {st : State} {decls : List RuleDecl} {ctx : RuleContext} {c : Cursor}

/-! ## Searching -/

/-- A search that may look further ahead ends where something matches first. -/
theorem findWithin_of_first {n k : Nat} {m : RuleMatch} (hk : k ≤ n)
    (hm : st.matchAt? (c.advance k) = some m)
    (hbefore : ∀ j < k, st.matchAt? (c.advance j) = none) : st.findWithin n c = some m := by
  induction n generalizing c k with
  | zero =>
    rw [Nat.le_zero.1 hk] at hm
    exact hm
  | succ n ih =>
    rw [findWithin]
    cases k with
    | zero =>
      have hm : st.matchAt? c = some m := hm
      rw [hm]
    | succ k =>
      have hnone : st.matchAt? c = none := hbefore 0 (Nat.succ_pos k)
      rw [hnone]
      apply ih (Nat.le_of_succ_le_succ hk) hm
      intro j hj
      exact hbefore (j + 1) (Nat.succ_lt_succ hj)

/-- It finds nothing where nothing matches at all. -/
theorem findWithin_eq_none {n : Nat} (h : ∀ k ≤ n, st.matchAt? (c.advance k) = none) :
    st.findWithin n c = none := by
  induction n generalizing c with
  | zero => exact h 0 (Nat.le_refl 0)
  | succ n ih =>
    have hnone : st.matchAt? c = none := h 0 (Nat.zero_le _)
    rw [findWithin, hnone]
    apply ih
    intro k hk
    exact h (k + 1) (Nat.succ_le_succ hk)

/-- **With a rule for gaps** nothing is in the table, and the search is for all rules. -/
theorem search_of_fallback (hst : compile decls ctx = .ok st) {gap : RuleId} {r : Rule}
    (hr : st.rules[gap]? = some r) (hrole : r.role = .fallback) (c : Cursor) :
    st.unmatched = .takeGap gap ∧ st.fastMatch? c = none ∧
      st.matchAt? c = firstMatch st.rules c := by
  have hspec := compile_spec hst
  obtain ⟨⟨front, back, hdivision, hfront⟩, hone⟩ := divided_of_compile hst
  have hnil : front = [] := hfront (hspec.any_fallback (List.mem_of_getElem? hr) hrole)
  have hback : st.rules = back := by
    rw [hdivision.rules, hnil]
    rfl
  have hsearched : st.searched = st.searchingAll.searched := by
    rw [hdivision.searched, hnil, ← hback]
    rfl
  refine ⟨(hspec.unmatched_iff hone gap).2.1.2 ⟨r, hr, hrole⟩, ?_, ?_⟩
  · rw [fastMatch?, hdivision.fast, hnil]
    split <;> rfl
  · rw [← matchAt?_searchingAll, matchAt?, hsearched]
    rfl

/-! ## By hand -/

/-- **A state scans a place as one would by hand.** `gap` is its rule for what lies before
the next match. -/
structure ScansByHand (st : State) (gap : RuleId) (c : Cursor) : Prop where
  /-- A match at the place is chosen at once. -/
  here : ∀ id r found, FirstAt st.rules c id r found →
    st.choose c = some (r.matchOf id c found, none)
  /-- What lies before the next match is chosen with that match behind it, and is not
  empty. -/
  further : ∀ k ≤ c.ahead.length, 0 < k → (∀ j < k, NoneAt st.rules (c.advance j)) →
    ∀ id r found, FirstAt st.rules (c.advance k) id r found →
      c.offset < (c.advance k).offset ∧
      st.choose c = some ({ rule := gap, span := ⟨c.offset, (c.advance k).offset⟩ },
        some (r.matchOf id (c.advance k) found))
  /-- If there is none, that is the rest of the buffer. -/
  rest : (∀ k ≤ c.ahead.length, NoneAt st.rules (c.advance k)) →
    st.choose c = some ({ rule := gap, span := ⟨c.offset, c.finish⟩ }, none)

/-- **A compiled state with a rule for gaps** scans every place as one would by hand. -/
theorem scansByHand (hst : compile decls ctx = .ok st) {gap : RuleId} {r : Rule}
    (hr : st.rules[gap]? = some r) (hrole : r.role = .fallback) (c : Cursor) :
    st.ScansByHand gap c := by
  have hsearch (c : Cursor) : st.matchAt? c = firstMatch st.rules c :=
    (search_of_fallback hst hr hrole c).2.2
  obtain ⟨hgap, hfast, _⟩ := search_of_fallback hst hr hrole c
  have hstart (c : Cursor) (id : RuleId) (r : Rule) (found : Regex.Found) :
      (r.matchOf id c found).span.start = c.offset := (r.matchOf_comesNext id c found).start
  refine ⟨?_, ?_, ?_⟩
  · intro id r found hfirst
    have hfind : st.findWithin c.ahead.length c = some (r.matchOf id c found) := by
      apply findWithin_of_first (k := 0) (Nat.zero_le _)
      · rw [hsearch]
        exact hfirst.firstMatch
      · intro j hj
        exact absurd hj (Nat.not_lt_zero j)
    simp only [choose, hfast, hgap, hfind, hstart, if_true]
  · intro k hk hpos hnone id r found hfirst
    have hlt := c.offset_lt_advance hpos hk
    have hfind : st.findWithin c.ahead.length c = some (r.matchOf id (c.advance k) found) := by
      apply findWithin_of_first hk
      · rw [hsearch]
        exact hfirst.firstMatch
      · intro j hj
        rw [hsearch]
        exact (hnone j hj).firstMatch
    refine ⟨hlt, ?_⟩
    simp only [choose, hfast, hgap, hfind, hstart, Nat.ne_of_gt hlt, if_false]
  · intro hnone
    have hfind : st.findWithin c.ahead.length c = none := by
      apply findWithin_eq_none
      intro k hk
      rw [hsearch]
      exact (hnone k hk).firstMatch
    simp only [choose, hfast, hgap, hfind]

end State

end StatefulLexer
