/-
Gaps.

A state with a rule for gaps takes what lies before the next match as one token. It
had to find the match for that, and hands it out along with the gap. It could as well
be forgotten: where the gap ends, the state chooses the same match, and nothing but
that match.

The end of the buffer needs a closer look. A search may find an empty match there, and
a scanner that stands at the end searches no more. But without assertions, a rule that
matches the empty text there matches it everywhere, and then there was no gap.

Main statement: `choose_behind_gap`.
-/
import StatefulLexer.Proofs.Regex.LookFree
import StatefulLexer.Proofs.State.Division
import StatefulLexer.Proofs.State.Place

set_option autoImplicit false

namespace StatefulLexer

/-! ## States with a rule for gaps -/

namespace State

variable {st : State} {decls : List RuleDecl} {ctx : RuleContext} {c : Cursor} {m q : RuleMatch}

/-- **A state with a rule for gaps** has no table, and the rule stays in the state. -/
theorem takeGap_of_compile (h : compile decls ctx = .ok st) {id : RuleId}
    (hid : st.unmatched = .takeGap id) :
    st.fast = [] ∧ (st.rule id).transition = .stay := by
  have hspec := compile_spec h
  obtain ⟨⟨front, back, hdivision, hfront⟩, hone⟩ := divided_of_compile h
  obtain ⟨r, hr, hrole⟩ := (hspec.unmatched_iff hone id).2.1.1 hid
  refine ⟨?_, ?_⟩
  · rw [hdivision.fast, hfront (hspec.any_fallback (List.mem_of_getElem? hr) hrole)]
    rfl
  · obtain ⟨d, _, hcompile⟩ := hspec.declared r (List.mem_of_getElem? hr)
    rw [rule_of_getElem? hr]
    apply (RuleDecl.transition_of_compile hcompile).2
    apply RuleOptions.takesUnmatched_of_role
    rw [← (RuleDecl.compile_eq_ok hcompile).role, hrole]
    decide

/-! ## Matches at the end -/

/-- **The rules of the state have no assertions.** -/
def LookFree (st : State) : Prop :=
  ∀ r ∈ st.rules, ∀ p, r.pattern = some p → p.expr.hasLook = false

/-- What is searched for has no assertions either. -/
theorem LookFree.searched (hlook : st.LookFree) (h : st.Spec decls ctx) :
    ∀ q ∈ st.searched, q.2.expr.hasLook = false := by
  intro q hq
  obtain ⟨r, hr, hp⟩ := h.searched q hq
  exact hlook r (List.mem_of_getElem? hr) q.2 hp

/-- **Without assertions,** what matches at the end of a buffer is empty, and so something
matches everywhere. -/
theorem isSome_matchAt?_of_end (hlook : ∀ q ∈ st.searched, q.2.expr.hasLook = false)
    {d : Cursor} (hd : d.ahead = []) (hm : st.matchAt? d = some m) :
    (st.matchAt? c).isSome = true := by
  obtain ⟨⟨id, p⟩, hq, hmap⟩ := List.exists_of_findSome?_eq_some hm
  obtain ⟨found, hfound, _⟩ := Option.map_eq_some_iff.1 hmap
  have hwidth : found.width = 0 := by
    have hle := Regex.Expr.width_le_of_match? hfound
    rw [hd] at hle
    exact Nat.le_zero.1 hle
  have hnull := Regex.Expr.nullable_of_match? hfound hwidth
  rw [Regex.Expr.nullable_of_hasLook (hlook _ hq) _ _ c.behind.head? c.ahead.head?] at hnull
  have hsome := Regex.Expr.isSome_match?_of_nullable hnull
  rw [matchAt?, List.findSome?_isSome_iff]
  exact ⟨(id, p), hq, by rw [Option.isSome_map]; exact hsome⟩

/-! ## Behind a gap -/

/-- A search that may look further ahead finds what matches at the place. -/
theorem findWithin_of_matchAt? (h : st.matchAt? c = some m) (n : Nat) :
    st.findWithin n c = some m := by
  cases n with
  | zero => exact h
  | succ n => rw [findWithin, h]

/-- **Where a gap ends,** the buffer does not, and the state chooses the match that was
found behind the gap. The rule of the gap stays in the state. -/
theorem choose_behind_gap (hst : compile decls ctx = .ok st) (hlook : st.LookFree)
    (h : st.choose c = some (m, some q)) :
    ∃ k, m.span = ⟨c.offset, (c.advance k).offset⟩ ∧ (c.advance k).ahead ≠ [] ∧
      st.choose (c.advance k) = some (q, none) ∧ (st.rule m.rule).transition = .stay := by
  rcases choose_cases h with ⟨_, hq⟩ | ⟨_, _, hq⟩ | ⟨k, q', hgap, hfound, hbefore, hlt, hm, hq⟩
  · cases hq
  · cases hq
  · cases hq
    obtain ⟨hfast, hstay⟩ := takeGap_of_compile hst hgap
    refine ⟨k, by rw [hm], ?_, ?_, hstay⟩
    · intro hend
      -- The gap is not empty, so nothing matches where it begins.
      have hpos : 0 < k := by
        refine Nat.pos_of_ne_zero fun hk => ?_
        rw [hk] at hlt
        exact Nat.lt_irrefl _ hlt
      have hnone : st.matchAt? c = none := hbefore 0 hpos
      have hsome : (st.matchAt? c).isSome = true :=
        isSome_matchAt?_of_end (hlook.searched (compile_spec hst)) hend hfound
      rw [hnone] at hsome
      cases hsome
    · obtain ⟨_, hnext⟩ := matchAt?_comesNext hfound
      have hnofast : st.fastMatch? (c.advance k) = none := by
        rw [fastMatch?, hfast]
        split <;> rfl
      simp only [choose, hnofast, hgap, findWithin_of_matchAt? hfound, hnext.start, if_true]

end State

end StatefulLexer
