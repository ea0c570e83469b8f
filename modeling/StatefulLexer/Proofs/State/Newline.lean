/-
States whose rules count their newlines.

Whatever a state chooses is a match of one of its rules, or unmatched input for
the rule it has for that. A rule for unmatched input declares line breaks, asked
or not. So if the rules count their newlines, what is chosen does.

Main statement: `State.choose_counts`.
-/
import StatefulLexer.Proofs.Rule.Newline
import StatefulLexer.Proofs.State.Assemble

set_option autoImplicit false

namespace StatefulLexer.State

/-- A match at a place of the buffer holds newlines only if its rule declares line
breaks. -/
def Counts (s : State) (c : Cursor) (m : RuleMatch) : Prop :=
  '\n' ∈ c.slice m.span → (s.rule m.rule).lineBreaks = true

/-- That is for the buffer to say, and not for the place in it. -/
theorem Counts.of_text {s : State} {c d : Cursor} {m : RuleMatch} (h : s.Counts c m)
    (htext : d.text = c.text) : s.Counts d m := by
  unfold Counts at h ⊢
  rw [Cursor.slice_eq, htext, ← Cursor.slice_eq]
  exact h

namespace Spec

variable {st : State} {decls : List RuleDecl} {ctx : RuleContext} {c : Cursor} {m : RuleMatch}

/-- What is searched for counts its newlines. -/
theorem matchAt?_counts (h : st.Spec decls ctx) (hrules : ∀ r ∈ st.rules, r.CountsNewlines)
    (hm : st.matchAt? c = some m) : st.Counts c m := by
  intro hnl
  obtain ⟨r, p, found, hr, hp, hfound, heq⟩ := h.exists_of_matchAt? hm
  have hmatch : r.match? m.rule c = some m := by
    rw [Rule.match?, hp, Option.bind_some, hfound]
    exact congrArg some heq.symm
  rw [rule_of_getElem? hr]
  exact Rule.match?_counts (hrules r (List.mem_of_getElem? hr)) hmatch hnl

/-- What the next character decides counts its newlines. -/
theorem fastMatch?_counts (h : st.Spec decls ctx) (hrules : ∀ r ∈ st.rules, r.CountsNewlines)
    (hm : st.fastMatch? c = some m) : st.Counts c m := by
  intro hnl
  have hc : c.ahead ≠ [] := by
    intro hnil
    rw [fastMatch?, hnil] at hm
    cases hm
  -- The table gives the first rule that matches, so there is a match of a rule.
  have hfirst := h.first c hc
  rw [hm, Option.some_or] at hfirst
  obtain ⟨⟨r, id⟩, hr, hmatch⟩ := List.exists_of_findSome?_eq_some hfirst.symm
  have hget := List.mem_zipIdx_iff_getElem?.1 hr
  have hid : m.rule = id := by
    obtain ⟨_, _, hmatch⟩ := Option.bind_eq_some_iff.1 hmatch
    obtain ⟨_, _, rfl⟩ := Option.map_eq_some_iff.1 hmatch
    rfl
  rw [hid, rule_of_getElem? hget]
  exact Rule.match?_counts (hrules r (List.mem_of_getElem? hget)) hmatch hnl

/-- The rule for unmatched input declares line breaks. -/
theorem lineBreaks_of_unmatched (h : st.Spec decls ctx) {id : RuleId}
    (hid : st.unmatched = .takeRest id ∨ st.unmatched = .takeGap id) :
    (st.rule id).lineBreaks = true := by
  obtain ⟨d, hcompile, hrole⟩ :
      ∃ d, RuleDecl.compile d ctx = .ok (st.rule id) ∧ d.options.role ≠ .ordinary := by
    rcases hid with hid | hid
    · obtain ⟨d, _, hcompile, hrole⟩ := (h.declared_of_unmatched id).1 hid
      exact ⟨d, hcompile, by rw [hrole]; decide⟩
    · obtain ⟨d, _, hcompile, hrole⟩ := (h.declared_of_unmatched id).2 hid
      exact ⟨d, hcompile, by rw [hrole]; decide⟩
  rw [(RuleDecl.compile_eq_ok hcompile).lineBreaks, RuleOptions.takesUnmatched_of_role hrole,
    Bool.or_true]

/-- **What is chosen counts its newlines,** and so does what was found behind it. -/
theorem choose_counts (h : st.Spec decls ctx) (hrules : ∀ r ∈ st.rules, r.CountsNewlines)
    {queued : Option RuleMatch} (hchoose : st.choose c = some (m, queued)) :
    st.Counts c m ∧ ∀ q ∈ queued, st.Counts c q := by
  rcases choose_cases hchoose with ⟨hm, rfl⟩ | ⟨hunmatched, _, rfl⟩ |
    ⟨k, q, hunmatched, hq, _, _, _, rfl⟩
  · refine ⟨?_, fun q hq => by cases hq⟩
    exact hm.elim (h.fastMatch?_counts hrules) (h.matchAt?_counts hrules)
  · exact ⟨fun _ => h.lineBreaks_of_unmatched hunmatched, fun q hq => by cases hq⟩
  · refine ⟨fun _ => h.lineBreaks_of_unmatched (.inr hunmatched), ?_⟩
    rintro q' ⟨⟩
    exact (h.matchAt?_counts hrules hq).of_text (c.text_advance k).symm

end Spec

end StatefulLexer.State
