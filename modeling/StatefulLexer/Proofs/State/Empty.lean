/-
Empty matches of a state.

A state finds matches of its rules, at a place or, if it has a rule for gaps, further
ahead. Both are matches of a checked pattern at some place, so what is known of an
empty match of a rule is known of every empty match that is found.

Main statements: `empty_match_of_compile`, `Spec.choose_span_lt`.
-/
import StatefulLexer.Proofs.Evaluated
import StatefulLexer.Proofs.Rule.Empty
import StatefulLexer.Proofs.State.Assemble

set_option autoImplicit false

namespace StatefulLexer.State

/-! ## What is found -/

section

variable {st : State} {decls : List RuleDecl} {ctx : RuleContext} {c : Cursor} {m : RuleMatch}

/-- **An empty match that is found,** at a place or further ahead, is of a rule that can
match the empty text there, and its least length is not known. -/
theorem Spec.leastLength_of_empty (h : st.Spec decls ctx)
    (hm : st.matchAt? c = some m ∨ ∃ n, st.findWithin n c = some m)
    (hempty : m.span.stop ≤ m.span.start) :
    ∃ (r : Rule) (p : Regex.Compiled), st.rules[m.rule]? = some r ∧ r.pattern = some p ∧
      ¬p.expr.NeverEmpty ∧ p.expr.leastLength = none := by
  -- What is found further ahead is found at the place that lies there.
  obtain ⟨c, hm⟩ : ∃ c, st.matchAt? c = some m := by
    rcases hm with hm | ⟨n, hm⟩
    · exact ⟨c, hm⟩
    · obtain ⟨k, _, hk, _⟩ := findWithin_eq_some hm
      exact ⟨_, hk⟩
  obtain ⟨r, p, found, hr, hp, hfound, heq⟩ := h.exists_of_matchAt? hm
  obtain ⟨d, _, hcompile⟩ := h.declared r (List.mem_of_getElem? hr)
  have hwidth : found.width = 0 := by
    have hlt := r.matchOf_span_lt_iff m.rule hfound
    rw [← heq] at hlt
    omega
  refine ⟨r, p, hr, hp, ?_, ?_⟩
  · intro hne
    exact hne _ _ found hfound hwidth
  · exact (RuleDecl.checked_of_compile hcompile hp).leastLength_of_nullable
      (Regex.Expr.nullable_of_match? hfound hwidth)

/-! ## What is chosen -/

/-- What is searched for is not empty if no rule matches the empty text. -/
theorem Spec.matchAt?_span_lt (h : st.Spec decls ctx)
    (hrules : ∀ r ∈ st.rules, ∀ p, r.pattern = some p → p.expr.NeverEmpty)
    (hm : st.matchAt? c = some m) : m.span.start < m.span.stop := by
  obtain ⟨r, p, found, hr, hp, hfound, heq⟩ := h.exists_of_matchAt? hm
  rw [heq, r.matchOf_span_lt_iff m.rule hfound]
  exact hrules r (List.mem_of_getElem? hr) p hp c.behind c.ahead found hfound

/-- **What is chosen is not empty** if no rule matches the empty text: neither a match, nor
what is taken as unmatched input, nor the match behind a gap. -/
theorem Spec.choose_span_lt (h : st.Spec decls ctx)
    (hrules : ∀ r ∈ st.rules, ∀ p, r.pattern = some p → p.expr.NeverEmpty)
    (hc : c.ahead ≠ []) {queued : Option RuleMatch} (hchoose : st.choose c = some (m, queued)) :
    m.span.start < m.span.stop ∧ ∀ q ∈ queued, q.span.start < q.span.stop := by
  rcases choose_cases hchoose with ⟨hm, rfl⟩ | ⟨_, hm, rfl⟩ | ⟨k, q, _, hq, _, hlt, hm, rfl⟩
  · refine ⟨?_, fun q hq => by cases hq⟩
    rcases hm with hm | hm
    · obtain ⟨x, rest, hahead⟩ := List.exists_cons_of_ne_nil hc
      rw [fastMatch?, hahead] at hm
      obtain ⟨_, _, rfl⟩ := Option.map_eq_some_iff.1 hm
      have hsize := x.utf8Size_pos
      simp only [Cursor.spanAhead, hahead, List.take_zero, List.take_succ_cons, byteSize_nil,
        byteSize_cons]
      omega
    · exact h.matchAt?_span_lt hrules hm
  · have hsize : byteSize c.ahead ≠ 0 := fun h => hc ((byteSize_eq_zero_iff c.ahead).1 h)
    rw [hm, Cursor.finish]
    refine ⟨?_, fun q hq => by cases hq⟩
    show c.offset < c.offset + byteSize c.ahead
    omega
  · rw [hm]
    refine ⟨hlt, ?_⟩
    rintro q' ⟨⟩
    exact h.matchAt?_span_lt hrules hq

end

/-! ## Rules that passed the check -/

/-- **What the check of empty matches gives, and what it does not.** An empty match of a
compiled rule has a least length that is not known, and is read off the expression and
the characters around the place. At the end of a text that reading is exact. So without
assertions no match is empty exactly if the reading is false, which it is for a rule that
declares no line breaks. Nor does any state that has the rule find an empty match of it,
at a place or further ahead, unless it is of that kind. -/
theorem empty_match_of_compile {d : RuleDecl} {ctx : RuleContext} {r : Rule}
    (h : d.compile ctx = .ok r) {p : Regex.Compiled} (hp : r.pattern = some p) :
    (∀ (behind ahead : List Char) (found : Regex.Found),
      p.expr.match? behind ahead = some found → ahead.take found.width = [] →
      p.expr.leastLength = none ∧ p.expr.nullable behind.head? ahead.head? = true) ∧
    (∀ behind : List Char,
      (p.expr.match? behind []).isSome = p.expr.nullable behind.head? none) ∧
    (p.expr.hasLook = false →
      (p.expr.NeverEmpty ↔ p.expr.nullable none none = false) ∧
      (r.lineBreaks = false → p.expr.NeverEmpty)) ∧
    (∀ (decls : List RuleDecl) (ctx' : RuleContext) (st : State) (c : Cursor) (m : RuleMatch),
      compile decls ctx' = .ok st → st.rules[m.rule]? = some r →
      (st.matchAt? c = some m ∨ ∃ n, st.findWithin n c = some m) → m.span.stop ≤ m.span.start →
      ¬p.expr.NeverEmpty ∧ p.expr.leastLength = none) := by
  have hchecked := RuleDecl.checked_of_compile h hp
  refine ⟨?_, Regex.Expr.isSome_match?_end, ?_, ?_⟩
  · intro behind ahead found hfound hempty
    have hnull := Regex.Expr.nullable_of_match? hfound
      ((Regex.Expr.take_width_eq_nil_iff hfound).1 hempty)
    exact ⟨hchecked.leastLength_of_nullable hnull, hnull⟩
  · intro hlook
    exact ⟨Regex.Expr.neverEmpty_iff_of_hasLook hlook,
      fun hlines => hchecked.neverEmpty_of_hasLook hlines hlook⟩
  · intro decls ctx' st c m hst hr hm hempty
    obtain ⟨r', p', hr', hp', hfacts⟩ := (compile_spec hst).leastLength_of_empty hm hempty
    rw [hr] at hr'
    rw [← Option.some.inj hr', hp] at hp'
    rw [Option.some.inj hp']
    exact hfacts

/-- Names, which declare no line breaks. -/
def nameDecl : RuleDecl := ⟨"name", { matchers := [.regex "[a-z][a-z0-9]*"] }⟩

/-- No name is empty. -/
theorem empty_match_of_compile_name :
    ∃ r p, nameDecl.compile ⟨"start", ["start"]⟩ = .ok r ∧ r.pattern = some p ∧
      p.expr.NeverEmpty := by
  have hfacts : (nameDecl.compile ⟨"start", ["start"]⟩).toOption.map (fun r =>
      (r.lineBreaks, r.pattern.any fun p => !p.expr.hasLook)) = some (false, true) := by cbv
  obtain ⟨r, hr, hfacts⟩ := exists_ok_of_map hfacts
  rw [Prod.mk.injEq] at hfacts
  obtain ⟨hlines, hpattern⟩ := hfacts
  obtain ⟨p, hp, hlook⟩ := (Option.any_eq_true _ _).1 hpattern
  rw [Bool.not_eq_true'] at hlook
  exact ⟨r, p, hr, hp, ((empty_match_of_compile hr hp).2.2.1 hlook).2 hlines⟩

/-- A part that never matches, and may be left out. -/
def nothingDecl : RuleDecl :=
  ⟨"nothing", { matchers := [.regex "[a&&b]*"], lineBreaks := true }⟩

/-- The rule is compiled and matches the empty text, where it is asked for and in a search
further ahead. -/
theorem nothing_matches_empty :
    ∃ st r p, compile [nothingDecl, ⟨"rest", { fallback := true }⟩] ⟨"start", ["start"]⟩ = .ok st ∧
      nothingDecl.compile ⟨"start", ["start"]⟩ = .ok r ∧ r.pattern = some p ∧
      p.expr.leastLength = none ∧ p.expr.match? [] ['c'] = some ⟨0, []⟩ ∧
      st.findWithin 1 (Cursor.start ['c']) = some { rule := 0, span := ⟨0, 0⟩ } ∧
      ¬p.expr.NeverEmpty := by
  have hstate : (compile [nothingDecl, ⟨"rest", { fallback := true }⟩]
      ⟨"start", ["start"]⟩).toOption.map (fun st => st.findWithin 1 (Cursor.start ['c']))
        = some (some { rule := 0, span := ⟨0, 0⟩ }) := by cbv
  have hrule : (nothingDecl.compile ⟨"start", ["start"]⟩).toOption.map (fun r =>
      r.pattern.map fun p => (p.expr.leastLength, p.expr.match? [] ['c']))
        = some (some (none, some ⟨0, []⟩)) := by cbv
  obtain ⟨st, hst, hfind⟩ := exists_ok_of_map hstate
  obtain ⟨r, hr, hpattern⟩ := exists_ok_of_map hrule
  obtain ⟨p, hp, hfacts⟩ := Option.map_eq_some_iff.1 hpattern
  rw [Prod.mk.injEq] at hfacts
  obtain ⟨hlength, hmatch⟩ := hfacts
  refine ⟨st, r, p, hst, hr, hp, hlength, hmatch, hfind, ?_⟩
  intro hne
  exact hne [] ['c'] _ hmatch rfl

end StatefulLexer.State
