/-
The combined pattern of a state.

A state searches for several patterns at once, and can also be shown as a single pattern. The
single pattern is made by another way: every pattern is read, taken apart, written out again
without its capture groups, and joined with the others as text. What is said here is that
nothing is lost on that way. The combined pattern is read again, it has one capture group for
each pattern that is searched for, and it finds what the state finds, whether or not places
are passed over. The group that takes part is that of the rule that is found, with all of the
match, and no other group does. The patterns have to be legible for that, which they are if the
classes of the verbose matchers are.

Main statements: `State.combined_faithful`, `State.legible_of_matchers`.
-/
import StatefulLexer.Proofs.Regex.Combined
import StatefulLexer.Proofs.Rule.Union
import StatefulLexer.Proofs.State.Division

set_option autoImplicit false

namespace StatefulLexer

open Regex

/-! ## What a pattern finds in a buffer -/

/-- A match of a pattern: the bytes it takes, and those that each of its capture groups took
part with. -/
structure PatternMatch where
  span : Span
  groups : List (Nat × Span)
deriving DecidableEq

namespace Regex.Compiled

/-- What a pattern finds at a place. -/
def findAt? (p : Compiled) (c : Cursor) : Option PatternMatch :=
  (p.expr.match? c.behind c.ahead).map fun found =>
    { span := c.spanAhead 0 found.width
      groups := found.captures.map fun g => (g.index, c.spanAhead g.start g.stop) }

/-- What a pattern finds at the first place where it finds something: this one, or one of the
`n` next. -/
def findWithin (p : Compiled) : Nat → Cursor → Option PatternMatch
  | 0, c => p.findAt? c
  | n + 1, c =>
    match p.findAt? c with
    | some m => some m
    | none => p.findWithin n c.next

end Regex.Compiled

namespace State

/-! ## Groups of rules -/

/-- The number of the group that a combined pattern has for a rule: groups are numbered from
one, in the order of the patterns. -/
def groupOf (searched : List (RuleId × Compiled)) (id : RuleId) : Nat :=
  searched.findIdx (·.1 == id) + 1

/-- **The group of a pattern** is its number among the patterns. -/
theorem groupOf_getElem? {searched : List (RuleId × Compiled)}
    (hdistinct : (searched.map Prod.fst).Pairwise (· < ·)) {i : Nat} {q : RuleId × Compiled}
    (hq : searched[i]? = some q) : groupOf searched q.1 = i + 1 := by
  obtain ⟨hi, rfl⟩ := List.getElem?_eq_some_iff.1 hq
  refine congrArg (· + 1) ((List.findIdx_eq hi).2 ⟨beq_self_eq_true _, fun j hj => ?_⟩)
  have hlt := List.pairwise_iff_getElem.1 hdistinct j i (by rw [List.length_map]; omega)
    (by rwa [List.length_map]) hj
  rw [List.getElem_map, List.getElem_map] at hlt
  exact beq_false_of_ne (Nat.ne_of_lt hlt)

/-- The match of a rule as one of a combined pattern: the group of the rule takes part with all
of it. -/
def grouped (searched : List (RuleId × Compiled)) (m : RuleMatch) : PatternMatch :=
  ⟨m.span, [(groupOf searched m.rule, m.span)]⟩

/-- The numbers of groups start behind those of other patterns. -/
theorem findSome?_grouped {searched : List (RuleId × Compiled)}
    (hdistinct : (searched.map Prod.fst).Pairwise (· < ·)) (rules : RuleId → Rule) (c : Cursor)
    (n : Nat) :
    ((((searched.map Prod.snd).zipIdx n).findSome? fun (p, i) =>
          ((p.expr.match? c.behind c.ahead).map Found.width).map fun width =>
            (⟨width, [⟨i + 1, 0, width⟩]⟩ : Found)).map fun found => (PatternMatch.mk
        (c.spanAhead 0 found.width)
        (found.captures.map fun g => (g.index, c.spanAhead g.start g.stop))))
      = (searched.findSome? fun (id, p) => (p.expr.match? c.behind c.ahead).map fun found =>
          (rules id).matchOf id c found).map fun m =>
        ⟨m.span, [(n + groupOf searched m.rule, m.span)]⟩ := by
  induction searched generalizing n with
  | nil => rfl
  | cons q searched ih =>
    obtain ⟨id, p⟩ := q
    obtain ⟨hfirst, hrest⟩ := List.pairwise_cons.1 hdistinct
    rw [List.map_cons, List.zipIdx_cons, List.findSome?_cons, List.findSome?_cons]
    dsimp only
    cases hp : p.expr.match? c.behind c.ahead with
    | some found =>
      have hgroup : groupOf ((id, p) :: searched) id = 1 := by
        rw [groupOf, List.findIdx_cons, beq_self_eq_true]
        rfl
      show some (PatternMatch.mk _ [(n + 1, _)])
        = some ⟨_, [(n + groupOf ((id, p) :: searched) id, _)]⟩
      rw [hgroup]
      rfl
    | none =>
      refine (ih hrest (n + 1)).trans ?_
      -- The rule that is found further on is another one.
      refine Option.map_congr fun m hm => ?_
      obtain ⟨⟨id', p'⟩, hmem, hm⟩ := List.exists_of_findSome?_eq_some hm
      obtain ⟨found, _, rfl⟩ := Option.map_eq_some_iff.1 hm
      have hne : id ≠ id' := Nat.ne_of_lt (hfirst id' (List.mem_map_of_mem hmem))
      have hgroup : groupOf ((id, p) :: searched) id' = groupOf searched id' + 1 := by
        rw [groupOf, List.findIdx_cons, beq_false_of_ne hne]
        rfl
      show PatternMatch.mk _ [(n + 1 + groupOf searched id', _)]
        = ⟨_, [(n + groupOf ((id, p) :: searched) id', _)]⟩
      rw [hgroup, Nat.add_assoc, Nat.add_comm 1]

/-! ## The combined pattern -/

/-- Patterns that are searched for were read from the matchers of a rule. -/
theorem Spec.patternOf_of_patterns {st : State} {decls : List RuleDecl} {ctx : RuleContext}
    (h : st.Spec decls ctx) : ∀ p ∈ st.patterns,
      ∃ d ∈ decls, d.options.matchers ≠ [] ∧ patternOf d.options.matchers = .ok p := by
  intro p hp
  obtain ⟨q, hq, rfl⟩ := List.mem_map.1 hp
  obtain ⟨r, hr, hpattern⟩ := h.searched q hq
  obtain ⟨d, hmem, hd⟩ := h.declared r (List.mem_of_getElem? hr)
  obtain ⟨hne, hread, _⟩ := RuleDecl.patternOf_of_compile hd hpattern
  exact ⟨d, hmem, hne, hread⟩

/-- **The patterns of a state are legible** if the verbose matchers of its rules are. -/
theorem legible_of_matchers {decls : List RuleDecl} {ctx : RuleContext} {st : State}
    (h : compile decls ctx = .ok st)
    (hlegible : ∀ d ∈ decls, ∀ m ∈ d.options.matchers, m.isVerbose = true → m.IsLegible) :
    ∀ p ∈ st.patterns, p.tree.legible false = true := by
  intro p hp
  obtain ⟨d, hd, hne, hread⟩ := (compile_spec h).patternOf_of_patterns p hp
  exact Matcher.legible_of_patternOf hne (hlegible d hd) hread

/-- What is found at a place is found at the first one of several. -/
theorem findWithin_grouped {st : State} {combined : Compiled}
    (h : ∀ c, combined.findAt? c = (st.matchAt? c).map (grouped st.searched)) (n : Nat)
    (c : Cursor) :
    combined.findWithin n c = (st.findWithin n c).map (grouped st.searched) := by
  induction n generalizing c with
  | zero => exact h c
  | succ n ih =>
    rw [Compiled.findWithin, findWithin, h c, ih]
    cases st.matchAt? c <;> rfl

/-- **The combined pattern says what a state searches for.** The patterns of a state are taken
to be legible where they are verbose, and not nested so deep that there is no room for four more
levels.

Without its capture groups a pattern has no group that captures, is read again, and finds
matches of the same width if it flattens well. The combined pattern is read, has one capture
group for each pattern, in their order, and if they flatten well it finds what the state finds,
at a place and at the first of several; the group of the rule takes part with all of it, and
no other group takes part. -/
theorem combined_faithful {decls : List RuleDecl} {ctx : RuleContext} {st : State}
    (h : compile decls ctx = .ok st) (hne : st.searched ≠ [])
    (hlegible : ∀ p ∈ st.patterns, p.tree.isVerbose = true → p.tree.legible false = true)
    (hroom : ∀ p ∈ st.patterns, p.tree.height + 4 ≤ nestingLimit) :
    (∀ p ∈ st.patterns, p.tree.withoutCaptures.groupCount = 0 ∧
      ∃ flat, Compiled.ofText p.tree.withoutCaptures.render = .ok flat ∧
        flat.expr.captureCount = 0 ∧
        (p.tree.flattensWell {} = true → ∀ behind ahead,
          (flat.expr.match? behind ahead).map Found.width
            = (p.expr.match? behind ahead).map Found.width)) ∧
    ∃ combined, Compiled.ofText st.combinedPattern.toList = .ok combined ∧
      combined.tree.groupCount = st.searched.length ∧
      combined.expr.captureCount = st.searched.length ∧
      (∀ (i : Nat) (q : RuleId × Compiled), st.searched[i]? = some q →
        groupOf st.searched q.1 = i + 1) ∧
      ((∀ p ∈ st.patterns, p.tree.flattensWell {} = true) →
        (∀ c, combined.findAt? c = (st.matchAt? c).map (grouped st.searched)) ∧
        ∀ n c, combined.findWithin n c = (st.findWithin n c).map (grouped st.searched)) := by
  have hread : ∀ p ∈ st.patterns, p.IsLegible := by
    intro p hp
    obtain ⟨d, _, _, hread⟩ := (compile_spec h).patternOf_of_patterns p hp
    obtain ⟨texts, _, htext⟩ := bind_eq_ok.1 hread
    exact .of_ofText (mapError_eq_ok.1 htext) (hlegible p hp)
  have hne' : st.patterns ≠ [] := List.map_eq_nil_iff.not.2 hne
  have hdistinct : (st.searched.map Prod.fst).Pairwise (· < ·) := by
    obtain ⟨front, back, hdivision, _⟩ := (divided_of_compile h).1
    rw [hdivision.searched]
    exact pairwise_patternsFrom _ _
  refine ⟨fun p hp => ⟨p.tree.groupCount_withoutCaptures, ?_⟩, ?_⟩
  · exact Compiled.exists_ofText_withoutCaptures (hread p hp)
      (Nat.le_trans (Nat.le_add_right _ 4) (hroom p hp))
  · obtain ⟨combined, gs, hcombined, hcount, hgs, hexpr⟩ :=
      Compiled.ofText_combinedText hne' hread hroom
    have hlength : st.patterns.length = st.searched.length := List.length_map _
    have hgs_ne : gs ≠ [] := by
      rintro rfl
      exact hne' (List.forall₂_nil_right_iff.1 hgs)
    refine ⟨combined, ?_, hcount.trans hlength, ?_, fun i q => groupOf_getElem? hdistinct,
      fun hwell => ?_⟩
    · rw [combinedPattern, String.toList_ofList]
      exact hcombined
    · rw [hexpr, Expr.captureCount_unionOf_inCaptures hgs_ne (Compiled.forall_renumber hgs),
        ← hgs.length_eq, hlength]
    · have hat : ∀ c, combined.findAt? c = (st.matchAt? c).map (grouped st.searched) := by
        intro c
        rw [Compiled.findAt?, hexpr, Compiled.match?_combined hne' hgs hwell]
        refine (findSome?_grouped hdistinct st.rule c 0).trans ?_
        refine Option.map_congr fun m _ => ?_
        rw [Nat.zero_add]
        rfl
      exact ⟨hat, findWithin_grouped hat⟩

/-- Texts in quotes, words, and numbers. Of a word the last letter is captured; the pattern of the
numbers has a comment. -/
def quoted : List RuleDecl :=
  [⟨"text", { matchers := [.regex "\"([^\"\\n]*)\""] }⟩,
    ⟨"word", { matchers := [.regex "([a-z])+|_", .literal "it"] }⟩,
    ⟨"number", { matchers := [.regex "(?x)[0-9]+ # decimal"] }⟩]

/-- The three rules have the three groups of the combined pattern. -/
theorem combined_faithful_quoted :
    ∃ st combined, compile quoted ⟨"start", ["start"]⟩ = .ok st ∧
      Compiled.ofText st.combinedPattern.toList = .ok combined ∧
      combined.expr.captureCount = 3 ∧
      ∀ c, combined.findAt? c = (st.matchAt? c).map (grouped st.searched) := by
  have hfacts : (compile quoted ⟨"start", ["start"]⟩).toOption.map (fun st =>
      (st.searched.length, st.patterns.all fun p =>
        decide (p.tree.height + 4 ≤ nestingLimit) && p.tree.flattensWell {}))
      = some (3, true) := by cbv
  obtain ⟨st, hst, hfacts⟩ := exists_ok_of_map hfacts
  rw [Prod.mk.injEq] at hfacts
  obtain ⟨hlength, hpatterns⟩ := hfacts
  have hpatterns : ∀ p ∈ st.patterns,
      p.tree.height + 4 ≤ nestingLimit ∧ p.tree.flattensWell {} = true := by
    intro p hp
    have hall := List.all_eq_true.1 hpatterns p hp
    rwa [Bool.and_eq_true, decide_eq_true_iff] at hall
  have hlegible : ∀ p ∈ st.patterns, p.tree.legible false = true := by
    have hclasses : (quoted.all fun d => d.options.matchers.all (·.hasLegibleClasses)) = true := by
      cbv
    refine legible_of_matchers hst fun d hd m hm _ => Matcher.isLegible_of_classes ?_
    exact List.all_eq_true.1 (List.all_eq_true.1 hclasses d hd) m hm
  have hne : st.searched ≠ [] := by
    intro hnil
    rw [hnil] at hlength
    cases hlength
  obtain ⟨_, combined, hcombined, _, hcount, _, hfinds⟩ := combined_faithful hst hne
    (fun p hp _ => hlegible p hp) fun p hp => (hpatterns p hp).1
  exact ⟨st, combined, hst, hcombined, hcount.trans hlength,
    (hfinds fun p hp => (hpatterns p hp).2).1⟩

/-- A rule whose first pattern is captured, and may begin like the second. -/
def capturedFirst : List RuleDecl := [⟨"t", { matchers := [.regex "(a?abx?)", .regex "a?b"] }⟩]

/-- **A pattern that does not flatten well.** With its capture group the first branch has no
beginning in common with the second one, and the state finds all of `abx`; without it the
beginning is drawn out, and the combined pattern finds less. -/
theorem combined_cut_short :
    ∃ st combined, compile capturedFirst ⟨"start", ["start"]⟩ = .ok st ∧
      Compiled.ofText st.combinedPattern.toList = .ok combined ∧
      (st.matchAt? (Cursor.start "abx".toList)).map RuleMatch.span = some ⟨0, 3⟩ ∧
      (combined.findAt? (Cursor.start "abx".toList)).map PatternMatch.span = some ⟨0, 2⟩ := by
  have hfacts : ((compile capturedFirst ⟨"start", ["start"]⟩).toOption.bind fun st =>
      (Compiled.ofText st.combinedPattern.toList).toOption.map fun combined =>
        ((st.matchAt? (Cursor.start "abx".toList)).map RuleMatch.span,
          (combined.findAt? (Cursor.start "abx".toList)).map PatternMatch.span))
      = some (some ⟨0, 3⟩, some ⟨0, 2⟩) := by cbv
  obtain ⟨st, hst, h⟩ := exists_ok_of_bind hfacts
  obtain ⟨combined, hcombined, h⟩ := exists_ok_of_map h
  rw [Prod.mk.injEq] at h
  exact ⟨st, combined, hst, hcombined, h⟩

end State

end StatefulLexer
