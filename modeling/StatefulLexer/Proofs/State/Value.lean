/-
What the value of a token is made from.

A rule whose pattern has one capture group makes the value from what that group captured. This
takes two searches: a first one for all patterns of the state, which finds the rule and the
match, and a second one at the same place, for the pattern of that rule alone, which finds the
captures. What is said here is that the second search finds the match that the first one found,
and where the value then comes from.

The groups of a pattern are counted after it was simplified, but the value is read from the
group with the number one, which is the first one written. These are the same group unless the
first one was repeated zero times, and thereby left out. In that case the pattern has a group
for its value, and the value is never read from it.

Main statement: `State.value_captured`.
-/
import StatefulLexer.Proofs.Evaluated
import StatefulLexer.Proofs.Regex.Groups
import StatefulLexer.Proofs.Regex.Together
import StatefulLexer.Proofs.State.Measured
import StatefulLexer.Scanner

set_option autoImplicit false

namespace StatefulLexer

open Regex

/-! ## Two searches -/

namespace State

/-- **The first search** at a place, for all patterns together: the number of the one that is
found, and the width of its match. -/
def firstSearch? (st : State) (c : Cursor) : Option (Nat × Nat) :=
  findTogether? (st.patterns.map Compiled.expr) c.behind c.ahead

/-- **What a state finds** from a place on. With a rule for gaps, that is the match at the first
place where there is one; otherwise it is the match at the place. -/
def findAt? (st : State) (c : Cursor) : Option RuleMatch :=
  match st.unmatched with
  | .takeGap _ => st.findWithin c.ahead.length c
  | _ => st.matchAt? c

/-- **A match is found twice** at a place: by the first search, as that of the pattern of its
rule, and by a second one for that pattern alone. -/
structure FindsTwice (st : State) (c : Cursor) (m : RuleMatch) (r : Rule) (p : Compiled)
    (found : Found) : Prop where
  rule : st.rules[m.rule]? = some r
  pattern : r.pattern = some p
  first : ∃ number, st.searched[number]? = some (m.rule, p) ∧
    st.firstSearch? c = some (number, found.width)
  second : p.expr.match? c.behind c.ahead = some found
  span : m.span = c.spanAhead 0 found.width

/-- What is found by a pattern of a state: its rule, its number among the patterns, and the
match. -/
structure Hit where
  rule : RuleId
  pattern : Compiled
  number : Nat
  found : Found

/-- What the patterns of a state find one after the other. -/
def hit? (st : State) (c : Cursor) : Option Hit :=
  st.searched.zipIdx.findSome? fun ((id, p), number) =>
    (p.expr.match? c.behind c.ahead).map fun found => ⟨id, p, number, found⟩

/-- **The first search** finds what the patterns find one after the other. -/
theorem firstSearch?_eq (st : State) (c : Cursor) :
    st.firstSearch? c = (st.hit? c).map fun h => (h.number, h.found.width) := by
  rw [firstSearch?, findTogether?_eq, patterns, List.map_map, List.zipIdx_map, List.findSome?_map,
    hit?, List.map_findSome?]
  refine congrArg (List.findSome? · _) (funext fun q => ?_)
  obtain ⟨⟨id, p⟩, number⟩ := q
  dsimp only [Function.comp_apply, Prod.map]
  rw [Option.map_map]
  rfl

/-- A state makes a match of that. -/
theorem matchAt?_eq (st : State) (c : Cursor) :
    st.matchAt? c = (st.hit? c).map fun h => (st.rule h.rule).matchOf h.rule c h.found := by
  conv_lhs => rw [matchAt?, ← List.zipIdx_map_fst 0 st.searched]
  rw [List.findSome?_map, hit?, List.map_findSome?]
  refine congrArg (List.findSome? · _) (funext fun q => ?_)
  obtain ⟨⟨id, p⟩, number⟩ := q
  dsimp only [Function.comp_apply]
  rw [Option.map_map]
  rfl

/-- Where there is no match the first search finds nothing. -/
theorem firstSearch?_of_matchAt? {st : State} {c : Cursor} (h : st.matchAt? c = none) :
    st.firstSearch? c = none := by
  rw [matchAt?_eq, Option.map_eq_none_iff] at h
  rw [firstSearch?_eq, h, Option.map_none]

/-- **Each match is found twice,** and its rule makes it of the second one. -/
theorem Spec.findsTwice {st : State} {decls : List RuleDecl} {ctx : RuleContext}
    (h : st.Spec decls ctx) {c : Cursor} {m : RuleMatch} (hm : st.matchAt? c = some m) :
    ∃ r p found, st.FindsTwice c m r p found ∧ m = r.matchOf m.rule c found := by
  rw [matchAt?_eq] at hm
  obtain ⟨hit, hhit, rfl⟩ := Option.map_eq_some_iff.1 hm
  have hfirst : st.firstSearch? c = some (hit.number, hit.found.width) := by
    rw [firstSearch?_eq, hhit, Option.map_some]
  obtain ⟨⟨⟨id, p⟩, number⟩, hmem, hmade⟩ := List.exists_of_findSome?_eq_some hhit
  obtain ⟨found, hfound, rfl⟩ := Option.map_eq_some_iff.1 hmade
  have hsearched : st.searched[number]? = some (id, p) := List.mem_zipIdx_iff_getElem?.1 hmem
  obtain ⟨r, hr, hp⟩ := h.searched (id, p) (List.mem_of_getElem? hsearched)
  refine ⟨r, p, found, ⟨hr, hp, ⟨number, hsearched, hfirst⟩, hfound, rfl⟩, ?_⟩
  dsimp only
  rw [rule_of_getElem? hr]
  rfl

/-- The first search, place by place, finds what the state finds. -/
theorem Spec.findsTwice_of_findAt? {st : State} {decls : List RuleDecl} {ctx : RuleContext}
    (h : st.Spec decls ctx) {c : Cursor} {m : RuleMatch} (hm : st.findAt? c = some m) :
    ∃ k r p found, k ≤ c.ahead.length ∧ (k = 0 ∨ ∃ id, st.unmatched = .takeGap id) ∧
      (∀ j < k, st.firstSearch? (c.advance j) = none) ∧
      st.FindsTwice (c.advance k) m r p found ∧ m = r.matchOf m.rule (c.advance k) found := by
  unfold findAt? at hm
  split at hm
  · rename_i id hgaps
    obtain ⟨k, hk, hm, hbefore⟩ := findWithin_eq_some hm
    obtain ⟨r, p, found, hfinds, hvalue⟩ := h.findsTwice hm
    exact ⟨k, r, p, found, hk, .inr ⟨id, hgaps⟩,
      fun j hj => firstSearch?_of_matchAt? (hbefore j hj), hfinds, hvalue⟩
  · obtain ⟨r, p, found, hfinds, hvalue⟩ := h.findsTwice hm
    exact ⟨0, r, p, found, Nat.zero_le _, .inl rfl, nofun, hfinds, hvalue⟩

end State

/-! ## Values -/

/-- The value that a rule makes from a text. -/
def Rule.valueOf (r : Rule) (text : List Char) : String :=
  (r.value.map (· (String.ofList text))).getD (String.ofList text)

/-- The text that a capture took part with, or else all that was matched. -/
def captureOr (ahead : List Char) (width : Nat) (g : Option Capture) : List Char :=
  (g.map fun g => (ahead.take g.stop).drop g.start).getD (ahead.take width)

/-- **The value of a match comes from a capture,** or from all that is matched: so it is with
the value of the match, and with that of the token which any scanner makes of it, over the
buffer or more. -/
structure State.ValueFrom (st : State) (c : Cursor) (m : RuleMatch) (r : Rule) (width : Nat)
    (g : Option Capture) : Prop where
  value : m.value = g.map fun g => c.spanAhead g.start g.stop
  token : ∀ (s : Scanner) (id : StateId) (more : List Char), s.table.state id = st →
    s.buffer = c.text ++ more →
    (s.tokenOf id m).value = r.valueOf (captureOr c.ahead width g)

/-- **The text of a span** in a buffer that has grown since. -/
theorem Cursor.slice_spanAhead {c d : Cursor} {more : List Char} (hd : d.text = c.text ++ more)
    {start stop : Nat} (hle : start ≤ stop) (hstop : stop ≤ c.ahead.length) :
    d.slice (c.spanAhead start stop) = (c.ahead.take stop).drop start := by
  have hfed : (c.feed more).text = d.text := by rw [Cursor.text_feed, hd]
  have hslice := (c.feed more).slice?_spanAhead hle
  rw [c.spanAhead_feed more (Nat.le_trans hle hstop) hstop, hfed] at hslice
  rw [Cursor.slice_eq, Span.slice_of_slice? hslice, Cursor.feed,
    List.take_append_of_le_length hstop]

namespace State.FindsTwice

variable {st : State} {c : Cursor} {m : RuleMatch} {r : Rule} {p : Compiled} {found : Found}

/-- The token of a match takes its value from where the match does. -/
theorem valueFrom (h : st.FindsTwice c m r p found) {g : Option Capture}
    (hg : ∀ x ∈ g, x ∈ found.captures)
    (hvalue : m.value = g.map fun x => c.spanAhead x.start x.stop) :
    st.ValueFrom c m r found.width g := by
  refine ⟨hvalue, ?_⟩
  intro s id more hst hbuffer
  have hrule : s.ruleOf id m = r := by
    rw [Scanner.ruleOf, hst, rule_of_getElem? h.rule]
  have hwidth : found.width ≤ c.ahead.length := Expr.width_le_of_match? h.second
  have hsource : ((m.value.map fun span => String.ofList (s.cursor.slice span)).getD
      (String.ofList (s.cursor.slice m.span))) = String.ofList (captureOr c.ahead found.width g) := by
    rw [hvalue, captureOr]
    cases g with
    | none =>
      rw [Option.map_none, Option.map_none, Option.map_none, Option.getD_none, Option.getD_none,
        h.span, Cursor.slice_spanAhead hbuffer (Nat.zero_le _) hwidth, List.drop_zero]
    | some x =>
      obtain ⟨hle, hstop⟩ := Expr.captures_of_match? h.second x (hg x rfl)
      rw [Option.map_some, Option.map_some, Option.map_some, Option.getD_some, Option.getD_some,
        Cursor.slice_spanAhead hbuffer hle (Nat.le_trans hstop hwidth)]
  rw [Scanner.tokenOf, hrule]
  dsimp only
  rw [hsource, Rule.valueOf]

/-- **What is captured** is captured by the one group that the pattern has. -/
theorem captures_of_kept (h : st.FindsTwice c m r p found) (hgroups : p.expr.groups = p.tree.kept)
    (hone : p.tree.kept.length ≤ 1) : ∀ x ∈ found.captures,
      found.captures = [x] ∧ p.tree.kept = [x.index] := by
  intro x hx
  match hkept : p.tree.kept with
  | [] =>
    rw [Expr.captures_of_groups_eq_nil (hgroups.trans hkept) h.second] at hx
    cases hx
  | [g] =>
    rcases Expr.captures_of_groups_eq_singleton (hgroups.trans hkept) h.second with
      hnone | ⟨start, stop, hcaptures⟩
    · rw [hnone] at hx
      cases hx
    · rw [hcaptures] at hx ⊢
      rw [List.mem_singleton.1 hx]
      exact ⟨rfl, rfl⟩
  | _ :: _ :: _ =>
    rw [hkept] at hone
    exact absurd hone (by simp)

/-- **The value is read from the group with the number one:** from what it captured, if it is
the group of the pattern, and otherwise not at all. -/
theorem value_eq (hm : m = r.matchOf m.rule c found)
    (hgroup : r.hasValueGroup = true ↔ ∃ g, p.tree.kept = [g])
    (hcaptures : ∀ x ∈ found.captures, found.captures = [x] ∧ p.tree.kept = [x.index]) :
    (p.tree.kept ⊆ [1] →
      m.value = found.captures.head?.map fun x => c.spanAhead x.start x.stop) ∧
    ((∃ g ∈ p.tree.kept, g ≠ 1) → m.value = none) := by
  have hvalue : m.value = if r.hasValueGroup then
      (found.captures.find? (·.index == 1)).map fun x => c.spanAhead x.start x.stop else none := by
    rw [hm]
    rfl
  match hfound : found.captures with
  | [] =>
    -- Nothing was captured, whether or not there is a group.
    rw [hfound, List.find?_nil, Option.map_none, ite_self] at hvalue
    exact ⟨fun _ => hvalue, fun _ => hvalue⟩
  | x :: _ =>
    obtain ⟨hone, hkept⟩ := hcaptures x (by rw [hfound]; exact List.mem_cons_self)
    rw [hfound] at hone
    rw [hgroup.2 ⟨x.index, hkept⟩, hfound, hone, List.find?_singleton, if_pos rfl] at hvalue
    rw [hvalue, hone, hkept]
    constructor
    · intro hfirst
      rw [List.mem_singleton.1 (hfirst List.mem_cons_self), if_pos (beq_self_eq_true 1)]
      rfl
    · rintro ⟨g, hg, hne⟩
      rw [← List.mem_singleton.1 hg, beq_false_of_ne hne]
      rfl

end State.FindsTwice

/-! ## The value of a match -/

/-- The groups that are kept of the pattern of a rule: one at most, some of those written. The
rule has a group for its value if there is one. -/
theorem State.Spec.kept {st : State} {decls : List RuleDecl} {ctx : RuleContext}
    (h : st.Spec decls ctx) {r : Rule} (hr : r ∈ st.rules) {p : Compiled}
    (hp : r.pattern = some p) :
    p.expr.groups = p.tree.kept ∧ p.tree.kept.length ≤ 1 ∧
      p.tree.kept.Sublist (List.range' 1 p.tree.groupCount) ∧
      (r.hasValueGroup = true ↔ ∃ g, p.tree.kept = [g]) := by
  obtain ⟨d, _, hd⟩ := h.declared r hr
  obtain ⟨text, hread, hchecked, hgroup⟩ := RuleDecl.ofText_of_compile hd hp
  obtain ⟨hgroups, hwritten⟩ := Compiled.groups_of_ofText hread
  have hcount : p.expr.captureCount = p.tree.kept.length := by
    rw [← Expr.length_groups, hgroups]
  refine ⟨hgroups, ?_, hwritten, ?_⟩
  · rw [← hcount]
    exact hchecked.captureCount
  · rw [hgroup, beq_iff_eq, hcount, List.length_eq_one_iff]

/-- **The value comes from the capture group.** What a state finds is found at the first place
where the first search finds anything; this is the place itself unless the state has a rule for
gaps. A second search there, for the pattern of the rule alone, finds the same match. At most
one group is kept of those written in the pattern, nothing else is captured, and at most once;
the rule has a group for its value if there is one.

If the group that is kept is the first one written, or if there is none, the value comes from
what was captured, or else from all of the match. If another group is kept than the first one,
the value comes from all of the match. -/
theorem State.value_captured {decls : List RuleDecl} {ctx : RuleContext} {st : State}
    (h : compile decls ctx = .ok st) {c : Cursor} {m : RuleMatch} (hm : st.findAt? c = some m) :
    ∃ k r p found, k ≤ c.ahead.length ∧ (k = 0 ∨ ∃ id, st.unmatched = .takeGap id) ∧
      (∀ j < k, st.firstSearch? (c.advance j) = none) ∧
      st.FindsTwice (c.advance k) m r p found ∧
      (r.hasValueGroup = true ↔ ∃ g, p.tree.kept = [g]) ∧ p.tree.kept.length ≤ 1 ∧
      p.tree.kept.Sublist (List.range' 1 p.tree.groupCount) ∧
      (∀ x ∈ found.captures, found.captures = [x] ∧ p.tree.kept = [x.index] ∧
        x.start ≤ x.stop ∧ x.stop ≤ found.width) ∧
      (∀ v ∈ m.value, m.span.start ≤ v.start ∧ v.start ≤ v.stop ∧ v.stop ≤ m.span.stop) ∧
      (p.tree.kept ⊆ [1] →
        st.ValueFrom (c.advance k) m r found.width found.captures.head?) ∧
      ((∃ g ∈ p.tree.kept, g ≠ 1) → st.ValueFrom (c.advance k) m r found.width none) := by
  have hspec := compile_spec h
  obtain ⟨k, r, p, found, hk, hgaps, hbefore, hfinds, hmatch⟩ := hspec.findsTwice_of_findAt? hm
  obtain ⟨hgroups, hone, hwritten, hgroup⟩ :=
    hspec.kept (List.mem_of_getElem? hfinds.rule) hfinds.pattern
  have hcaptures := hfinds.captures_of_kept hgroups hone
  obtain ⟨hfirst, hother⟩ := FindsTwice.value_eq hmatch hgroup hcaptures
  refine ⟨k, r, p, found, hk, hgaps, hbefore, hfinds, hgroup, hone, hwritten, ?_, ?_, ?_, ?_⟩
  · intro x hx
    obtain ⟨hsingle, hkept⟩ := hcaptures x hx
    exact ⟨hsingle, hkept, Expr.captures_of_match? hfinds.second x hx⟩
  · intro v hv
    have hmeasured := r.measured_matchOf m.rule hfinds.second
    rw [← hmatch] at hmeasured
    obtain ⟨hstart, hle, hstop, _⟩ := hmeasured.slice?_value hv
    exact ⟨hstart, hle, hstop⟩
  · intro hkept
    exact hfinds.valueFrom (fun x hx => List.mem_of_head? hx) (hfirst hkept)
  · intro hkept
    exact hfinds.valueFrom nofun (hother hkept)

/-- Names behind a sign, which are their values, and what lies between them. -/
def mentions : List RuleDecl :=
  [⟨"mention", { matchers := [.regex "@([a-z]+)|@@"] }⟩, ⟨"other", { fallback := true }⟩]

/-- The name behind the gap is the value of the match. -/
theorem State.value_captured_mention : ∃ st m r p found, ∃ k : Nat,
    compile mentions ⟨"start", ["start"]⟩ = .ok st ∧
    st.findAt? (Cursor.start "x @ab".toList) = some m ∧ m.span = ⟨2, 5⟩ ∧
    m.value = some ⟨3, 5⟩ ∧ r.hasValueGroup = true ∧
    st.FindsTwice ((Cursor.start "x @ab".toList).advance k) m r p found ∧
    st.ValueFrom ((Cursor.start "x @ab".toList).advance k) m r found.width
      found.captures.head? := by
  have hfacts : (compile mentions ⟨"start", ["start"]⟩).toOption.map (fun st =>
      ((st.findAt? (Cursor.start "x @ab".toList)).map fun m => (m.span, m.value),
        st.patterns.map fun p => p.tree.kept))
      = some (some (⟨2, 5⟩, some ⟨3, 5⟩), [[1]]) := by cbv
  obtain ⟨st, hst, hfacts⟩ := exists_ok_of_map hfacts
  rw [Prod.mk.injEq] at hfacts
  obtain ⟨m, hm, hmatch⟩ := Option.map_eq_some_iff.1 hfacts.1
  rw [Prod.mk.injEq] at hmatch
  obtain ⟨k, r, p, found, _, _, _, hfinds, hgroup, _, _, _, _, hvalue, _⟩ := value_captured hst hm
  have hkept : p.tree.kept = [1] := by
    obtain ⟨number, hsearched, _⟩ := hfinds.first
    have hmem : p ∈ st.patterns := List.mem_map_of_mem (List.mem_of_getElem? hsearched)
    have hkept : p.tree.kept ∈ st.patterns.map fun p => p.tree.kept := List.mem_map_of_mem hmem
    rw [hfacts.2] at hkept
    exact List.mem_singleton.1 hkept
  exact ⟨st, m, r, p, found, k, hst, hm, hmatch.1, hmatch.2, hgroup.2 ⟨1, hkept⟩, hfinds,
    hvalue (by rw [hkept]; exact List.Subset.refl _)⟩

/-- A rule with two groups, the first of which is left out. -/
def leftOut : List RuleDecl := [⟨"t", { matchers := [.regex "(a){0}(b)c"] }⟩]

/-- **A value that is not read.** The rule has a group for its value, and the group takes part
with `b`; but it is the second one that was written, and the match has no value. -/
theorem State.value_not_read : ∃ st m r p found,
    compile leftOut ⟨"start", ["start"]⟩ = .ok st ∧
    st.findAt? (Cursor.start "bc".toList) = some m ∧
    st.FindsTwice (Cursor.start "bc".toList) m r p found ∧ r.hasValueGroup = true ∧
    found.captures = [⟨2, 0, 1⟩] ∧ m.span = ⟨0, 2⟩ ∧ m.value = none := by
  have hfacts : (compile leftOut ⟨"start", ["start"]⟩).toOption.map (fun st =>
      ((st.matchAt? (Cursor.start "bc".toList)).map fun m => (m.span, m.value), st.unmatched,
        st.rules.map fun r => r.hasValueGroup,
        st.patterns.map fun p => (p.expr.match? [] "bc".toList).map Found.captures))
      = some (some (⟨0, 2⟩, none), .report, [true], [some [⟨2, 0, 1⟩]]) := by cbv
  obtain ⟨st, hst, hfacts⟩ := exists_ok_of_map hfacts
  simp only [Prod.mk.injEq] at hfacts
  obtain ⟨hmatch, hreport, hrules, hpatterns⟩ := hfacts
  obtain ⟨m, hm, hmatch⟩ := Option.map_eq_some_iff.1 hmatch
  rw [Prod.mk.injEq] at hmatch
  obtain ⟨r, p, found, hfinds, _⟩ := (compile_spec hst).findsTwice hm
  have hfind : st.findAt? (Cursor.start "bc".toList) = some m := by
    rw [findAt?, hreport]
    exact hm
  have hgroup : r.hasValueGroup ∈ st.rules.map fun r => r.hasValueGroup :=
    List.mem_map_of_mem (List.mem_of_getElem? hfinds.rule)
  have hcaptures : some found.captures ∈
      st.patterns.map fun p => (p.expr.match? [] "bc".toList).map Found.captures := by
    obtain ⟨number, hsearched, _⟩ := hfinds.first
    have hmem : p ∈ st.patterns := List.mem_map_of_mem (List.mem_of_getElem? hsearched)
    refine List.mem_map.2 ⟨p, hmem, ?_⟩
    exact congrArg (Option.map Found.captures) hfinds.second
  rw [hrules, List.mem_singleton] at hgroup
  rw [hpatterns, List.mem_singleton] at hcaptures
  exact ⟨st, m, r, p, found, hst, hfind, hfinds, hgroup, Option.some.inj hcaptures, hmatch.1,
    hmatch.2⟩

end StatefulLexer
