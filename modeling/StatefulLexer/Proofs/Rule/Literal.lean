/-
Literals before regular expressions.

The matchers of a rule are sorted before they are joined, the longest literals to the front.
Two literals that both come next begin alike, so the first literal that is found is the longest.
A literal also settles the choice it is in, since it has no beginning that could be drawn out.

Main statement: `RuleDecl.longest_literal_first`.
-/
import StatefulLexer.Proofs.Declaration.Matcher
import StatefulLexer.Proofs.Rule.Union

set_option autoImplicit false

namespace StatefulLexer

open Regex

namespace Matcher

/-! ## Literals on their own -/

/-- **A literal finds its own characters,** whatever they are, and nothing else. -/
theorem width?_literal (text : String) (behind ahead : List Char) :
    (literal text).width? behind ahead
      = if text.toList.isPrefixOf ahead then some text.toList.length else none := by
  obtain ⟨c, hc, hexpr⟩ := Compiled.ofText_spelled text.toList
  rw [width?_of_ofText rfl hc, hexpr, match?_verbatim]
  split <;> rfl

theorem width?_literal_isSome {text : String} {behind ahead : List Char} :
    ((literal text).width? behind ahead).isSome = true ↔ text.toList <+: ahead := by
  rw [width?_literal, ← List.isPrefixOf_iff_prefix]
  cases text.toList.isPrefixOf ahead
  · exact iff_of_false nofun nofun
  · exact iff_of_true rfl rfl

/-! ## Literals among others -/

/-- **A text settles a choice,** since nothing can be drawn out of one. -/
theorem settled_of_verbatim {es : List Expr} {text : List Char} (h : .verbatim text ∈ es) :
    Expr.settled es = true := by
  have hbranches : (Expr.verbatim text).branches = [.verbatim text] := by
    unfold Expr.verbatim
    split <;> rfl
  have hfactors : (Expr.verbatim text).factors? = none := by
    unfold Expr.verbatim
    split <;> rfl
  have hmem : .verbatim text ∈ es.flatMap Expr.branches :=
    List.mem_flatMap.2 ⟨_, h, hbranches ▸ List.mem_singleton_self _⟩
  rw [Expr.settled, Expr.drawnOut?, mapM_eq_none hmem hfactors]

/-- A literal among patterns that stand side by side keeps its expression. -/
theorem verbatim_mem_beside {ms : List Matcher} {texts : List (List Char)} {cs : List Compiled}
    (htexts : ms.mapM toPattern = .ok texts) (hcs : texts.mapM Compiled.ofText = .ok cs)
    {text : String} (h : literal text ∈ ms) (n : Nat) :
    .verbatim text.toList ∈ Compiled.beside n cs := by
  induction ms generalizing texts cs n with
  | nil => cases h
  | cons m ms ih =>
    obtain ⟨pattern, texts', hpattern, htexts', rfl⟩ := mapM_cons_eq_ok.1 htexts
    obtain ⟨c, cs', hc, hcs', rfl⟩ := mapM_cons_eq_ok.1 hcs
    rcases List.mem_cons.1 h with rfl | h
    · obtain ⟨c', hc', hexpr⟩ := Compiled.ofText_spelled text.toList
      rw [← Except.ok.inj hpattern, hc'] at hc
      rw [← Except.ok.inj hc, Compiled.beside, hexpr]
      refine List.mem_cons.2 (.inl ?_)
      unfold Expr.verbatim
      split <;> rfl
    · exact List.mem_cons_of_mem _ (ih htexts' hcs' h _)

/-- **A literal settles the matchers** that it stands among. -/
theorem areSettled_of_literal {ms : List Matcher} (hlegible : ∀ m ∈ ms, m.IsLegible)
    {c : Compiled} (hc : patternOf ms = .ok c) {text : String} (h : literal text ∈ ms) :
    areSettled ms = true := by
  obtain ⟨texts, htexts, hc⟩ := bind_eq_ok.1 hc
  obtain ⟨_, cs, hcs, _⟩ :=
    compiled_apart (List.ne_nil_of_mem h) hlegible htexts (mapError_eq_ok.1 hc)
  rw [areSettled_of_ofText htexts hcs, Expr.unionSettled, Bool.or_eq_true]
  exact .inr (settled_of_verbatim (verbatim_mem_beside htexts hcs h 0))

/-! ## The longest literal -/

/-- Of two literals that come next, the one with fewer bytes begins the other one. -/
theorem prefix_of_byteLength_le {s t : String} {ahead : List Char} (hs : s.toList <+: ahead)
    (ht : t.toList <+: ahead) (h : s.utf8ByteSize ≤ t.utf8ByteSize) : s.toList <+: t.toList := by
  rcases List.prefix_or_prefix_of_prefix hs ht with hst | ⟨rest, hrest⟩
  · exact hst
  · have hsize : s.utf8ByteSize = t.utf8ByteSize + (String.ofList rest).utf8ByteSize := by
      rw [← String.utf8ByteSize_append, ← t.ofList_toList, ← String.ofList_append, hrest,
        String.ofList_toList]
    have hempty : String.ofList rest = "" := String.utf8ByteSize_eq_zero_iff.1 (by omega)
    have hnil : rest = [] := by
      rw [← String.toList_ofList (l := rest), hempty]
      rfl
    have hsame : s.toList = t.toList := by rw [← hrest, hnil, List.append_nil]
    exact ⟨[], (List.append_nil _).trans hsame⟩

/-- **Among sorted matchers the longest literal** that comes next is found. -/
theorem findSome?_sort_literal {ms : List Matcher} (behind : List Char) {ahead : List Char}
    {text : String} (hmem : literal text ∈ ms) (htext : text.toList <+: ahead) :
    ∃ longest, literal longest ∈ ms ∧ longest.toList <+: ahead ∧
      (∀ other, literal other ∈ ms → other.toList <+: ahead → other.toList <+: longest.toList) ∧
      (sort ms).findSome? (·.width? behind ahead) = some longest.toList.length := by
  have hsome : ((sort ms).findSome? (·.width? behind ahead)).isSome = true :=
    List.findSome?_isSome_iff.2 ⟨_, mem_sort.2 hmem, width?_literal_isSome.2 htext⟩
  obtain ⟨n, hn⟩ := Option.isSome_iff_exists.1 hsome
  obtain ⟨front, m, behind', hsplit, hm, hfront⟩ := List.findSome?_eq_some_iff.1 hn
  have horder := sort_pairwise ms
  rw [hsplit] at horder
  -- A literal that comes next is not in front of the one that is found.
  have hle : ∀ other, literal other ∈ ms → other.toList <+: ahead →
      m.le (literal other) = true := by
    intro other hother hnext
    have hother := mem_sort.2 hother
    rw [hsplit, List.mem_append, List.mem_cons] at hother
    rcases hother with hother | rfl | hother
    · have hnone := hfront _ hother
      have hfound : ((literal other).width? behind ahead).isSome = true :=
        width?_literal_isSome.2 hnext
      rw [hnone] at hfound
      cases hfound
    · exact le_of_byteLength? rfl
    · exact (List.pairwise_cons.1 (List.pairwise_append.1 horder).2.1).1 _ hother
  obtain ⟨k, hk, _⟩ := (le_iff _ _).1 (hle text hmem htext) _ rfl
  cases m with
  | regex pattern => cases hk
  | literal longest =>
    have hprefix : longest.toList <+: ahead :=
      width?_literal_isSome.1 (Option.isSome_iff_exists.2 ⟨n, hm⟩)
    have hmem : literal longest ∈ sort ms := by
      rw [hsplit]
      exact List.mem_append_right _ List.mem_cons_self
    refine ⟨longest, mem_sort.1 hmem, hprefix, fun other hother hnext => ?_, ?_⟩
    · have hlonger := hle other hother hnext
      rw [le, decide_eq_true_iff] at hlonger
      exact prefix_of_byteLength_le hnext hprefix hlonger
    · rw [width?_literal, if_pos (List.isPrefixOf_iff_prefix.2 hprefix)] at hm
      rw [hn, hm]

/-- **Where no literal comes next,** the first regular expression that matches is found. -/
theorem findSome?_sort_regex {ms : List Matcher} {behind ahead : List Char}
    (h : ∀ text, literal text ∈ ms → ¬text.toList <+: ahead) :
    (sort ms).findSome? (·.width? behind ahead)
      = (regexes ms).findSome? (·.width? behind ahead) := by
  rw [← regexes_sort, regexes]
  have hsorted : ∀ text, literal text ∈ sort ms → ¬text.toList <+: ahead := fun text htext =>
    h text (mem_sort.1 htext)
  generalize sort ms = ms at hsorted ⊢
  clear h
  induction ms with
  | nil => rfl
  | cons m ms ih =>
    have ih := ih fun text htext => hsorted text (List.mem_cons_of_mem m htext)
    cases m with
    | regex pattern =>
      have hfilter : (regex pattern :: ms).filter (·.byteLength? == none)
          = regex pattern :: ms.filter (·.byteLength? == none) := List.filter_cons_of_pos rfl
      rw [hfilter, List.findSome?_cons, List.findSome?_cons, ih]
    | literal text =>
      have hnone : (literal text).width? behind ahead = none := by
        rw [width?_literal, if_neg]
        exact fun hnext => hsorted text List.mem_cons_self (List.isPrefixOf_iff_prefix.1 hnext)
      rw [List.findSome?_cons, hnone]
      exact ih

end Matcher

/-! ## Rules -/

/-- The span that a rule finds is that of its pattern. -/
theorem Rule.span_match? {r : Rule} {p : Compiled} (hp : r.pattern = some p) (id : RuleId)
    (c : Cursor) : (r.match? id c).map RuleMatch.span
      = ((p.expr.match? c.behind c.ahead).map Found.width).map (c.spanAhead 0) := by
  rw [Rule.match?, hp, Option.bind_some, Option.map_map, Option.map_map]
  rfl

/-- **A rule finds what the first of its sorted matchers finds,** if they are settled. -/
theorem RuleDecl.span_of_sorted {o : RuleOptions} {tokenType : String} {ctx : RuleContext}
    {r : Rule} (h : (RuleDecl.ofOptions tokenType o).compile ctx = .ok r)
    (hlegible : ∀ m ∈ o.matchers, m.IsLegible)
    (hsettled : (∃ text, .literal text ∈ o.matchers) ∨ Matcher.areSettled o.matchers = true)
    (id : RuleId) (c : Cursor) : (r.match? id c).map RuleMatch.span
      = ((Matcher.sort o.matchers).findSome? (·.width? c.behind c.ahead)).map (c.spanAhead 0) := by
  have hmatchers : (RuleDecl.ofOptions tokenType o).options.matchers = Matcher.sort o.matchers :=
    rfl
  have hlegible : ∀ m ∈ Matcher.sort o.matchers, m.IsLegible := fun m hm =>
    hlegible m (Matcher.mem_sort.1 hm)
  rcases RuleDecl.pattern_eq_ok (RuleDecl.compile_eq_ok h).pattern with
    ⟨hnil, hpattern⟩ | ⟨p, hne, hpattern, hp, _⟩
  · rw [hmatchers] at hnil
    rw [Rule.match?, hpattern, hnil]
    rfl
  · rw [hmatchers] at hp hne
    have hsettled : Matcher.areSettled (Matcher.sort o.matchers) = true := by
      by_cases hliteral : ∃ text, .literal text ∈ o.matchers
      · obtain ⟨text, htext⟩ := hliteral
        exact Matcher.areSettled_of_literal hlegible hp (Matcher.mem_sort.2 htext)
      · rw [Matcher.sort_of_regexes fun text htext => hliteral ⟨text, htext⟩]
        exact hsettled.resolve_left hliteral
    rw [Rule.span_match? hpattern, Matcher.width_of_patternOf hne hlegible hsettled hp]

/-- **The longest literal comes first.** The matchers of a declared rule are sorted: literals
in front of regular expressions, longer ones in front of shorter ones, and otherwise as they
were written. A literal finds its own characters. A rule whose verbose matchers are legible
finds the longest of its literals that comes next; all others that come next begin it. Where
none does, it finds what the first of its regular expressions finds that finds anything, if
there is a literal among its matchers, or the choice between them is settled. -/
theorem RuleDecl.longest_literal_first {o : RuleOptions} {tokenType : String} {ctx : RuleContext}
    {r : Rule} (h : (RuleDecl.ofOptions tokenType o).compile ctx = .ok r)
    (hlegible : ∀ m ∈ o.matchers, m.isVerbose = true → m.IsLegible) :
    ((RuleDecl.ofOptions tokenType o).options.matchers.Perm o.matchers ∧
      ((RuleDecl.ofOptions tokenType o).options.matchers.Pairwise fun a b =>
        ∀ n ∈ b.byteLength?, ∃ m ∈ a.byteLength?, n ≤ m) ∧
      ∀ n, (RuleDecl.ofOptions tokenType o).options.matchers.filter (·.byteLength? == n)
        = o.matchers.filter (·.byteLength? == n)) ∧
    (∀ (text : String) (behind ahead : List Char),
      (Matcher.literal text).width? behind ahead
        = if text.toList.isPrefixOf ahead then some text.toList.length else none) ∧
    ∀ (id : RuleId) (c : Cursor),
      (∀ text, .literal text ∈ o.matchers → text.toList <+: c.ahead →
        ∃ longest, .literal longest ∈ o.matchers ∧ longest.toList <+: c.ahead ∧
          (∀ other, .literal other ∈ o.matchers → other.toList <+: c.ahead →
            other.toList <+: longest.toList) ∧
          (r.match? id c).map RuleMatch.span = some (c.spanAhead 0 longest.toList.length)) ∧
      ((∀ text, .literal text ∈ o.matchers → ¬text.toList <+: c.ahead) →
        (∃ text, .literal text ∈ o.matchers) ∨ Matcher.areSettled o.matchers = true →
        (r.match? id c).map RuleMatch.span
          = ((Matcher.regexes o.matchers).findSome? (·.width? c.behind c.ahead)).map
            (c.spanAhead 0)) := by
  have hlegible := Matcher.forall_isLegible hlegible
  refine ⟨⟨Matcher.sort_perm _, ?_, Matcher.filter_sort _⟩, Matcher.width?_literal, ?_⟩
  · exact (Matcher.sort_pairwise o.matchers).imp fun hle => (Matcher.le_iff _ _).1 hle
  · intro id c
    refine ⟨fun text hmem hnext => ?_, fun hnone hsettled => ?_⟩
    · obtain ⟨longest, hlongest, hprefix, hothers, hfound⟩ :=
        Matcher.findSome?_sort_literal c.behind hmem hnext
      refine ⟨longest, hlongest, hprefix, hothers, ?_⟩
      rw [RuleDecl.span_of_sorted h hlegible (.inl ⟨text, hmem⟩), hfound, Option.map_some]
    · rw [RuleDecl.span_of_sorted h hlegible hsettled, Matcher.findSome?_sort_regex hnone]

/-- Operators: each begins the next one. -/
def operators : RuleOptions :=
  { matchers := [.regex "[=!]+", .literal "=", .literal "==="] }

/-- The longest operator is found, although a longer text matches. -/
theorem longest_literal_first_operators :
    ∃ r, (RuleDecl.ofOptions "op" operators).compile ⟨"start", ["start"]⟩ = .ok r ∧
      ∀ id, (r.match? id (Cursor.start "====".toList)).map RuleMatch.span = some ⟨0, 3⟩ := by
  have hfacts : ((RuleDecl.ofOptions "op" operators).compile
      ⟨"start", ["start"]⟩).toOption.map (fun _ => operators.matchers.all Matcher.hasLegibleClasses)
        = some true := by cbv
  obtain ⟨r, hr, hlegible⟩ := exists_ok_of_map hfacts
  refine ⟨r, hr, fun id => ?_⟩
  have hrule := RuleDecl.longest_literal_first hr fun m hm _ =>
    Matcher.isLegible_of_classes (List.all_eq_true.1 hlegible m hm)
  obtain ⟨longest, hlongest, _, hothers, hspan⟩ :=
    (hrule.2.2 id (Cursor.start "====".toList)).1 "===" (by decide) (by decide)
  have hthree : "===".toList <+: longest.toList := hothers "===" (by decide) (by decide)
  have hmatchers : operators.matchers = [.regex "[=!]+", .literal "=", .literal "==="] := rfl
  rw [hmatchers] at hlongest
  simp only [List.mem_cons, Matcher.literal.injEq, reduceCtorEq, List.not_mem_nil, or_false,
    false_or] at hlongest
  rcases hlongest with rfl | rfl
  · exact absurd hthree (by decide)
  · rw [hspan]
    rfl

/-- **A choice that is not settled.** The rule is accepted, and the first of its regular
expressions finds all of `abx`, but the rule finds less. -/
theorem RuleDecl.first_regex_cut_short :
    ∃ r, (RuleDecl.ofOptions "t" { matchers := Matcher.twice }).compile ⟨"start", ["start"]⟩
        = .ok r ∧
      Matcher.areSettled Matcher.twice = false ∧
      (Matcher.regexes Matcher.twice).findSome? (·.width? [] "abx".toList) = some 3 ∧
      (r.match? 0 (Cursor.start "abx".toList)).map RuleMatch.span = some ⟨0, 2⟩ := by
  have hfacts : ((RuleDecl.ofOptions "t" { matchers := Matcher.twice }).compile
      ⟨"start", ["start"]⟩).toOption.map (fun r =>
        (Matcher.areSettled Matcher.twice,
          (Matcher.regexes Matcher.twice).findSome? (·.width? [] "abx".toList),
          (r.match? 0 (Cursor.start "abx".toList)).map RuleMatch.span))
        = some (false, some 3, some ⟨0, 2⟩) := by cbv
  obtain ⟨r, hr, hfacts⟩ := exists_ok_of_map hfacts
  rw [Prod.mk.injEq, Prod.mk.injEq] at hfacts
  exact ⟨r, hr, hfacts.1, hfacts.2.1, hfacts.2.2⟩

end StatefulLexer
