/-
Rules with several matchers.

The pattern of each matcher of a rule is written in a group of its own, and all of them are
read together. A matcher whose tree is legible is read as it would be on its own, next to any
others: its flags, its branches and its groups end where it ends. Every matcher is legible that
does not make blanks be skipped, and one that does is legible too, if the classes in it are.
Otherwise it may reach into the next. What the rule finds is what the first of its matchers finds
that finds anything, provided that the choice between them is settled.

Main statements: `Matcher.isLegible_of_classes`, `Matcher.union_apart`,
`Matcher.comment_reaches_out`, `Matcher.beginning_before_first`.
-/
import StatefulLexer.Proofs.Evaluated
import StatefulLexer.Proofs.Regex.Parsed.Body
import StatefulLexer.Proofs.Regex.Reading.LegibleTree
import StatefulLexer.Proofs.Rule.Compile

set_option autoImplicit false

namespace StatefulLexer.Matcher

open Regex

/-! ## Trees of matchers -/

/-- **A legible matcher:** its pattern is the text of a legible tree, so that is what is read
of it. A matcher that has no pattern is legible. -/
def IsLegible (m : Matcher) : Prop :=
  ∀ text, m.toPattern = .ok text → ∃ p : Pattern, p.legible false = true ∧ p.render = text

/-- Every literal is legible. -/
theorem isLegible_literal (text : String) : (literal text).IsLegible := by
  intro pattern hpattern
  refine ⟨(Pattern.spelled text.toList).inGroup, Pattern.legible_spelled text.toList, ?_⟩
  rw [Pattern.render_inGroup, Pattern.render_spelled]
  exact Except.ok.inj hpattern

/-- A regular expression is legible if its text is that of a legible tree. -/
theorem isLegible_regex {pattern : String}
    (h : ∀ tree, Pattern.parse pattern.toList = .ok tree →
      ∃ p : Pattern, p.legible false = true ∧ p.render = tree.render) :
    (regex pattern).IsLegible := by
  intro text htext
  rw [toPattern, Pattern.canonical] at htext
  cases htree : Pattern.parse pattern.toList with
  | error f =>
    rw [htree] at htext
    cases htext
  | ok tree =>
    rw [htree] at htext
    obtain rfl : tree.render = text := Except.ok.inj htext
    exact h tree htree

/-- **A verbose matcher:** a regular expression in which blanks are skipped somewhere. -/
def isVerbose : Matcher → Bool
  | literal _ => false
  | regex pattern => (Pattern.parse pattern.toList).toOption.any (·.isVerbose)

/-- **Every matcher that is not verbose is legible.** -/
theorem isLegible_of_not_verbose {m : Matcher} (h : m.isVerbose = false) : m.IsLegible := by
  cases m with
  | literal text => exact isLegible_literal text
  | regex pattern =>
    refine isLegible_regex fun tree htree => ⟨tree, ?_, rfl⟩
    rw [isVerbose, htree] at h
    exact Pattern.legible_of_parse htree h

/-- So only verbose matchers have to be looked at. -/
theorem forall_isLegible {ms : List Matcher}
    (h : ∀ m ∈ ms, m.isVerbose = true → m.IsLegible) : ∀ m ∈ ms, m.IsLegible := by
  intro m hm
  cases hverbose : m.isVerbose with
  | true => exact h m hm hverbose
  | false => exact isLegible_of_not_verbose hverbose

/-- The classes of the matcher are legible, also where blanks are skipped. -/
def hasLegibleClasses : Matcher → Bool
  | literal _ => true
  | regex pattern => (Pattern.parse pattern.toList).toOption.all (·.wellRead true false)

/-- **A matcher is legible if its classes are,** although the tree that is read of it may be
another one then: a question mark may have come next to an operator. -/
theorem isLegible_of_classes {m : Matcher} (h : m.hasLegibleClasses = true) : m.IsLegible := by
  cases m with
  | literal text => exact isLegible_literal text
  | regex pattern =>
    refine isLegible_regex fun tree htree => ⟨tree.reread, ?_, tree.render_reread⟩
    rw [hasLegibleClasses, htree] at h
    exact tree.legible_reread h

/-- The patterns of legible matchers are the texts of legible trees. -/
theorem trees_of_toPattern {ms : List Matcher} (hlegible : ∀ m ∈ ms, m.IsLegible)
    {texts : List (List Char)} (h : ms.mapM toPattern = .ok texts) :
    ∃ ps : List Pattern, (∀ p ∈ ps, p.legible false = true) ∧ ps.map Pattern.render = texts := by
  induction ms generalizing texts with
  | nil =>
    cases h
    exact ⟨[], nofun, rfl⟩
  | cons m ms ih =>
    obtain ⟨hm, hms⟩ := List.forall_mem_cons.1 hlegible
    obtain ⟨text, texts', htext, htexts, rfl⟩ := mapM_cons_eq_ok.1 h
    obtain ⟨p, hp, rfl⟩ := hm text htext
    obtain ⟨ps, hps, rfl⟩ := ih hms htexts
    exact ⟨p :: ps, List.forall_mem_cons.2 ⟨hp, hps⟩, rfl⟩

/-! ## Unions -/

/-- The patterns of legible matchers are read apart from each other, and the tree that is read of
their union is legible. -/
theorem compiled_apart {ms : List Matcher} (hne : ms ≠ [])
    (hlegible : ∀ m ∈ ms, m.IsLegible) {texts : List (List Char)}
    (htexts : ms.mapM toPattern = .ok texts) {c : Compiled}
    (hc : Compiled.ofText (unionOf texts) = .ok c) :
    c.tree.legible false = true ∧ ∃ cs, texts.mapM Compiled.ofText = .ok cs ∧
      c.expr = Expr.unionOf (Compiled.beside 0 cs) := by
  obtain ⟨ps, hps, rfl⟩ := trees_of_toPattern hlegible htexts
  have hps_ne : ps ≠ [] := by
    rintro rfl
    exact hne (List.length_eq_zero_iff.1 (length_of_mapM htexts).symm)
  obtain ⟨hof, cs, hcs, _, hexpr⟩ := Compiled.of_unionOf hps_ne hps hc
  exact ⟨hof.legible (Pattern.legible_union hps_ne hps), cs, hcs, hexpr⟩

/-- **The pattern of a rule is legible** if its verbose matchers are. -/
theorem legible_of_patternOf {ms : List Matcher} (hne : ms ≠ [])
    (hlegible : ∀ m ∈ ms, m.isVerbose = true → m.IsLegible) {c : Compiled}
    (hc : patternOf ms = .ok c) : c.tree.legible false = true := by
  obtain ⟨texts, htexts, hc⟩ := bind_eq_ok.1 hc
  exact (compiled_apart hne (forall_isLegible hlegible) htexts (mapError_eq_ok.1 hc)).1

/-! ## What matchers find on their own -/

/-- How many characters the matcher takes on its own. -/
def width? (m : Matcher) (behind ahead : List Char) : Option Nat :=
  m.toPattern.toOption.bind fun text => (Compiled.ofText text).toOption.bind fun c =>
    (c.expr.match? behind ahead).map Found.width

theorem width?_of_ofText {m : Matcher} {text : List Char} (htext : m.toPattern = .ok text)
    {c : Compiled} (hc : Compiled.ofText text = .ok c) (behind ahead : List Char) :
    m.width? behind ahead = (c.expr.match? behind ahead).map Found.width := by
  rw [width?, htext]
  show ((Compiled.ofText text).toOption.bind _) = _
  rw [hc]
  rfl

/-- Patterns that are read find what their matchers find. -/
theorem findSome?_width? {ms : List Matcher} {texts : List (List Char)}
    (htexts : ms.mapM toPattern = .ok texts) {cs : List Compiled}
    (hcs : texts.mapM Compiled.ofText = .ok cs) (behind ahead : List Char) :
    (cs.findSome? fun c => (c.expr.match? behind ahead).map Found.width)
      = ms.findSome? (·.width? behind ahead) := by
  induction ms generalizing texts cs with
  | nil =>
    cases htexts
    cases hcs
    rfl
  | cons m ms ih =>
    obtain ⟨text, texts', htext, htexts', rfl⟩ := mapM_cons_eq_ok.1 htexts
    obtain ⟨c, cs', hc, hcs', rfl⟩ := mapM_cons_eq_ok.1 hcs
    rw [List.findSome?_cons, List.findSome?_cons, ih htexts' hcs', width?_of_ofText htext hc]

/-- The choice between the matchers is settled. -/
def areSettled (ms : List Matcher) : Bool :=
  ((ms.mapM toPattern).toOption.bind fun texts => (texts.mapM Compiled.ofText).toOption).any
    fun cs => Expr.unionSettled (Compiled.beside 0 cs)

theorem areSettled_of_ofText {ms : List Matcher} {texts : List (List Char)}
    (htexts : ms.mapM toPattern = .ok texts) {cs : List Compiled}
    (hcs : texts.mapM Compiled.ofText = .ok cs) :
    areSettled ms = Expr.unionSettled (Compiled.beside 0 cs) := by
  rw [areSettled, htexts]
  show ((texts.mapM Compiled.ofText).toOption.any _) = _
  rw [hcs]
  rfl

/-- **A rule of settled matchers** finds what the first of them finds that finds anything. -/
theorem width_of_patternOf {ms : List Matcher} (hne : ms ≠ [])
    (hlegible : ∀ m ∈ ms, m.IsLegible) (hsettled : areSettled ms = true) {c : Compiled}
    (hc : patternOf ms = .ok c) (behind ahead : List Char) :
    (c.expr.match? behind ahead).map Found.width = ms.findSome? (·.width? behind ahead) := by
  obtain ⟨texts, htexts, hc⟩ := bind_eq_ok.1 hc
  obtain ⟨_, cs, hcs, hexpr⟩ := compiled_apart hne hlegible htexts (mapError_eq_ok.1 hc)
  rw [areSettled_of_ofText htexts hcs] at hsettled
  rw [Compiled.width_of_unionOf hexpr hsettled, findSome?_width? htexts hcs]

/-! ## Matchers next to each other -/

/-- **Joined matchers do not get into each other.** If the union of the patterns of matchers is
read, of which the verbose ones are legible, then each pattern is read on its own, and the union
is the choice of exactly these, with their groups counted on. It finds what the first of them
finds that finds anything, and nothing if none does, provided that the choice is settled. -/
theorem union_apart {ms : List Matcher} (hne : ms ≠ [])
    (hlegible : ∀ m ∈ ms, m.isVerbose = true → m.IsLegible) {texts : List (List Char)}
    (htexts : ms.mapM toPattern = .ok texts) {c : Compiled}
    (hc : Compiled.ofText (unionOf texts) = .ok c) :
    ∃ cs, texts.mapM Compiled.ofText = .ok cs ∧
      c.expr = Expr.unionOf (Compiled.beside 0 cs) ∧
      (Expr.unionSettled (Compiled.beside 0 cs) = true → ∀ behind ahead,
        (c.expr.match? behind ahead).map Found.width
          = cs.findSome? fun c => (c.expr.match? behind ahead).map Found.width) := by
  obtain ⟨_, cs, hcs, hexpr⟩ := compiled_apart hne (forall_isLegible hlegible) htexts hc
  exact ⟨cs, hcs, hexpr, Compiled.width_of_unionOf hexpr⟩

/-- A dot for all characters, beside one for those of a line, which has a blank in front of its
question mark and a comment behind it. -/
def dots : List Matcher := [.regex "(?s)a.|b", .regex "(?x) c .+ ? # no newline", .literal "a."]

/-- Only the first dot stands for a newline. -/
theorem union_apart_dots :
    ∃ texts c cs, dots.mapM toPattern = .ok texts ∧ Compiled.ofText (unionOf texts) = .ok c ∧
      texts.mapM Compiled.ofText = .ok cs ∧ c.expr = Expr.unionOf (Compiled.beside 0 cs) ∧
      ∀ behind ahead, (c.expr.match? behind ahead).map Found.width
        = cs.findSome? fun c => (c.expr.match? behind ahead).map Found.width := by
  have hfacts : ((dots.mapM toPattern).toOption.bind fun texts =>
      (Compiled.ofText (unionOf texts)).toOption.bind fun _ =>
        (texts.mapM Compiled.ofText).toOption.map fun cs =>
          (dots.all hasLegibleClasses, Expr.unionSettled (Compiled.beside 0 cs)))
        = some (true, true) := by cbv
  obtain ⟨texts, htexts, h⟩ := exists_ok_of_bind hfacts
  obtain ⟨c, hc, h⟩ := exists_ok_of_bind h
  obtain ⟨cs, hcs, h⟩ := exists_ok_of_map h
  rw [Prod.mk.injEq] at h
  obtain ⟨hlegible, hsettled⟩ := h
  obtain ⟨cs', hcs', hexpr, hwidth⟩ :=
    union_apart (by decide)
      (fun m hm _ => isLegible_of_classes (List.all_eq_true.1 hlegible m hm)) htexts hc
  rw [hcs] at hcs'
  cases Except.ok.inj hcs'
  exact ⟨texts, c, cs, htexts, hc, hcs, hexpr, hwidth hsettled⟩

/-- A verbose matcher with a comment in a class, beside a newline. Without the comment the range
up to the bracket is read as a class that ends there. The bracket that ended it is then found in
a group, behind flags that make blanks be skipped up to the end. -/
def reachingOut : List Matcher := [.regex "(?x:[+-#c\n])(?x)(]) # tail", .regex "\n"]

/-- **A comment that reaches out of its matcher.** A verbose matcher that is not legible may be
read on its own, and still take up what stands behind it: the other matcher is no part of the
union then. -/
theorem comment_reaches_out :
    ∃ texts c cs, reachingOut.mapM toPattern = .ok texts ∧
      Compiled.ofText (unionOf texts) = .ok c ∧ texts.mapM Compiled.ofText = .ok cs ∧
      Expr.unionSettled (Compiled.beside 0 cs) = true ∧
      c.expr.match? [] ['\n'] = none ∧
      (cs.findSome? fun c => c.expr.match? [] ['\n']) = some ⟨1, []⟩ := by
  have hfacts : ((reachingOut.mapM toPattern).toOption.bind fun texts =>
      (Compiled.ofText (unionOf texts)).toOption.bind fun c =>
        (texts.mapM Compiled.ofText).toOption.map fun cs =>
          (Expr.unionSettled (Compiled.beside 0 cs), c.expr.match? [] ['\n'],
            cs.findSome? fun c => c.expr.match? [] ['\n']))
        = some (true, none, some ⟨1, []⟩) := by cbv
  obtain ⟨texts, htexts, h⟩ := exists_ok_of_bind hfacts
  obtain ⟨c, hc, h⟩ := exists_ok_of_bind h
  obtain ⟨cs, hcs, h⟩ := exists_ok_of_map h
  rw [Prod.mk.injEq, Prod.mk.injEq] at h
  exact ⟨texts, c, cs, htexts, hc, hcs, h.1, h.2.1, h.2.2⟩

/-- Two matchers that may begin alike. -/
def twice : List Matcher := [.regex "a?abx?", .regex "a?b"]

/-- **What the matchers have in common at their beginning is tried before them.** The first
one finds all of `abx` on its own, but next to the second one it is not asked for that: once
the first character is taken, the second one has a match. -/
theorem beginning_before_first :
    ∃ texts c first, twice.mapM toPattern = .ok texts ∧
      Compiled.ofText (unionOf texts) = .ok c ∧
      texts.head?.bind (fun text => (Compiled.ofText text).toOption) = some first ∧
      first.expr.match? [] "abx".toList = some ⟨3, []⟩ ∧
      c.expr.match? [] "abx".toList = some ⟨2, []⟩ := by
  have hfacts : ((twice.mapM toPattern).toOption.bind fun texts =>
      (Compiled.ofText (unionOf texts)).toOption.bind fun c =>
        (texts.head?.bind fun text => (Compiled.ofText text).toOption).map fun first =>
          (first.expr.match? [] "abx".toList, c.expr.match? [] "abx".toList))
        = some (some ⟨3, []⟩, some ⟨2, []⟩) := by cbv
  obtain ⟨texts, htexts, h⟩ := exists_ok_of_bind hfacts
  obtain ⟨c, hc, h⟩ := exists_ok_of_bind h
  obtain ⟨first, hfirst, h⟩ := Option.map_eq_some_iff.1 h
  rw [Prod.mk.injEq] at h
  exact ⟨texts, c, first, htexts, hc, hfirst, h.1, h.2⟩

end StatefulLexer.Matcher
