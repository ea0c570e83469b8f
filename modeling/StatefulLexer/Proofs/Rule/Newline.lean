/-
Rules and the newlines that they match.

A rule that does not declare line breaks must not match a newline, since it would
take it for an ordinary character. The check of its pattern asks for a match
somewhere in a text that is one newline, and no more. That refuses a rule for
blanks, and lets pass a literal of several characters with a newline among them.
What holds of the rules that pass is said here: the expression that asks for no
newline matches none, and for a match list of literals it is exactly known.

Main statements: `Rule.match?_counts`, `RuleDecl.newlines_of_compile`.
-/
import StatefulLexer.Proofs.Regex.Admits
import StatefulLexer.Proofs.Rule.Compile
import StatefulLexer.Proofs.State.Place

set_option autoImplicit false

namespace StatefulLexer

/-! ## Rules that count their newlines -/

/-- **A rule counts its newlines:** it declares line breaks, or no match of its pattern
holds a newline. -/
def Rule.CountsNewlines (r : Rule) : Prop :=
  r.lineBreaks = false → ∀ p : Regex.Compiled, r.pattern = some p → p.expr.Avoids '\n'

/-- The matches of such a rule hold newlines only if line breaks are declared. -/
theorem Rule.match?_counts {r : Rule} (hr : r.CountsNewlines) {id : RuleId} {c : Cursor}
    {m : RuleMatch} (hm : r.match? id c = some m) (hnl : '\n' ∈ c.slice m.span) :
    r.lineBreaks = true := by
  obtain ⟨p, hp, hm⟩ := Option.bind_eq_some_iff.1 hm
  obtain ⟨found, hfound, rfl⟩ := Option.map_eq_some_iff.1 hm
  rw [(r.matchOf_comesNext id c found).slice] at hnl
  cases hlines : r.lineBreaks with
  | true => rfl
  | false => exact absurd hnl (hr hlines p hp _ _ found hfound)

/-! ## The check -/

/-- A pattern that was not found in a newline does not match at the newline. -/
theorem Regex.Compiled.match?_newline {p : Regex.Compiled} (h : p.matchesNewline = false) :
    p.expr.match? [] ['\n'] = none := by
  rw [matchesNewline, Regex.Expr.occurs, Bool.or_eq_false_iff] at h
  exact Option.isNone_iff_eq_none.1 (Option.isSome_eq_false_iff.1 h.1)

/-! ## Literals -/

/-- **A match list of literals** avoids a character exactly if each literal that has it
stands behind one that it begins with. -/
theorem avoids_iff_of_literals {ms : List Matcher} {texts : List (List Char)}
    (htexts : ms.mapM Matcher.text? = some texts) (hne : ms ≠ []) {p : Regex.Compiled}
    (hp : patternOf ms = .ok p) (c : Char) :
    p.expr.Avoids c ↔ ∀ (front : List (List Char)) (text : List Char) (back : List (List Char)),
      texts = front ++ text :: back → c ∈ text → ∃ u ∈ front, u <+: text := by
  have hmatch := match?_of_literals htexts hne hp
  constructor
  · intro havoids front text back hsplit hc
    -- The literal itself is a text at which it is found, unless one in front of it is.
    refine Classical.byContradiction fun hnone => ?_
    refine havoids [] text ⟨text.length, []⟩ ?_ (by rw [List.take_length]; exact hc)
    have hfront : front.find? (·.isPrefixOf text) = none :=
      List.find?_eq_none.2 fun u hu hbegins => hnone ⟨u, hu, List.isPrefixOf_iff_prefix.1 hbegins⟩
    have hself : text.isPrefixOf text = true :=
      List.isPrefixOf_iff_prefix.2 (List.prefix_refl text)
    rw [hmatch, Regex.foundAmong, hsplit, List.find?_append, hfront, Option.none_or,
      List.find?_cons, hself]
    rfl
  · intro hbehind behind ahead found hfound hc
    rw [hmatch] at hfound
    obtain ⟨text, hfind, rfl⟩ := Option.map_eq_some_iff.1 hfound
    obtain ⟨hbegins, front, back, hsplit, hfront⟩ := List.find?_eq_some_iff_append.1 hfind
    have htext : text <+: ahead := List.isPrefixOf_iff_prefix.1 hbegins
    rw [← List.prefix_iff_eq_take.1 htext] at hc
    obtain ⟨u, hu, hfirst⟩ := hbehind front text back hsplit hc
    have hahead : u.isPrefixOf ahead = true :=
      List.isPrefixOf_iff_prefix.2 (hfirst.trans htext)
    have hnot := hfront u hu
    rw [hahead] at hnot
    cases hnot

/-! ## Rules that passed the check -/

/-- **What the check of a rule gives, and what it does not.** The pattern is not found in
a newline. It avoids newlines exactly if every match that begins in front of one ends
in front of the first, which is the case if it does not ask for newlines. A match list
of literals avoids newlines exactly if none of those with a newline is ever the first
that comes next. -/
theorem RuleDecl.newlines_of_compile {d : RuleDecl} {ctx : RuleContext} {r : Rule}
    (h : d.compile ctx = .ok r) (hlines : r.lineBreaks = false) {p : Regex.Compiled}
    (hp : r.pattern = some p) :
    p.expr.match? [] ['\n'] = none ∧
    (p.expr.Avoids '\n' ↔ ∀ (behind front rest : List Char) (found : Regex.Found),
      '\n' ∉ front → p.expr.match? behind (front ++ '\n' :: rest) = some found →
      found.width ≤ front.length) ∧
    (p.expr.admits '\n' = false → p.expr.Avoids '\n') ∧
    (∀ texts : List (List Char), d.options.matchers.mapM Matcher.text? = some texts →
      (p.expr.Avoids '\n' ↔ ∀ (front : List (List Char)) (text : List Char)
        (back : List (List Char)), texts = front ++ text :: back → '\n' ∈ text →
        ∃ u ∈ front, u <+: text)) := by
  have hpattern := (RuleDecl.compile_eq_ok h).pattern
  rw [hp] at hpattern
  rcases RuleDecl.pattern_eq_ok hpattern with ⟨_, hnone⟩ | ⟨p', hne, hp', hof, hchecked⟩
  · cases hnone
  · cases hp'
    refine ⟨Regex.Compiled.match?_newline (hchecked.newline hlines), Regex.Expr.avoids_iff,
      Regex.Expr.avoids_of_admits, fun texts htexts => ?_⟩
    exact avoids_iff_of_literals htexts hne hof '\n'

end StatefulLexer
