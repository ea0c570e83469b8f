/-
Rules and the empty text.

A rule that matches the empty text never gets a scanner on, so no rule may. The
check of a pattern asks for its least length and refuses zero. A length that is not
known passes, and that is right for a pattern that never matches. But a part that
never matches makes the length of the whole pattern unknown, also where that part may
be left out, and then the pattern can match the empty text.

Main statements: `Regex.Compiled.Checked.leastLength_of_nullable`,
`Regex.Compiled.Checked.neverEmpty_of_hasLook`.
-/
import StatefulLexer.Proofs.Regex.LookFree
import StatefulLexer.Proofs.Rule.Compile
import StatefulLexer.Proofs.State.Place

set_option autoImplicit false

namespace StatefulLexer

/-! ## Empty matches -/

namespace Regex.Expr

/-- **No match of the expression is empty,** at whatever place of whatever text. -/
def NeverEmpty (e : Expr) : Prop :=
  ∀ (behind ahead : List Char) (found : Found),
    e.match? behind ahead = some found → found.width ≠ 0

/-- What a match takes is empty only if it takes no character: a match does not count
what is not there. -/
theorem take_width_eq_nil_iff {e : Expr} {behind ahead : List Char} {found : Found}
    (h : e.match? behind ahead = some found) :
    ahead.take found.width = [] ↔ found.width = 0 := by
  have hle := width_le_of_match? h
  rw [← List.length_eq_zero_iff, List.length_take]
  omega

/-- **Without assertions** no match is empty exactly if the empty text cannot be matched. -/
theorem neverEmpty_iff_of_hasLook {e : Expr} (h : e.hasLook = false) :
    e.NeverEmpty ↔ e.nullable none none = false := by
  constructor
  · intro he
    by_cases hnull : e.nullable none none = true
    · -- At the end of a text there is a match, and nothing is left for it to take.
      have hsome : (e.match? [] []).isSome = true := (isSome_match?_end []).trans hnull
      obtain ⟨found, hfound⟩ := Option.isSome_iff_exists.1 hsome
      exact absurd (Nat.le_zero.1 (width_le_of_match? hfound)) (he [] [] found hfound)
    · exact Bool.eq_false_iff.2 hnull
  · intro hnull behind ahead found hfound hwidth
    have htrue := nullable_of_match? hfound hwidth
    rw [nullable_of_hasLook h _ _ none none, hnull] at htrue
    cases htrue

end Regex.Expr

/-- The span of a match is empty only if the match takes no character. -/
theorem Rule.matchOf_span_lt_iff (r : Rule) (id : RuleId) {c : Cursor} {e : Regex.Expr}
    {found : Regex.Found} (h : e.match? c.behind c.ahead = some found) :
    (r.matchOf id c found).span.start < (r.matchOf id c found).span.stop
      ↔ found.width ≠ 0 := by
  have hnext := r.matchOf_comesNext id c found
  have hsize := byteSize_eq_zero_iff (c.ahead.take found.width)
  rw [Regex.Expr.take_width_eq_nil_iff h] at hsize
  rw [hnext.start, hnext.stop, ne_eq, ← hsize]
  omega

/-! ## The check -/

/-- The pattern of a compiled rule was checked. -/
theorem RuleDecl.checked_of_compile {d : RuleDecl} {ctx : RuleContext} {r : Rule}
    (h : d.compile ctx = .ok r) {p : Regex.Compiled} (hp : r.pattern = some p) :
    p.Checked r.lineBreaks := by
  have hpattern := (RuleDecl.compile_eq_ok h).pattern
  rw [hp] at hpattern
  rcases RuleDecl.pattern_eq_ok hpattern with ⟨_, hnone⟩ | ⟨p', _, hp', _, hchecked⟩
  · cases hnone
  · rw [Option.some.inj hp']
    exact hchecked

namespace Regex.Compiled.Checked

variable {p : Compiled} {lineBreaks : Bool}

/-- **What passes the check and can match the empty text** has a least length that is not
known. -/
theorem leastLength_of_nullable (h : p.Checked lineBreaks) {before behind : Option Char}
    (hnull : p.expr.nullable before behind = true) : p.expr.leastLength = none := by
  cases hlength : p.expr.leastLength with
  | none => rfl
  | some n =>
    have hzero := Expr.leastLength_of_nullable hnull hlength
    rw [hzero] at hlength
    exact absurd hlength h.leastLength

/-- **The check for newlines helps out** where there are no assertions: an empty match
would also have been found in front of a newline. -/
theorem neverEmpty_of_hasLook (h : p.Checked lineBreaks) (hlines : lineBreaks = false)
    (hlook : p.expr.hasLook = false) : p.expr.NeverEmpty := by
  rw [Expr.neverEmpty_iff_of_hasLook hlook]
  by_cases hnull : p.expr.nullable none none = true
  · rw [Expr.nullable_of_hasLook hlook none none none (some '\n')] at hnull
    have hsome : (p.expr.match? [] ['\n']).isSome = true := Expr.isSome_match?_of_nullable hnull
    have hnewline := h.newline hlines
    rw [matchesNewline, Expr.occurs, hsome] at hnewline
    cases hnewline
  · exact Bool.eq_false_iff.2 hnull

end Regex.Compiled.Checked

end StatefulLexer
