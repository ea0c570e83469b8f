/-
The canonical spelling.

A pattern is read and written out again before it is joined with others. What is written is
read as the same pattern, with the same groups, and means the same, if the tree that was read is
legible, and every pattern that is not verbose has a legible tree. In a verbose pattern blanks
and comments are dropped, and two operators may become one.

Main statement: `Pattern.canonical_faithful`.
-/
import StatefulLexer.Proofs.Evaluated
import StatefulLexer.Proofs.Regex.Parsed.Body
import StatefulLexer.Proofs.Regex.Reading.LegibleTree

set_option autoImplicit false

namespace StatefulLexer.Regex

/-! ## Texts without places -/

mutual

/-- Places are not written. -/
theorem Pattern.render_unplaced : (p : Pattern) → p.unplaced.render = p.render
  | .empty _ => rfl
  | .setFlags _ _ => rfl
  | .literal _ => rfl
  | .dot _ => rfl
  | .assertion _ _ => rfl
  | .property _ _ _ => rfl
  | .short _ _ _ => rfl
  | .bracketed _ negated set => congrArg (inBrackets negated) set.render_unplaced
  | .repetition _ op greedy sub => congrArg (· ++ op.render greedy) sub.render_unplaced
  | .group _ kind sub => congrArg (kind.render ++ · ++ [')']) sub.render_unplaced
  | .alternation _ branches => Pattern.renderBranches_unplaced branches
  | .concat _ items => Pattern.renderAll_unplaced items

theorem Pattern.renderAll_unplaced : (ps : List Pattern) →
    Pattern.renderAll (Pattern.allUnplaced ps) = Pattern.renderAll ps
  | [] => rfl
  | p :: ps => by
    rw [Pattern.allUnplaced, Pattern.renderAll, Pattern.renderAll, p.render_unplaced,
      Pattern.renderAll_unplaced]

theorem Pattern.renderBranches_unplaced : (ps : List Pattern) →
    Pattern.renderBranches (Pattern.allUnplaced ps) = Pattern.renderBranches ps
  | [] => rfl
  | [p] => p.render_unplaced
  | p :: q :: ps => by
    have hrest := Pattern.renderBranches_unplaced (q :: ps)
    rw [Pattern.allUnplaced] at hrest
    rw [Pattern.allUnplaced, Pattern.allUnplaced, Pattern.renderBranches, p.render_unplaced, hrest,
      Pattern.renderBranches]

end

/-! ## Reading again -/

/-- **A legible tree that was read** is what is read of its text. -/
theorem Pattern.exists_parse_render {text : List Char} {tree : Pattern}
    (h : Pattern.parse text = .ok tree) (hlegible : tree.legible false = true) :
    ∃ tree', Pattern.parse tree.render = .ok tree' ∧ tree'.unplaced = tree.unplaced := by
  obtain ⟨hnumbers, hnames, hroom, _⟩ := Pattern.parse_reads h
  obtain ⟨tree', hsame, hparse⟩ := (Pattern.parse_render hlegible).1 ⟨hnames, hroom⟩
  exact ⟨tree', hparse, hsame.trans (tree.unplaced_eq_numbered 0 hnumbers).symm⟩

/-- The expression of a text is that of the tree that is read. -/
theorem Expr.ofText_of_parse {text : List Char} {tree : Pattern}
    (h : Pattern.parse text = .ok tree) :
    (Expr.ofText text).toOption = (tree.meaning {}).toOption.map Prod.fst := by
  rw [Expr.ofText, h, ok_bind]
  cases tree.meaning {} <;> rfl

/-- **The canonical spelling of a pattern.** There is one for every pattern that can be read. If
the tree is legible, it is read as the same tree, places apart; it is its own canonical spelling;
and it means the same, if the pattern means anything. The tree is legible if the pattern is not
verbose. -/
theorem Pattern.canonical_faithful {text : List Char} {tree : Pattern}
    (h : Pattern.parse text = .ok tree) :
    ∃ spelling, Pattern.canonical text = .ok spelling ∧
      (tree.legible false = true →
        (∃ tree', Pattern.parse spelling = .ok tree' ∧ tree'.unplaced = tree.unplaced) ∧
        Pattern.canonical spelling = .ok spelling ∧
        (Expr.ofText spelling).toOption = (Expr.ofText text).toOption) ∧
      (tree.isVerbose = false → tree.legible false = true) := by
  refine ⟨tree.render, by rw [canonical, h]; rfl, ?_, Pattern.legible_of_parse h⟩
  intro hlegible
  obtain ⟨tree', hparse, hsame⟩ := exists_parse_render h hlegible
  refine ⟨⟨tree', hparse, hsame⟩, ?_, ?_⟩
  · have hrender : tree'.render = tree.render := by
      rw [← tree'.render_unplaced, hsame, tree.render_unplaced]
    rw [canonical, hparse, ← hrender]
    rfl
  · rw [Expr.ofText_of_parse hparse, Expr.ofText_of_parse h, ← tree'.meaning_unplaced, hsame,
      tree.meaning_unplaced]

/-- A verbose pattern with blanks and comments between its parts. -/
def commented : List Char :=
  "(?x) [ a - z && [^ a e ] ] {2, 3}  # letters\n | \\x{ 4 1 } (?-x: +?)".toList

/-- It is legible, so it is read again as it was. -/
theorem Pattern.canonical_faithful_commented :
    ∃ tree spelling, Pattern.parse commented = .ok tree ∧
      Pattern.canonical commented = .ok spelling ∧
      ∃ tree', Pattern.parse spelling = .ok tree' ∧ tree'.unplaced = tree.unplaced := by
  have hfacts : (Pattern.parse commented).toOption.map (·.legible false) = some true := by cbv
  obtain ⟨tree, htree, hlegible⟩ := exists_ok_of_map hfacts
  obtain ⟨spelling, hspelling, hread, _⟩ := canonical_faithful htree
  exact ⟨tree, spelling, htree, hspelling, (hread hlegible).1⟩

/-- **A blank that matters.** The repetition with an optional repetition around it is written as
one that is lazy, and finds less. -/
theorem Pattern.canonical_lazy :
    ∃ spelling e e', Pattern.canonical "(?x)xa+ ?".toList = .ok spelling ∧
      Expr.ofText "(?x)xa+ ?".toList = .ok e ∧ Expr.ofText spelling = .ok e' ∧
      (e.match? [] "xaa".toList).map Found.width = some 3 ∧
      (e'.match? [] "xaa".toList).map Found.width = some 2 := by
  have hfacts : ((Pattern.canonical "(?x)xa+ ?".toList).toOption.bind fun spelling =>
      (Expr.ofText "(?x)xa+ ?".toList).toOption.bind fun e =>
        (Expr.ofText spelling).toOption.map fun e' =>
          ((e.match? [] "xaa".toList).map Found.width, (e'.match? [] "xaa".toList).map Found.width))
      = some (some 3, some 2) := by cbv
  obtain ⟨spelling, hspelling, h⟩ := exists_ok_of_bind hfacts
  obtain ⟨e, he, h⟩ := exists_ok_of_bind h
  obtain ⟨e', he', h⟩ := exists_ok_of_map h
  rw [Prod.mk.injEq] at h
  exact ⟨spelling, e, e', hspelling, he, he', h⟩

end StatefulLexer.Regex
