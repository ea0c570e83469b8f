/-
Choices between texts.

A choice between texts is not always built as one: texts of a single character
become a set. Either way it finds the first text, in the order given, that comes
next.

Main statement: `match?_choice_verbatim`.
-/
import StatefulLexer.Proofs.Regex.Choice
import StatefulLexer.Proofs.Unicode.CharSet

set_option autoImplicit false

namespace StatefulLexer.Regex

/-! ## Texts as expressions -/

/-- The expression of a text: its characters joined, or the empty expression. -/
def Expr.verbatim (text : List Char) : Expr := if text = [] then .empty else .literal text

/-- A text finds itself. -/
theorem match?_verbatim (text behind ahead : List Char) :
    (Expr.verbatim text).match? behind ahead
      = if text.isPrefixOf ahead then some ⟨text.length, []⟩ else none := by
  unfold Expr.verbatim
  split
  · rename_i h
    rw [match?_empty, h]
    rfl
  · exact match?_literal text behind ahead

/-- What a choice between texts finds: the first of them that comes next. -/
def foundAmong (texts : List (List Char)) (ahead : List Char) : Option Found :=
  (texts.find? (·.isPrefixOf ahead)).map fun text => ⟨text.length, []⟩

/-- Texts that are tried one after the other find the first that comes next. -/
theorem findSome?_verbatim (texts : List (List Char)) (behind ahead : List Char) :
    (texts.map Expr.verbatim).findSome? (·.match? behind ahead) = foundAmong texts ahead := by
  induction texts with
  | nil => rfl
  | cons text texts ih =>
    rw [List.map_cons, List.findSome?_cons, match?_verbatim, foundAmong, List.find?_cons]
    cases text.isPrefixOf ahead with
    | true => rfl
    | false => exact ih

/-! ## Sets -/

/-- A text of one character comes next if the next character is that one. -/
theorem isPrefixOf_singleton (c d : Char) (ahead : List Char) :
    [c].isPrefixOf (d :: ahead) = (c == d) := by
  rw [List.isPrefixOf, List.isPrefixOf, Bool.and_true]

/-- Whether a set of characters is kept as a set, as a literal, or as the expression
that never matches: one of its characters is found. -/
theorem match?_ofSet_ofList (cs : List Char) (unicode : Bool) (behind ahead : List Char) :
    (Expr.ofSet (CharSet.ofList cs) unicode).match? behind ahead
      = if ahead.head?.any cs.contains then some ⟨1, []⟩ else none := by
  have hset : ∀ c, (CharSet.ofList cs).contains c = cs.contains c := CharSet.contains_ofList cs
  have hany : ahead.head?.any (CharSet.ofList cs).contains = ahead.head?.any cs.contains :=
    congrArg (Option.any · ahead.head?) (funext hset)
  rw [← hany]
  -- A set of one character is kept as a literal, and one of none never matches.
  unfold Expr.ofSet
  split
  · rename_i d hd
    have hone : cs.contains = fun c => c == d := funext (CharSet.contains_of_only? hd)
    rw [match?_literal, hany, hone]
    cases ahead with
    | nil => rfl
    | cons c ahead =>
      rw [isPrefixOf_singleton, BEq.comm]
      rfl
  · split
    · rename_i hempty
      have hnone : (CharSet.ofList cs).contains = fun _ => false := by
        funext c
        rw [CharSet.contains, CharSet.containsCode, List.isEmpty_iff.1 hempty]
        rfl
      rw [match?_fail, hnone]
      cases ahead <;> rfl
    · exact match?_set _ unicode behind ahead

/-- Texts of a single character find the next character if it is listed. -/
theorem foundAmong_singletons (cs : List Char) (ahead : List Char) :
    foundAmong (cs.map fun c => [c]) ahead
      = if ahead.head?.any cs.contains then some ⟨1, []⟩ else none := by
  induction cs with
  | nil => cases ahead <;> rfl
  | cons c cs ih =>
    rw [foundAmong, List.map_cons, List.find?_cons]
    cases ahead with
    | nil =>
      have hnone : ([c] : List Char).isPrefixOf [] = false := rfl
      rw [hnone]
      exact ih
    | cons d ahead =>
      by_cases hd : c = d
      · rw [isPrefixOf_singleton, if_pos (by simp [hd]), beq_iff_eq.2 hd]
        rfl
      · have hany : (d :: ahead).head?.any (c :: cs).contains
            = (d :: ahead).head?.any cs.contains := by simp [Ne.symm hd]
        rw [isPrefixOf_singleton, beq_false_of_ne hd, hany]
        exact ih

/-! ## Choices between texts -/

/-- The branches of a choice between texts are those texts. -/
theorem flatMap_branches_verbatim (texts : List (List Char)) :
    (texts.map Expr.verbatim).flatMap Expr.branches = texts.map Expr.verbatim := by
  induction texts with
  | nil => rfl
  | cons text texts ih =>
    have hbranches : (Expr.verbatim text).branches = [Expr.verbatim text] := by
      unfold Expr.verbatim
      split <;> rfl
    rw [List.map_cons, List.flatMap_cons, ih, hbranches]
    rfl

/-- If all texts are taken for characters, each is a single one. -/
theorem eq_singletons_of_mapM_char? {texts : List (List Char)} {cs : List Char}
    (h : (texts.map Expr.verbatim).mapM Expr.char? = some cs) : texts = cs.map fun c => [c] := by
  induction texts generalizing cs with
  | nil =>
    cases h
    rfl
  | cons text texts ih =>
    rw [List.map_cons, List.mapM_cons] at h
    obtain ⟨c, hc, h⟩ := Option.bind_eq_some_iff.1 h
    obtain ⟨cs', hcs', h⟩ := Option.bind_eq_some_iff.1 h
    cases h
    have htext : text = [c] := by
      unfold Expr.verbatim at hc
      split at hc
      · cases hc
      · unfold Expr.char? at hc
        split at hc
        · rename_i heq
          cases heq
          cases hc
          rfl
        · cases hc
    rw [ih hcs', htext, List.map_cons]

/-- No text is a set, or a sequence. -/
theorem mapM_verbatim_eq_none {β : Type} {f : Expr → Option β}
    (hf : ∀ text, f (Expr.verbatim text) = none) {texts : List (List Char)} (hne : texts ≠ []) :
    (texts.map Expr.verbatim).mapM f = none := by
  cases texts with
  | nil => exact absurd rfl hne
  | cons text texts =>
    rw [List.map_cons, List.mapM_cons, hf]
    rfl

/-- **A choice between texts** finds the first of them that comes next. -/
theorem match?_choice_verbatim {texts : List (List Char)} (hne : texts ≠ [])
    (behind ahead : List Char) :
    (Expr.choice (texts.map Expr.verbatim)).match? behind ahead = foundAmong texts ahead := by
  have hset : (texts.map Expr.verbatim).mapM Expr.set? = none :=
    mapM_verbatim_eq_none (fun text => by unfold Expr.verbatim; split <;> rfl) hne
  have hfactors : (texts.map Expr.verbatim).mapM Expr.factors? = none :=
    mapM_verbatim_eq_none (fun text => by unfold Expr.verbatim; split <;> rfl) hne
  -- Texts of one character become a set, and no other choice is simplified.
  rw [Expr.choice, flatMap_branches_verbatim, Expr.merged?, Expr.drawnOut?, hset, hfactors]
  cases hchars : (texts.map Expr.verbatim).mapM Expr.char? with
  | some cs =>
    rw [eq_singletons_of_mapM_char? hchars, foundAmong_singletons]
    exact match?_ofSet_ofList cs true behind ahead
  | none =>
    dsimp only [Option.map_none]
    rw [match?_ofBranches, findSome?_verbatim]

end StatefulLexer.Regex
