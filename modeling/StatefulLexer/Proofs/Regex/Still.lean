/-
Expressions that take no character.

A repetition is simplified when what it repeats takes no character. Whether that is so can be
told from the parts of an expression, however they were put together: the way in which
sequences and choices are simplified makes no difference to it.

Main statements: `Expr.isStill_sequence`, `Expr.isStill_choice`, `Expr.isStill_repeated`.
-/
import StatefulLexer.Proofs.Regex.Settled
import StatefulLexer.Proofs.Text.Slice

set_option autoImplicit false

namespace StatefulLexer.Regex.Expr

/-- The greatest length of a match is zero. -/
def isStill (e : Expr) : Bool := e.greatestLength == some 0

theorem both_eq_zero {f : Nat → Nat → Nat} (hf : ∀ a b, f a b = 0 ↔ a = 0 ∧ b = 0)
    (x y : Option Nat) : (both f x y == some 0) = (x == some 0 && y == some 0) := by
  rw [Bool.eq_iff_iff, Bool.and_eq_true, beq_iff_eq, beq_iff_eq, beq_iff_eq]
  cases x with
  | none => exact iff_of_false nofun fun h => nomatch h.1
  | some a =>
    cases y with
    | none => exact iff_of_false nofun fun h => nomatch h.2
    | some b =>
      rw [both, Option.some.injEq, Option.some.injEq, Option.some.injEq]
      exact hf a b

theorem isStill_seq (first rest : Expr) :
    (seq first rest).isStill = (first.isStill && rest.isStill) :=
  both_eq_zero (fun _ _ => Nat.add_eq_zero_iff) _ _

theorem isStill_alt (first rest : Expr) :
    (alt first rest).isStill = (first.isStill && rest.isStill) :=
  both_eq_zero (fun _ _ => by omega) _ _

theorem isStill_literal (text : List Char) : (literal text).isStill = text.isEmpty := by
  rw [isStill, greatestLength, Bool.eq_iff_iff, beq_iff_eq, Option.some.injEq,
    byteSize_eq_zero_iff, List.isEmpty_iff]

/-- A set has a character, or none at all. -/
theorem isStill_set (s : CharSet) (unicode : Bool) : (set s unicode).isStill = false := by
  rw [isStill, greatestLength, CharSet.greatestSize, beq_eq_false_iff_ne]
  intro h
  obtain ⟨range, _, hsize⟩ := Option.map_eq_some_iff.1 h
  unfold CharSet.codeSize at hsize
  split at hsize
  · cases hsize
  · split at hsize
    · cases hsize
    · split at hsize <;> cases hsize

/-! ## Sequences -/

theorem isStill_factors (e : Expr) : e.factors.all isStill = e.isStill := by
  induction e with
  | empty => rfl
  | seq first rest _ ih => rw [factors, List.all_cons, ih, isStill_seq]
  | _ => exact Bool.and_true _

theorem isStill_ofFactors (es : List Expr) : (ofFactors es).isStill = es.all isStill := by
  fun_induction ofFactors es with
  | case1 => rfl
  | case2 e => exact (Bool.and_true _).symm
  | case3 e es hes ih => rw [isStill_seq, ih, List.all_cons]

theorem isStill_joinLiterals (es : List Expr) :
    (joinLiterals es).all isStill = es.all isStill := by
  fun_induction joinLiterals es with
  | case1 => rfl
  | case2 a es b rest hjoined ih =>
    have happend : (a ++ b).isEmpty = (a.isEmpty && b.isEmpty) := by cases a <;> rfl
    rw [hjoined, List.all_cons, isStill_literal] at ih
    rw [List.all_cons, List.all_cons, isStill_literal, isStill_literal, ← ih, happend,
      Bool.and_assoc]
  | case3 a es hjoined ih => rw [List.all_cons, List.all_cons, ih]
  | case4 e es he ih => rw [List.all_cons, List.all_cons, ih]

/-- **A sequence takes no character** if none of its members does. -/
theorem isStill_sequence (es : List Expr) : (sequence es).isStill = es.all isStill := by
  rw [sequence, isStill_ofFactors, isStill_joinLiterals, List.all_flatMap]
  exact congrArg (List.all es) (funext isStill_factors)

/-! ## Choices -/

theorem isStill_branches (e : Expr) : e.branches.all isStill = e.isStill := by
  induction e with
  | alt first rest _ ih => rw [branches, List.all_cons, ih, isStill_alt]
  | _ => exact Bool.and_true _

theorem isStill_ofBranches {es : List Expr} (hne : es ≠ []) :
    (ofBranches es).isStill = es.all isStill := by
  fun_induction ofBranches es with
  | case1 => exact absurd rfl hne
  | case2 e => exact (Bool.and_true _).symm
  | case3 e es hes ih => rw [isStill_alt, ih hes, List.all_cons]

theorem isStill_ofSet (s : CharSet) (unicode : Bool) : (ofSet s unicode).isStill = false := by
  unfold ofSet
  split
  · exact isStill_literal _
  · split
    · exact isStill_set _ _
    · exact isStill_set _ _

/-- What is merged from characters or sets takes one, and so does each of these. -/
theorem isStill_merged {es : List Expr} (hne : es ≠ []) {e : Expr} (h : merged? es = some e) :
    e.isStill = es.all isStill := by
  obtain ⟨first, more, rfl⟩ := List.exists_cons_of_ne_nil hne
  have hfirst {α : Type} {f : Expr → Option α} {as : List α} (has : (first :: more).mapM f = some as)
      (hf : ∀ a, f first = some a → first.isStill = false) :
      (first :: more).all isStill = false := by
    cases forall₂_of_mapM has with
    | cons ha _ => rw [List.all_cons, hf _ ha, Bool.false_and]
  unfold merged? at h
  split at h
  · rename_i cs hcs
    rw [← Option.some.inj h, isStill_ofSet]
    refine (hfirst hcs fun c hc => ?_).symm
    rw [eq_of_char? hc]
    exact isStill_literal _
  · obtain ⟨sets, hsets, rfl⟩ := Option.map_eq_some_iff.1 h
    rw [isStill_ofSet]
    refine (hfirst hsets fun s hs => ?_).symm
    obtain ⟨unicode, rfl⟩ := eq_of_set? hs
    exact isStill_set _ _

theorem isStill_choiceOf {es : List Expr} (hne : es ≠ []) :
    (choiceOf es).isStill = es.all isStill := by
  rw [choiceOf]
  cases h : merged? es with
  | some e => exact isStill_merged hne h
  | none => exact isStill_ofBranches hne

/-- What has a beginning drawn out takes no character if that does not, nor what is left. -/
theorem isStill_drawn {es start : List Expr} {rests : List (List Expr)} (hne : es ≠ [])
    (h : List.Forall₂ (fun e rest => e.factors = start ++ rest) es rests) :
    es.all isStill = (start.all isStill && rests.all (List.all · isStill)) := by
  have hall : es.all isStill = rests.all fun rest => start.all isStill && rest.all isStill := by
    clear hne
    induction h with
    | nil => rfl
    | cons he _ ih => rw [List.all_cons, List.all_cons, ih, ← isStill_factors, he, List.all_append]
  have hrests : rests ≠ [] := by
    rintro rfl
    cases h
    exact hne rfl
  rw [hall]
  cases start.all isStill with
  | true => rfl
  | false =>
    obtain ⟨rest, rests, rfl⟩ := List.exists_cons_of_ne_nil hrests
    rfl

/-- **A choice takes no character** if none of its branches does. -/
theorem isStill_choice {es : List Expr} (hne : es ≠ []) :
    (choice es).isStill = es.all isStill := by
  have hflat : (es.flatMap branches).all isStill = es.all isStill := by
    rw [List.all_flatMap]
    exact congrArg (List.all es) (funext isStill_branches)
  have hbranches_ne (e : Expr) : e.branches ≠ [] := by cases e <;> exact List.cons_ne_nil _ _
  have flat_ne {es : List Expr} (hne : es ≠ []) : es.flatMap branches ≠ [] := by
    obtain ⟨e, es, rfl⟩ := List.exists_cons_of_ne_nil hne
    rw [List.flatMap_cons]
    exact List.append_ne_nil_of_left_ne_nil (hbranches_ne e) _
  rw [← hflat, choice]
  have hne := flat_ne hne
  generalize es.flatMap branches = es at hne ⊢
  split
  · rename_i e he
    exact isStill_merged hne he
  · split
    · exact isStill_ofBranches hne
    · rename_i start rests hstart
      have hdrawn := forall₂_of_drawnOut? hstart
      have hrests : rests.map sequence ≠ [] := by
        intro hnil
        rw [List.map_eq_nil_iff.1 hnil] at hdrawn
        cases hdrawn
        exact hne rfl
      rw [isStill_sequence, List.all_append, List.all_cons, List.all_nil, Bool.and_true,
        isStill_choiceOf (flat_ne hrests), isStill_drawn hne hdrawn, List.all_flatMap]
      have hmembers : (rests.map sequence).all (fun e => e.branches.all isStill)
          = rests.all (List.all · isStill) := by
        rw [List.all_map]
        exact congrArg (List.all rests) (funext fun rest =>
          (isStill_branches _).trans (isStill_sequence rest))
      rw [hmembers]

/-! ## Repetitions -/

/-- **A repetition takes no character** if what it repeats does not. -/
theorem isStill_repeated (least : Nat) {most : Option Nat} (hmost : most ≠ some 0) (greedy : Bool)
    (e : Expr) : (repeated least most greedy e).isStill = e.isStill := by
  have hrep (least : Nat) {most : Option Nat} (hmost : most ≠ some 0) (he : e.isStill = false) :
      (rep least most greedy e).isStill = false := by
    rw [isStill, beq_eq_false_iff_ne] at he ⊢
    rw [greatestLength]
    cases hlength : e.greatestLength with
    | none => nofun
    | some n =>
      cases most with
      | none => nofun
      | some m =>
        rw [hlength] at he
        intro h
        rcases Nat.mul_eq_zero.1 (Option.some.inj h) with hzero | hzero
        · exact he (congrArg some hzero)
        · exact hmost (congrArg some hzero)
  rw [repeated]
  cases he : e.isStill with
  | true =>
    -- One round is as good as many, so what is left is that round, or none.
    have hlength : e.greatestLength = some 0 := beq_iff_eq.1 he
    have hone : (most.map (min · 1)).getD 1 = 1 := by
      cases most with
      | none => rfl
      | some m =>
        have hm : m ≠ 0 := fun h => hmost (congrArg some h)
        exact Nat.min_eq_right (Nat.one_le_iff_ne_zero.2 hm)
    rw [isStill] at he
    simp only [he, if_true, hone]
    split
    · rfl
    · split
      · exact he
      · rw [isStill, greatestLength, hlength]
        rfl
  | false =>
    have hkept := he
    rw [isStill] at he
    simp only [he, Bool.false_eq_true, if_false]
    split
    · rename_i hnone
      exact absurd hnone.2 hmost
    · split
      · exact hkept
      · exact hrep least hmost hkept

end StatefulLexer.Regex.Expr
