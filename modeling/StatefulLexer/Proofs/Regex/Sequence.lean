/-
Sequences.

A sequence is opened and its literals are joined when it is built. Neither makes a
difference: it is alike to its members, one on top of the other. Nor does it matter what the
members are, as long as they are alike themselves.

Main statements: `alike_sequence`, `Expr.Alike.sequence`, `Expr.Alike.repeated`.
-/
import Mathlib.Data.List.Forall2
import StatefulLexer.Proofs.Regex.Alike

set_option autoImplicit false

namespace StatefulLexer.Regex

/-! ## Rounds -/

/-- **Another round, or what is behind it.** Stacks that go on like this are alike if what another
round leads to is. -/
theorem AlikeWithin.again {length : Nat} {f f' : Frame} {k l l' : Stack} {greedy : Bool}
    (honce : Once (f :: k)) (honce' : Once (f' :: k)) (hmove : move (f :: k) = .again greedy l k)
    (hmove' : move (f' :: k) = .again greedy l' k) (h : AlikeWithin length l l') :
    AlikeWithin length (f :: k) (f' :: k) := by
  intro before place ahead hlength
  cases greedy with
  | true => rw [widthOf_fork honce hmove, widthOf_fork honce' hmove', h before place ahead hlength]
  | false => rw [widthOf_fork honce hmove, widthOf_fork honce' hmove', h before place ahead hlength]

/-! ## Characters -/

/-- What a stack finds behind the next character, if that is wanted. -/
def widthBehind (wanted : Char → Bool) (place : Nat) (k : Stack) : List Char → Option Nat
  | [] => none
  | c :: ahead => if wanted c then widthOf (some c) (place + 1) ahead k else none

/-- A stack that waits for a character finds what is left of it behind the next one. -/
theorem widthOf_consume {f : Frame} {k l : Stack} {wanted : Char → Bool}
    (hmove : move (f :: k) = .consume wanted l) (before : Option Char) (place : Nat)
    (ahead : List Char) :
    widthOf before place ahead (f :: k) = widthBehind wanted place l ahead := by
  rw [widthOf, run_waits before place ahead rfl hmove]
  cases ahead with
  | nil =>
    rw [outcome_nil place rfl]
    rfl
  | cons c ahead =>
    rw [outcome_cons place c ahead rfl, Thread.take?, hmove, widthBehind]
    dsimp only
    split <;> rfl

/-- A literal is its characters. -/
theorem alike_literal_append (text more : List Char) {k : Stack} (hk : Loopless k) :
    Alike (.expr (.literal (text ++ more)) :: k)
      (.expr (.literal text) :: .expr (.literal more) :: k) := by
  induction text with
  | nil => exact (Alike.become rfl (.cons rfl hk) rfl).symm
  | cons c text ih =>
    intro before place ahead
    rw [List.cons_append, widthOf_consume rfl, widthOf_consume rfl]
    cases ahead with
    | nil => rfl
    | cons d ahead => rw [widthBehind, widthBehind, ih]

/-! ## Members -/

/-- A sequence is its members. -/
theorem alike_factors (e : Expr) {k : Stack} (hk : Loopless k) :
    Alike (.expr e :: k) (e.factors.map .expr ++ k) := by
  induction e with
  | empty => exact .empty hk
  | seq first rest _ ih =>
    have hrest : Alike ([.expr first] ++ .expr rest :: k)
        ([.expr first] ++ (rest.factors.map .expr ++ k)) :=
      ih.below (.cons rfl hk) ((Loopless.exprs _).append hk) [.expr first]
    exact (Alike.seq first rest hk).trans hrest
  | _ => exact .refl _

/-- Members as a sequence are the members. -/
theorem alike_ofFactors (es : List Expr) {k : Stack} (hk : Loopless k) :
    Alike (.expr (Expr.ofFactors es) :: k) (es.map .expr ++ k) := by
  fun_induction Expr.ofFactors es with
  | case1 => exact .empty hk
  | case2 e => exact .refl _
  | case3 e es hes ih =>
    have hrest : Alike ([.expr e] ++ .expr (Expr.ofFactors es) :: k)
        ([.expr e] ++ (es.map .expr ++ k)) :=
      ih.below (.cons rfl hk) ((Loopless.exprs _).append hk) [.expr e]
    exact (Alike.seq e _ hk).trans hrest

/-- It does not matter whether literals are joined. -/
theorem alike_joinLiterals (es : List Expr) {k : Stack} (hk : Loopless k) :
    Alike ((Expr.joinLiterals es).map .expr ++ k) (es.map .expr ++ k) := by
  have behind {e : Expr} {es es' : List Expr}
      (h : Alike (es'.map .expr ++ k) (es.map .expr ++ k)) :
      Alike ((e :: es').map .expr ++ k) ((e :: es).map .expr ++ k) :=
    h.below ((Loopless.exprs _).append hk) ((Loopless.exprs _).append hk) [.expr e]
  fun_induction Expr.joinLiterals es with
  | case1 => exact .refl _
  | case2 a es b rest hjoined ih =>
    rw [hjoined] at ih
    have hsplit := alike_literal_append a b ((Loopless.exprs rest).append hk)
    exact hsplit.trans (behind ih)
  | case3 a es hjoined ih => exact behind ih
  | case4 e es he ih => exact behind ih

/-- Nor whether sequences are opened. -/
theorem alike_flatMap_factors (es : List Expr) {k : Stack} (hk : Loopless k) :
    Alike ((es.flatMap Expr.factors).map .expr ++ k) (es.map .expr ++ k) := by
  induction es with
  | nil => exact .refl _
  | cons e es ih =>
    have hrest := ih.below ((Loopless.exprs _).append hk) ((Loopless.exprs _).append hk)
      (e.factors.map .expr)
    rw [List.flatMap_cons, List.map_append, List.append_assoc]
    exact hrest.trans (alike_factors e ((Loopless.exprs es).append hk)).symm

/-- **A sequence is what it was built from.** -/
theorem alike_sequence (es : List Expr) {k : Stack} (hk : Loopless k) :
    Alike (.expr (Expr.sequence es) :: k) (es.map .expr ++ k) := by
  have hbuilt : Alike (.expr (Expr.sequence es) :: k)
      ((Expr.joinLiterals (es.flatMap Expr.factors)).map .expr ++ k) := alike_ofFactors _ hk
  exact hbuilt.trans ((alike_joinLiterals _ hk).trans (alike_flatMap_factors es hk))

/-! ## Expressions that are alike -/

/-- **Two expressions are alike** if they are on top of anything without loops. -/
def Expr.Alike (e e' : Expr) : Prop :=
  ∀ {k : Stack}, Loopless k → Regex.Alike (.expr e :: k) (.expr e' :: k)

namespace Expr.Alike

theorem refl (e : Expr) : e.Alike e := fun _ => .refl _

theorem symm {e e' : Expr} (h : e.Alike e') : e'.Alike e := fun hk => (h hk).symm

theorem trans {e e' e'' : Expr} (h : e.Alike e') (h' : e'.Alike e'') : e.Alike e'' :=
  fun hk => (h hk).trans (h' hk)

/-- On top of stacks that are alike they are alike. -/
theorem onto {e e' : Expr} (h : e.Alike e') {k l : Stack} (hk : Loopless k) (hl : Loopless l)
    (hkl : Regex.Alike k l) : Regex.Alike (.expr e :: k) (.expr e' :: l) :=
  (hkl.below hk hl [.expr e]).trans (h hl)

/-- They find matches of the same width. -/
theorem width_match? {e e' : Expr} (h : e.Alike e') (behind ahead : List Char) :
    (e.match? behind ahead).map Found.width = (e'.match? behind ahead).map Found.width :=
  h Loopless.nil behind.head? 0 ahead

/-- Members that are alike, one by one. -/
theorem members {es es' : List Expr} (h : List.Forall₂ Expr.Alike es es') {k : Stack}
    (hk : Loopless k) : Regex.Alike (es.map .expr ++ k) (es'.map .expr ++ k) := by
  induction h with
  | nil => exact .refl _
  | cons he _ ih => exact he.onto ((Loopless.exprs _).append hk) ((Loopless.exprs _).append hk) ih

/-- **Sequences of members that are alike** are alike. -/
theorem sequence {es es' : List Expr} (h : List.Forall₂ Expr.Alike es es') :
    (Expr.sequence es).Alike (Expr.sequence es') :=
  fun hk => (alike_sequence es hk).trans ((members h hk).trans (alike_sequence es' hk).symm)

/-- A capture group is what it encloses. -/
theorem capture (index : Nat) (e : Expr) : (Expr.capture index e).Alike e :=
  fun hk => .capture index e hk

/-- Repetitions up to a number of rounds are alike if their rounds are. -/
theorem upTo {e e' : Expr} (h : e.Alike e') (greedy : Bool) (most : Nat) :
    (Expr.rep 0 (some most) greedy e).Alike (.rep 0 (some most) greedy e') := by
  induction most with
  | zero =>
    intro k hk
    have hover (e : Expr) : Regex.Alike (.expr (.rep 0 (some 0) greedy e) :: k) k :=
      .become rfl hk rfl
    exact (hover e).trans (hover e').symm
  | succ most ih =>
    intro k hk
    have hround := h.onto (.cons rfl hk) (.cons rfl hk) (ih hk)
    exact .of_within fun length => .again (.of_loopless (.cons rfl hk))
      (.of_loopless (.cons rfl hk)) rfl rfl (hround.within length)

/-- **Repetitions with a greatest number of rounds** are alike if their rounds are. -/
theorem rep {e e' : Expr} (h : e.Alike e') (least most : Nat) (greedy : Bool) :
    (Expr.rep least (some most) greedy e).Alike (.rep least (some most) greedy e') := by
  induction least generalizing most with
  | zero => exact h.upTo greedy most
  | succ least ih =>
    intro k hk
    have hround (e : Expr) : Regex.Alike (.expr (.rep (least + 1) (some most) greedy e) :: k)
        (.expr e :: .expr (.rep least (some (most - 1)) greedy e) :: k) := by
      refine .become rfl hk ?_
      rw [move, Option.map_some, Frame.more, if_neg (by simp)]
    have hmore := ih (most - 1) hk
    exact (hround e).trans ((h.onto (.cons rfl hk) (.cons rfl hk) hmore).trans (hround e').symm)

end Expr.Alike

end StatefulLexer.Regex
