/-
Repetitions without a greatest number of rounds.

If no round of a repetition can match the empty text, a loop of such rounds is come to once at
each place. It cannot have more rounds than the text has characters, so it finds what a
repetition finds that stops after so many, and such repetitions are known to be alike if their
rounds are.

Where rounds may match nothing this fails. A loop that comes back to itself is dropped, and which
of the stacks it leads to were met by then depends on how a round is put together, even if all
that a round finds on its own is the same.

Main statements: `Expr.Alike.unbounded`, `Expr.Alike.rounds_of_nothing`.
-/
import StatefulLexer.Proofs.Regex.Sequence

set_option autoImplicit false

namespace StatefulLexer.Regex

/-! ## Matches of the empty text -/

/-- Nothing is found over a stopper. -/
theorem widthOf_stopper (before : Option Char) (place : Nat) (ahead : List Char) (front : Stack) :
    widthOf before place ahead (front ++ stopper) = none := by
  rw [widthOf, Option.map_eq_none_iff]
  cases hrun : run before place ahead [{ stack := front ++ stopper }] none with
  | none => rfl
  | some found =>
    -- The stopper stays at the bottom, so nothing is ever done.
    have hover : ∃ t : Thread, (∃ front, t.stack = front ++ stopper) ∧ t.isDone = true ∧
        found.captures = t.captures := by
      refine exists_of_run (P := fun _ t => ∃ front, t.stack = front ++ stopper) ?_ ?_ ?_ hrun
      · rintro g t ⟨front, hstack⟩ u hu
        by_cases hfront : front = []
        · rw [hstack, hfront] at hu
          cases hu
        · exact exists_stack_of_followed hstack hfront u hu
      · rintro place c t u ⟨front, hstack⟩ hu
        by_cases hfront : front = []
        · rw [Thread.take?, hstack, hfront] at hu
          cases hu
        · exact exists_stack_of_take? hstack hfront hu
      · exact fun t ht => ⟨front, by rw [List.mem_singleton.1 ht]⟩
    obtain ⟨t, ⟨front, hstack⟩, hdone, _⟩ := hover
    rw [Thread.isDone, hstack] at hdone
    exact absurd (List.isEmpty_iff.1 hdone)
      (List.append_ne_nil_of_right_ne_nil _ (List.cons_ne_nil _ _))

/-- **Whether the empty text can be matched** shows in what is found in a text of the next
character alone, if that is to be taken by what is below. -/
theorem nullable_eq_isSome (e : Expr) (before behind : Option Char) :
    e.nullable before behind
      = (widthOf before 0 behind.toList [.expr e, .expr (.literal behind.toList)]).isSome := by
  have hhead : behind.toList.head? = behind := by cases behind <;> rfl
  have hloopless : Loopless [.expr (.literal behind.toList)] := .cons rfl .nil
  cases hnull : e.nullable before behind with
  | true =>
    rw [widthOf, Option.isSome_map]
    refine (isSome_run_of_nullable (hhead.symm ▸ hnull) ?_).symm
    rw [run_literal, if_pos (List.isPrefixOf_iff_prefix.2 (List.prefix_refl _))]
    rfl
  | false =>
    -- Nothing is left for what is below, so it might as well be a stopper.
    have hstopped : widthOf before 0 behind.toList ([.expr e] ++ [.expr (.literal behind.toList)])
        = widthOf before 0 behind.toList ([.expr e] ++ stopper) := by
      refine widthOf_below (.of_loopless hloopless) (.of_loopless (.cons rfl .nil)) ?_ ?_
      · intro h
        rw [hhead, Stack.nullable_cons, Frame.nullable, hnull] at h
        cases h
      · intro c rest hcons front
        obtain rfl : behind = some c := by rw [← hhead, hcons]; rfl
        obtain rfl : rest = [] := (List.cons.inj hcons).2.symm
        have hend : AlikeWithin 1 [.expr (.literal [c])] stopper := by
          intro before place ahead hlength
          rw [List.length_eq_zero_iff.1 (Nat.lt_one_iff.1 hlength), stopper, widthOf_consume rfl,
            widthOf_consume rfl]
          rfl
        exact hend.below (.of_loopless hloopless) (.of_loopless (.cons rfl .nil)) front (some c) 1 []
          Nat.zero_lt_one
    have hnone := hstopped.trans (widthOf_stopper _ _ _ _)
    rw [List.singleton_append] at hnone
    rw [hnone]
    rfl

/-- **The expression takes a character** wherever it matches. -/
def Expr.Takes (e : Expr) : Prop := ∀ before behind, e.nullable before behind = false

/-- So it does if its least length is known not to be zero. -/
theorem Expr.takes_of_leastLength {e : Expr} {n : Nat} (h : e.leastLength = some n)
    (hn : 0 < n) : e.Takes := by
  intro before behind
  refine Bool.eq_false_iff.2 fun hnull => ?_
  rw [leastLength_of_nullable hnull h] at hn
  exact Nat.lt_irrefl _ hn

/-- Expressions that are alike match the empty text alike. -/
theorem Expr.Alike.takes {e e' : Expr} (h : e.Alike e') (he : e.Takes) : e'.Takes := by
  intro before behind
  rw [nullable_eq_isSome, ← h (.cons rfl .nil), ← nullable_eq_isSome]
  exact he before behind

/-! ## Loops -/

section

variable {e e' : Expr} {greedy : Bool} {k : Stack}

/-- **A loop of rounds that take a character** is come to once. -/
theorem Once.loop (he : e.Takes) (greedy : Bool) (hk : Loopless k) :
    Once (.loop greedy e :: k) := by
  intro g
  -- What lies behind is below the loop, or above it in a round that has to take a character.
  refine ⟨fun q => Below (.loop greedy e :: k) q ∨ ∃ front, q = front ++ .loop greedy e :: k ∧
    Stack.nullable g.before g.behind front = false, ?_, ?_, ?_⟩
  · rintro t (hbelow | ⟨front, hstack, hnull⟩) u hu
    · exact .inl (Below.closed hk g t hbelow u hu)
    · have hfront : front ≠ [] := by
        rintro rfl
        cases hnull
      rw [t.eq_onto hstack, followed_onto hfront] at hu
      obtain ⟨v, hv, rfl⟩ := List.mem_map.1 hu
      refine .inr ⟨v.stack, rfl, Bool.eq_false_iff.2 fun h => ?_⟩
      have hself : Stack.nullable g.before g.behind front = true := nullable_of_followed hv h
      rw [hnull] at hself
      cases hself
  · rintro (hbelow | ⟨front, hstack, hnull⟩)
    · exact hbelow.not_suffix (List.suffix_refl _)
    · rw [List.append_left_eq_self.1 hstack.symm] at hnull
      cases hnull
  · intro t ht u hu
    have hround : Stack.nullable g.before g.behind [.expr e] = false := by
      rw [Stack.nullable_cons, Frame.nullable, he]
      rfl
    rw [ht, move] at hu
    cases greedy with
    | true =>
      rcases List.mem_cons.1 hu with rfl | hu
      · exact .inr ⟨[.expr e], rfl, hround⟩
      · rw [List.mem_singleton.1 hu]
        exact .inl (.rest _ _)
    | false =>
      rcases List.mem_cons.1 hu with rfl | hu
      · exact .inl (.rest _ _)
      · rw [List.mem_singleton.1 hu]
        exact .inr ⟨[.expr e], rfl, hround⟩

/-- **In a text of fewer characters** than a number, a loop finds what a repetition of at most
so many rounds does. -/
theorem AlikeWithin.loop (he : e.Takes) (greedy : Bool) (hk : Loopless k) (length : Nat) :
    AlikeWithin length (.loop greedy e :: k) (.expr (.rep 0 (some length) greedy e) :: k) := by
  induction length with
  | zero => exact fun _ _ _ h => absurd h (Nat.not_lt_zero _)
  | succ length ih =>
    have hround := ih.behind (.loop he greedy hk) (.of_loopless (.cons rfl hk)) [.expr e]
      fun before behind => by
        rw [Stack.nullable_cons, Frame.nullable, he]
        rfl
    exact .again (.loop he greedy hk) (.of_loopless (.cons rfl hk)) rfl rfl hround

namespace Expr.Alike

/-- Loops of rounds that are alike are alike, if the rounds take a character. -/
theorem loop (h : e.Alike e') (he : e.Takes) (greedy : Bool) (hk : Loopless k) :
    Regex.Alike (.loop greedy e :: k) (.loop greedy e' :: k) :=
  .of_within fun length => (AlikeWithin.loop he greedy hk length).trans
    (((h.upTo greedy length hk).within length).trans (.symm (.loop (h.takes he) greedy hk length)))

/-- On top of a loop of rounds that take a character, expressions that are alike are alike. -/
theorem onto_loop {round : Expr} (h : e.Alike e') (hround : round.Takes) (greedy : Bool)
    (hk : Loopless k) :
    Regex.Alike (.expr e :: .loop greedy round :: k) (.expr e' :: .loop greedy round :: k) := by
  refine .of_within fun length => ?_
  have hloop (e : Expr) : AlikeWithin length (.expr e :: .loop greedy round :: k)
      (.expr e :: .expr (.rep 0 (some length) greedy round) :: k) :=
    (AlikeWithin.loop hround greedy hk length).below (.loop hround greedy hk)
      (.of_loopless (.cons rfl hk)) [.expr e]
  exact (hloop e).trans (((h (.cons rfl hk)).within length).trans (hloop e').symm)

/-- A repetition without obligatory rounds is a loop from the start. -/
theorem star (he : e.Takes) (greedy : Bool) (hk : Loopless k) :
    Regex.Alike (.expr (.rep 0 none greedy e) :: k) (.loop greedy e :: k) := by
  by_cases hlength : e.leastLength.getD 0 = 0
  · have hmove : move (.expr (.rep 0 none greedy e) :: k)
        = .again greedy (.expr e :: .loop greedy e :: k) k := by rw [move, if_pos hlength]
    exact .of_within fun length => .again (.of_loopless (.cons rfl hk)) (.loop he greedy hk) hmove
      rfl ((Regex.Alike.refl _).within length)
  · exact .become rfl hk (by rw [move, if_neg hlength])

/-- **Repetitions without a greatest number of rounds** are alike if their rounds are, and take a
character. -/
theorem unbounded (h : e.Alike e') (he : e.Takes) (least : Nat) (greedy : Bool) :
    (Expr.rep least none greedy e).Alike (.rep least none greedy e') := by
  have he' := h.takes he
  induction least with
  | zero =>
    intro k hk
    exact (star he greedy hk).trans ((h.loop he greedy hk).trans (star he' greedy hk).symm)
  | succ least ih =>
    intro k hk
    have hround (e : Expr) : Regex.Alike (.expr (.rep (least + 1) none greedy e) :: k)
        (.expr e :: .more least none greedy e :: k) := .become rfl hk rfl
    refine (hround e).trans (.trans ?_ (hround e').symm)
    by_cases hleast : least = 0
    · rw [Frame.more, Frame.more, if_pos ⟨hleast, rfl⟩, if_pos ⟨hleast, rfl⟩]
      have hloops := (h.loop he greedy hk).within
      exact (h.onto_loop he greedy hk).trans (.of_within fun length =>
        (hloops length).below (.loop he greedy hk) (.loop he' greedy hk) [.expr e'])
    · rw [Frame.more, Frame.more, if_neg fun h => hleast h.1, if_neg fun h => hleast h.1]
      exact h.onto (.cons rfl hk) (.cons rfl hk) (ih hk)

end Expr.Alike

end

/-! ## Rounds that match nothing -/

/-- As few of the letter `b` as will do. -/
def Expr.few : Expr := .rep 0 none false (.literal ['b'])

/-- Any number of rounds, and then the middle of a word. -/
def Expr.inWord (round : Expr) : Expr := .seq (.rep 0 none true round) (.look (.word .notBoundary false))

/-- **Rounds that are alike do not make repetitions alike** if they may match nothing. A round that
has the choice between the same twice finds what it finds without it, but a repetition of it
goes on further: the first choice comes back to the loop in vain, and the second to a stack
that was not met. -/
theorem Expr.Alike.rounds_of_nothing :
    few.Alike (.alt few few) ∧
      ((inWord few).match? [] "bbb".toList).map Found.width = some 1 ∧
      ((inWord (.alt few few)).match? [] "bbb".toList).map Found.width = some 2 := by
  refine ⟨fun hk before place ahead => ?_, by decide +kernel, by decide +kernel⟩
  rw [widthOf_alt few few hk, Option.or_self]

end StatefulLexer.Regex
