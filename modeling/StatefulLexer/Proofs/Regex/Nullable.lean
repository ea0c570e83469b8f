/-
Matches of the empty text.

Whether an expression can match the empty text at a place is read off the
expression and the two characters around the place, for no character is taken.
Here that reading is shown to be exact as far as it can be: a match that takes
nothing needs it, and where it holds there is a match, if only a longer one that is
preferred. At the end of a text there is nothing longer, so there it is exact.

The least length of an expression is another reading. Where it is known the two
agree. It is not known for an expression with a part that never matches, also where
that part can be left out, and so it misses matches of the empty text.

Main statements: `Expr.nullable_of_match?`, `Expr.isSome_match?_of_nullable`,
`Expr.leastLength_of_nullable`.
-/
import StatefulLexer.Proofs.Regex.Search

set_option autoImplicit false

namespace StatefulLexer.Regex

/-! ## Reading it off -/

/-- **The expression can match the empty text** between two characters. -/
def Expr.nullable (before behind : Option Char) : Expr → Bool
  | empty => true
  | literal text => text.isEmpty
  | set _ _ => false
  | look l => l.holds before behind
  | rep least _ _ sub => least == 0 || sub.nullable before behind
  | capture _ sub => sub.nullable before behind
  | seq first rest => first.nullable before behind && rest.nullable before behind
  | alt first rest => first.nullable before behind || rest.nullable before behind

/-- The frame can be gone through without taking a character. -/
def Frame.nullable (before behind : Option Char) : Frame → Bool
  | expr e => e.nullable before behind
  | loop _ _ => true
  | join _ => true
  | close _ => true

/-- All of what is left can be gone through without taking a character. -/
def Stack.nullable (before behind : Option Char) (k : Stack) : Bool :=
  k.all (Frame.nullable before behind)

/-- So can what the move leads to. -/
def Move.nullable (before behind : Option Char) : Move → Bool
  | done => true
  | consume _ _ => false
  | become k => Stack.nullable before behind k
  | check l k => l.holds before behind && Stack.nullable before behind k
  | opened _ k => Stack.nullable before behind k
  | closed _ k => Stack.nullable before behind k
  | fork a b => Stack.nullable before behind a || Stack.nullable before behind b

section

variable {before behind : Option Char}

@[simp] theorem Stack.nullable_cons (f : Frame) (k : Stack) :
    Stack.nullable before behind (f :: k)
      = (f.nullable before behind && Stack.nullable before behind k) := rfl

@[simp] theorem Move.nullable_again (greedy : Bool) (round behind' : Stack) :
    (Move.again greedy round behind').nullable before behind
      = (Stack.nullable before behind round || Stack.nullable before behind behind') := by
  unfold again
  split
  · rfl
  · exact Bool.or_comm _ _

/-- What is left of a repetition can be left out if no round is obligatory, or if its
rounds can be empty. -/
@[simp] theorem Frame.nullable_more (least : Nat) (most : Option Nat) (greedy : Bool) (e : Expr) :
    (Frame.more least most greedy e).nullable before behind
      = (least == 0 || e.nullable before behind) := by
  unfold more
  split
  · rename_i h
    rw [h.1]
    rfl
  · rfl

/-- **A move leads through without a character** exactly if the stack can be gone
through without one. -/
theorem nullable_move (k : Stack) :
    (move k).nullable before behind = Stack.nullable before behind k := by
  fun_cases move k with
  | case1 => rfl
  -- Another round of a loop leads back to the loop, and what is behind it is reached anyway.
  | case4 | case14 | case15 =>
    rw [Move.nullable_again]
    simp [Frame.nullable, Expr.nullable]
  | case17 least most greedy e k =>
    rw [Move.nullable, Stack.nullable_cons, Stack.nullable_cons, Frame.nullable_more]
    simp only [Stack.nullable_cons, Frame.nullable, Expr.nullable]
    cases e.nullable before behind <;> simp
  | _ => simp [Move.nullable, Frame.nullable, Expr.nullable, Bool.and_or_distrib_right,
      Bool.and_assoc]

/-- A thread that goes on without a character, and has none to take, comes from one that
has none to take. -/
theorem nullable_of_followed {place : Nat} {t u : Thread}
    (hu : u ∈ (move t.stack).followed ⟨before, behind, place⟩ t)
    (hnull : Stack.nullable before behind u.stack = true) :
    Stack.nullable before behind t.stack = true := by
  rw [← nullable_move]
  cases hm : move t.stack with
  | done => rfl
  | consume wanted k =>
    rw [hm] at hu
    cases hu
  | check l k =>
    rw [hm, Move.followed] at hu
    split at hu
    · rename_i hl
      rw [List.mem_singleton.1 hu] at hnull
      exact Bool.and_eq_true_iff.2 ⟨hl, hnull⟩
    · cases hu
  | fork a b =>
    rw [hm] at hu
    apply Bool.or_eq_true_iff.2
    rcases List.mem_cons.1 hu with rfl | hu
    · exact .inl hnull
    · rw [List.mem_singleton.1 hu] at hnull
      exact .inr hnull
  | _ =>
    rw [hm] at hu
    rw [List.mem_singleton.1 hu] at hnull
    exact hnull

end

/-! ## A match that takes nothing -/

/-- **A match that takes no character** is of an expression that can match the empty text
there. -/
theorem Expr.nullable_of_match? {e : Expr} {behind ahead : List Char} {found : Found}
    (h : e.match? behind ahead = some found) (hwidth : found.width = 0) :
    e.nullable behind.head? ahead.head? = true := by
  obtain ⟨t, ht, hdone⟩ := exists_isDone_of_run h hwidth
  refine Classical.byContradiction fun hnot => ?_
  -- If nothing can be matched without a character, no thread of the round is done.
  have hstart : ∀ u ∈ [({ stack := [.expr e] } : Thread)],
      ¬Stack.nullable behind.head? ahead.head? u.stack = true := by
    intro u hu
    rw [List.mem_singleton.1 hu]
    simpa [Stack.nullable, Frame.nullable] using hnot
  have hkept := forall_round
    (P := fun t => ¬Stack.nullable behind.head? ahead.head? t.stack = true)
    (fun t ht u hu hnull => ht (nullable_of_followed hu hnull)) hstart t ht
  apply hkept
  rw [List.isEmpty_iff.1 hdone]
  rfl

/-! ## Where there is a match -/

namespace Barren

variable {g : Gap} {out : Outcome} {inside : Stack → Prop} {k : Stack}

/-- A move without a character does not lead out of barren stacks. -/
theorem of_move (h : Barren g out inside) {q q' : Stack} (hq : inside q)
    (hmove : ∃ u ∈ (move q).followed g { stack := q }, u.stack = q') : inside q' := by
  obtain ⟨u, hu, hstack⟩ := hmove
  rw [← hstack]
  exact h.followed { stack := q } hq u hu

/-- Nor does the way out of a loop. -/
theorem of_loop (h : Barren g out inside) {greedy : Bool} {e : Expr}
    (hk : inside (.loop greedy e :: k)) : inside k := by
  apply h.of_move hk
  cases greedy <;> simp [move, Move.again, Move.followed, Thread.withStack]

/-- Without obligatory rounds there is a way behind a repetition at once. -/
theorem of_optional (h : Barren g out inside) {most : Option Nat} {greedy : Bool} {e : Expr}
    (hk : inside (.expr (.rep 0 most greedy e) :: k)) : inside k := by
  match most with
  | some 0 => exact h.of_move hk (by simp [move, Move.followed, Thread.withStack])
  | some (most + 1) =>
    apply h.of_move hk
    cases greedy <;> simp [move, Move.again, Move.followed, Thread.withStack]
  | none =>
    by_cases hlength : e.leastLength.getD 0 = 0
    · apply h.of_move hk
      cases greedy <;> simp [move, hlength, Move.again, Move.followed, Thread.withStack]
    · refine h.of_loop (?_ : inside (.loop greedy e :: k))
      exact h.of_move hk (by simp [move, hlength, Move.followed, Thread.withStack])

/-- **The way through without a character** does not lead out of barren stacks. -/
theorem of_nullable (h : Barren g out inside) {e : Expr}
    (he : e.nullable g.before g.behind = true) (k : Stack) (hk : inside (.expr e :: k)) :
    inside k := by
  induction e generalizing k with
  | empty => exact h.of_move hk (by simp [move, Move.followed, Thread.withStack])
  | literal text =>
    rw [Expr.nullable, List.isEmpty_iff] at he
    subst he
    exact h.of_move hk (by simp [move, Move.followed, Thread.withStack])
  | set s unicode => cases he
  | look l =>
    have hl : l.holds g.before g.behind = true := he
    exact h.of_move hk (by simp [move, Move.followed, Thread.withStack, hl])
  | capture index sub ih =>
    apply h.of_move (q := .close index :: k)
    · apply ih he
      exact h.of_move hk (by simp [move, Move.followed, Thread.enter])
    · simp [move, Move.followed, Thread.leave]
  | seq first rest ih₁ ih₂ =>
    obtain ⟨hfirst, hrest⟩ := Bool.and_eq_true_iff.1 he
    apply ih₂ hrest
    apply ih₁ hfirst
    exact h.of_move hk (by simp [move, Move.followed, Thread.withStack])
  | alt first rest ih₁ ih₂ =>
    have join (second : Bool) (hk : inside (.join second :: k)) : inside k :=
      h.of_move hk (by simp [move, Move.followed, Thread.withStack])
    rcases Bool.or_eq_true_iff.1 he with hfirst | hrest
    · apply join false
      apply ih₁ hfirst
      exact h.of_move hk (by simp [move, Move.followed, Thread.withStack])
    · apply join true
      apply ih₂ hrest
      exact h.of_move hk (by simp [move, Move.followed, Thread.withStack])
  | rep least most greedy sub ih =>
    induction least generalizing most k with
    | zero => exact h.of_optional hk
    | succ least ihLeast =>
      have hsub : sub.nullable g.before g.behind = true := by simpa [Expr.nullable] using he
      have hmore : inside (.more least (most.map (· - 1)) greedy sub :: k) := by
        apply ih hsub
        exact h.of_move hk (by simp [move, Move.followed, Thread.withStack])
      unfold Frame.more at hmore
      split at hmore
      · exact h.of_loop hmore
      · exact ihLeast _ (by simp [Expr.nullable, hsub]) k hmore

end Barren

/-- **A way through without a character.** On top of what finds something, an expression that can
match the empty text finds something. -/
theorem isSome_run_of_nullable {e : Expr} {k : Stack} {before : Option Char} {place : Nat}
    {ahead : List Char} (he : e.nullable before ahead.head? = true)
    (hk : (run before place ahead [{ stack := k }] none).isSome = true) :
    (run before place ahead [{ stack := .expr e :: k }] none).isSome = true := by
  obtain ⟨hout, hrun⟩ := run_eq_firstOf before place ahead
  cases hfound : run before place ahead [{ stack := .expr e :: k }] none with
  | some found => rfl
  | none =>
    rw [hrun] at hfound
    -- A search in vain leaves barren stacks, and what is below is among them.
    obtain ⟨last, hbarren, _, hmem, _⟩ := firstOf_eq_none hout (.none _ _ _) hfound
    have hlast : k ∈ last := hbarren.of_nullable he k (hmem _ List.mem_cons_self)
    rw [hrun, ← firstOf_met_barren hout hbarren,
      firstOf_met [] (hbarren.isDone { stack := k } hlast) hlast, firstOf_nil] at hk
    cases hk

/-- **Where the empty text can be matched, there is a match.** It may be a longer one, if
that is preferred. -/
theorem Expr.isSome_match?_of_nullable {e : Expr} {behind ahead : List Char}
    (h : e.nullable behind.head? ahead.head? = true) : (e.match? behind ahead).isSome = true := by
  obtain ⟨hout, hrun⟩ := run_eq_firstOf behind.head? 0 ahead
  refine isSome_run_of_nullable h ?_
  rw [hrun, firstOf_done hout [] rfl]
  exact hout.done _ rfl

/-- A match takes no more than lies ahead. -/
theorem Expr.width_le_of_match? {e : Expr} {behind ahead : List Char} {found : Found}
    (h : e.match? behind ahead = some found) : found.width ≤ ahead.length := by
  have hwidth := (width_of_run h).2
  omega

/-- **At the end of a text** there is a match exactly if the empty text can be matched. -/
theorem Expr.isSome_match?_end {e : Expr} (behind : List Char) :
    (e.match? behind []).isSome = e.nullable behind.head? none := by
  rw [Bool.eq_iff_iff]
  constructor
  · intro h
    obtain ⟨found, hfound⟩ := Option.isSome_iff_exists.1 h
    exact nullable_of_match? hfound (Nat.le_zero.1 (width_le_of_match? hfound))
  · intro h
    exact isSome_match?_of_nullable h

/-! ## The least length -/

/-- **Where the least length is known,** it is zero if the empty text can be matched
anywhere. -/
theorem Expr.leastLength_of_nullable {e : Expr} {before behind : Option Char} {n : Nat}
    (h : e.nullable before behind = true) (hn : e.leastLength = some n) : n = 0 := by
  -- A length of two parts is known only if both are.
  have both_eq {f : Nat → Nat → Nat} {a b : Option Nat} {n : Nat} (h : both f a b = some n) :
      ∃ i j, a = some i ∧ b = some j ∧ n = f i j := by
    cases a <;> cases b <;> simp_all [both]
  induction e generalizing n with
  | empty => simpa [leastLength] using hn.symm
  | literal text =>
    rw [nullable, List.isEmpty_iff] at h
    rw [leastLength, h] at hn
    simpa using hn.symm
  | set s unicode => cases h
  | look l => simpa [leastLength] using hn.symm
  | capture index sub ih => exact ih h hn
  | rep least most greedy sub ih =>
    obtain ⟨m, hm, rfl⟩ := Option.map_eq_some_iff.1 hn
    rcases Bool.or_eq_true_iff.1 h with hzero | hsub
    · rw [beq_iff_eq.1 hzero, Nat.mul_zero]
    · rw [ih hsub hm, Nat.zero_mul]
  | seq first rest ih₁ ih₂ =>
    obtain ⟨hfirst, hrest⟩ := Bool.and_eq_true_iff.1 h
    obtain ⟨i, j, hi, hj, rfl⟩ := both_eq hn
    rw [ih₁ hfirst hi, ih₂ hrest hj]
  | alt first rest ih₁ ih₂ =>
    obtain ⟨i, j, hi, hj, rfl⟩ := both_eq hn
    rcases Bool.or_eq_true_iff.1 h with hfirst | hrest
    · rw [ih₁ hfirst hi, Nat.zero_min]
    · rw [ih₂ hrest hj, Nat.min_zero]

end StatefulLexer.Regex
