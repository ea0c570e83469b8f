/-
What a choice matches.

A branch of a choice is followed with a frame behind it that marks its end. The
frame does nothing: a thread with such frames at the bottom of its stack finds
what it finds without them. So a choice finds what its first branch finds on its
own, or else its second, and a literal finds itself.

Main statements: `match?_alt`, `match?_literal`.
-/
import StatefulLexer.Proofs.Regex.Search

set_option autoImplicit false

namespace StatefulLexer.Regex

/-! ## Frames at the bottom -/

/-- The move with more frames at the bottom of what is left. -/
def Move.onto (bottom : Stack) : Move → Move
  | done => done
  | consume wanted k => consume wanted (k ++ bottom)
  | become k => become (k ++ bottom)
  | check l k => check l (k ++ bottom)
  | opened index k => opened index (k ++ bottom)
  | closed index k => closed index (k ++ bottom)
  | fork a b => fork (a ++ bottom) (b ++ bottom)

/-- Whether a round is tried first does not depend on the bottom. -/
theorem Move.again_append (greedy : Bool) (a b bottom : Stack) :
    Move.again greedy (a ++ bottom) (b ++ bottom) = (Move.again greedy a b).onto bottom := by
  unfold again
  split <;> rfl

/-- **A move does not look at the bottom** as long as something lies on it. -/
theorem move_append {k : Stack} (bottom : Stack) (hk : k ≠ []) :
    move (k ++ bottom) = (move k).onto bottom := by
  fun_cases move k with
  | case1 => exact absurd rfl hk
  | case4 greedy e k => exact Move.again_append greedy (.expr e :: .loop greedy e :: k) k bottom
  | case14 most greedy e k =>
    exact Move.again_append greedy (.expr e :: .expr (.rep 0 (some most) greedy e) :: k) k bottom
  | case15 greedy e k h =>
    rw [List.cons_append, move, if_pos h, ← Move.again_append]
    rfl
  | case16 greedy e k h =>
    rw [List.cons_append, move, if_neg h]
    rfl
  | _ => rfl

/-- The thread with more frames at the bottom of its stack. -/
def Thread.onto (bottom : Stack) (t : Thread) : Thread := t.withStack (t.stack ++ bottom)

/-- A thread that has not matched has something left. -/
theorem Thread.stack_ne_nil {t : Thread} (ht : t.isDone = false) : t.stack ≠ [] :=
  List.isEmpty_eq_false_iff.1 ht

/-- With more at the bottom of its stack it has not matched either. -/
theorem Thread.isDone_onto {t : Thread} (bottom : Stack) (ht : t.isDone = false) :
    (t.onto bottom).isDone = false :=
  List.isEmpty_eq_false_iff.2 (List.append_ne_nil_of_left_ne_nil (t.stack_ne_nil ht) bottom)

/-- It moves as it did. -/
theorem Thread.move_onto {t : Thread} (bottom : Stack) (ht : t.isDone = false) :
    move (t.onto bottom).stack = (move t.stack).onto bottom :=
  move_append bottom (t.stack_ne_nil ht)

theorem Move.waits_onto (m : Move) (bottom : Stack) : (m.onto bottom).waits = m.waits := by
  cases m <;> rfl

theorem Move.followed_onto (m : Move) (g : Gap) (t : Thread) (bottom : Stack) :
    (m.onto bottom).followed g (t.onto bottom) = (m.followed g t).map (Thread.onto bottom) := by
  cases m with
  | check l k =>
    rw [onto, followed, followed]
    split <;> rfl
  | _ => rfl

theorem take?_onto {t : Thread} (c : Char) (bottom : Stack) (ht : t.isDone = false) :
    (t.onto bottom).take? c = (t.take? c).map (Thread.onto bottom) := by
  rw [Thread.take?, Thread.take?, t.move_onto bottom ht]
  cases move t.stack with
  | consume wanted k =>
    dsimp only [Move.onto]
    split <;> rfl
  | _ => rfl

section

variable {t : Thread} {front bottom : Stack}

/-- A stack in two parts is the upper one on top of the lower one. -/
theorem Thread.eq_onto (hstack : t.stack = front ++ bottom) :
    t = (t.withStack front).onto bottom := by
  rw [Thread.onto, Thread.withStack, Thread.withStack, ← hstack]

/-- **What is at the bottom stays there** when a thread moves, as long as something lies on
it. -/
theorem exists_stack_of_followed (hstack : t.stack = front ++ bottom) (hfront : front ≠ [])
    {g : Gap} : ∀ u ∈ (move t.stack).followed g t, ∃ front', u.stack = front' ++ bottom := by
  intro u hu
  rw [hstack, move_append _ hfront, t.eq_onto hstack, Move.followed_onto] at hu
  obtain ⟨v, _, rfl⟩ := List.mem_map.1 hu
  exact ⟨v.stack, rfl⟩

/-- So it does when the thread takes a character. -/
theorem exists_stack_of_take? (hstack : t.stack = front ++ bottom) (hfront : front ≠ []) {c : Char}
    {u : Thread} (hu : t.take? c = some u) : ∃ front', u.stack = front' ++ bottom := by
  rw [t.eq_onto hstack, take?_onto c bottom (List.isEmpty_eq_false_iff.2 hfront)] at hu
  obtain ⟨v, _, rfl⟩ := Option.map_eq_some_iff.1 hu
  exact ⟨v.stack, rfl⟩

end

/-! ## Ends of branches -/

/-- Nothing but ends of branches. -/
def Joins (k : Stack) : Prop := ∀ f ∈ k, ∃ second, f = .join second

/-- A thread with nothing but ends of branches left has matched. -/
theorem firstOf_joins {g : Gap} {out : Outcome} (hout : out.OfStacks) {seen : Met} {k : Stack}
    (hk : Joins k) (hnew : ∀ q, q <:+ k → ¬q ∈ seen) (t : Thread) (ts : List Thread) :
    firstOf g out seen (t.withStack k :: ts) = out (t.withStack []) := by
  induction k generalizing seen with
  | nil => exact firstOf_done hout ts rfl
  | cons f k ih =>
    obtain ⟨second, rfl⟩ := hk f List.mem_cons_self
    have hfollowed : (move (t.withStack (.join second :: k)).stack).followed g
        (t.withStack (.join second :: k)) = [t.withStack k] := rfl
    have hwaits : (move (t.withStack (.join second :: k)).stack).waits = false := rfl
    rw [firstOf_new ts rfl (hnew _ (List.suffix_refl _)), hfollowed, hwaits]
    refine ih (fun f hf => hk f (List.mem_cons_of_mem _ hf)) fun q hq hmem => ?_
    rcases Met.mem_insert.1 hmem with heq | hmem
    · -- The stack that was met is longer than what is left of it.
      have hlen := hq.length_le
      rw [heq] at hlen
      exact Nat.not_succ_le_self _ hlen
    · exact hnew q (hq.trans (List.suffix_cons _ k)) hmem

/-- A round finds the same with ends of branches at the bottom of all stacks, if what
waits comes to the same. -/
theorem firstOf_onto {g : Gap} {out : Outcome} (hout : out.OfStacks) {bottom : Stack}
    (hbottom : Joins bottom)
    (hagree : ∀ t : Thread, t.isDone = false → out (t.onto bottom) = out t)
    {seen more : Met} (hseen : ∀ k, k ≠ [] → (k ++ bottom ∈ more ↔ k ∈ seen))
    (hjoin : ∀ q, q <:+ bottom → ¬q ∈ more) (ts : List Thread) :
    firstOf g out more (ts.map (Thread.onto bottom)) = firstOf g out seen ts := by
  induction seen, ts using round_induction g generalizing more with
  | nil seen => rw [List.map_nil, firstOf_nil, firstOf_nil]
  | done seen t ts ht =>
    -- What has matched has the bottom left to go through, and nothing else.
    have hstack : t.stack = [] := List.isEmpty_iff.1 ht
    have honto : t.onto bottom = t.withStack bottom := by
      rw [Thread.onto, hstack, List.nil_append]
    have hself : t.withStack [] = t := by
      rw [← hstack]
      rfl
    rw [List.map_cons, honto, firstOf_joins hout hbottom hjoin, hself, firstOf_done hout ts ht]
  | met seen t ts ht hs ih =>
    have hmet := (hseen _ (t.stack_ne_nil ht)).2 hs
    rw [List.map_cons, firstOf_met _ (t.isDone_onto bottom ht) hmet, firstOf_met ts ht hs]
    exact ih hseen hjoin
  | new seen t ts ht hs ih =>
    have hk := t.stack_ne_nil ht
    have hseen' : ∀ k, k ≠ [] →
        (k ++ bottom ∈ more.insert (t.onto bottom).stack ↔ k ∈ seen.insert t.stack) := by
      intro k hne
      rw [Met.mem_insert, Met.mem_insert, hseen k hne]
      exact or_congr_left (List.append_left_inj bottom)
    have hjoin' : ∀ q, q <:+ bottom → ¬q ∈ more.insert (t.onto bottom).stack := by
      intro q hq hmem
      rcases Met.mem_insert.1 hmem with heq | hmem
      · have hlen := hq.length_le
        have hpos := List.length_pos_iff.2 hk
        rw [heq, Thread.onto, Thread.withStack, List.length_append] at hlen
        omega
      · exact hjoin q hq hmem
    rw [List.map_cons, firstOf_new _ (t.isDone_onto bottom ht) (mt (hseen _ hk).1 hs),
      firstOf_new ts ht hs, t.move_onto bottom ht, Move.waits_onto, Move.followed_onto,
      ← List.map_append, ih hseen' hjoin', hagree t ht]

/-- So it is for a whole round, before which nothing was met. -/
theorem firstOf_onto_none {g : Gap} {out : Outcome} (hout : out.OfStacks) {bottom : Stack}
    (hbottom : Joins bottom)
    (hagree : ∀ t : Thread, t.isDone = false → out (t.onto bottom) = out t) (ts : List Thread) :
    firstOf g out .none (ts.map (Thread.onto bottom)) = firstOf g out .none ts :=
  firstOf_onto hout hbottom hagree
    (fun _ _ => iff_of_false (Met.not_mem_none _) (Met.not_mem_none _))
    (fun q _ => Met.not_mem_none q) ts

/-- **Ends of branches do nothing.** A thread finds the same without them at the bottom of
its stack. -/
theorem run_onto {bottom : Stack} (hbottom : Joins bottom) (before : Option Char) (place : Nat)
    (ahead : List Char) (ts : List Thread) :
    run before place ahead (ts.map (Thread.onto bottom)) none = run before place ahead ts none := by
  induction ahead generalizing before place ts with
  | nil =>
    obtain ⟨hout, hrun⟩ := run_eq_firstOf before place []
    rw [hrun, hrun]
    refine firstOf_onto_none hout hbottom (fun t ht => ?_) ts
    rw [outcome_nil place ht, outcome_nil place (t.isDone_onto bottom ht)]
  | cons c ahead ih =>
    obtain ⟨hout, hrun⟩ := run_eq_firstOf before place (c :: ahead)
    rw [hrun, hrun]
    -- A character is taken above the bottom, and the rest of the text is as before.
    refine firstOf_onto_none hout hbottom (fun t ht => ?_) ts
    rw [outcome_cons place c ahead ht, outcome_cons place c ahead (t.isDone_onto bottom ht),
      take?_onto c bottom ht]
    cases t.take? c with
    | none => rfl
    | some u => exact ih (some c) (place + 1) [u]

/-! ## Characters -/

/-- A single thread that waits finds what it comes to. -/
theorem run_waits (before : Option Char) (place : Nat) (ahead : List Char) {t : Thread}
    (ht : t.isDone = false) {wanted : Char → Bool} {k : Stack}
    (hmove : move t.stack = .consume wanted k) :
    run before place ahead [t] none = outcome place ahead t := by
  obtain ⟨hout, hrun⟩ := run_eq_firstOf before place ahead
  rw [hrun, firstOf_new [] ht (Met.not_mem_none _), hmove]
  exact (congrArg _ firstOf_nil).trans Option.or_none

/-- A thread that has matched finds that. -/
theorem run_isDone (before : Option Char) (place : Nat) (ahead : List Char) {t : Thread}
    (ht : t.isDone = true) : run before place ahead [t] none = some ⟨place, t.captures⟩ := by
  obtain ⟨hout, hrun⟩ := run_eq_firstOf before place ahead
  rw [hrun, firstOf_done hout [] ht, outcome_done place ahead ht]

/-- So does a thread that comes to the end of its stack. -/
theorem run_become_nil (before : Option Char) (place : Nat) (ahead : List Char) {t : Thread}
    (ht : t.isDone = false) (hmove : move t.stack = .become []) :
    run before place ahead [t] none = some ⟨place, t.captures⟩ := by
  obtain ⟨hout, hrun⟩ := run_eq_firstOf before place ahead
  rw [hrun, firstOf_new [] ht (Met.not_mem_none _), hmove]
  exact (firstOf_done hout [] rfl).trans (outcome_done place ahead rfl)

/-- The empty expression finds the empty text. -/
theorem match?_empty (behind ahead : List Char) :
    Expr.empty.match? behind ahead = some ⟨0, []⟩ := by
  rw [Expr.match?, run_become_nil _ _ _ rfl rfl]

/-- A thread that waits for one of some characters finds what is left of it behind the
next one. -/
theorem run_consume (before : Option Char) (place : Nat) (ahead : List Char) {f : Frame}
    {wanted : Char → Bool} {k : Stack} (hmove : move [f] = .consume wanted k) :
    run before place ahead [{ stack := [f] }] none
      = match ahead with
        | [] => none
        | c :: ahead =>
          if wanted c then run (some c) (place + 1) ahead [{ stack := k }] none else none := by
  rw [run_waits before place ahead rfl hmove]
  cases ahead with
  | nil => rw [outcome_nil place rfl]
  | cons c ahead =>
    rw [outcome_cons place c ahead rfl, Thread.take?, hmove]
    dsimp only
    split <;> rfl

/-- A literal is followed to its end. -/
theorem run_literal (before : Option Char) (place : Nat) (ahead text : List Char) :
    run before place ahead [{ stack := [.expr (.literal text)] }] none
      = if text.isPrefixOf ahead then some ⟨place + text.length, []⟩ else none := by
  induction text generalizing before place ahead with
  | nil => rw [run_become_nil before place ahead rfl rfl]; rfl
  | cons c text ih =>
    rw [run_consume before place ahead rfl]
    cases ahead with
    | nil => rfl
    | cons d ahead =>
      dsimp only
      rw [ih, List.length_cons, Nat.add_assoc, Nat.add_comm 1]
      by_cases hd : d = c
      · rw [if_pos (by simp [hd]), hd, List.isPrefixOf_cons_cons_self]
      · rw [if_neg (by simp [hd]), List.isPrefixOf, if_neg (by simp [Ne.symm hd])]

/-- **A literal finds itself.** -/
theorem match?_literal (text behind ahead : List Char) :
    (Expr.literal text).match? behind ahead
      = if text.isPrefixOf ahead then some ⟨text.length, []⟩ else none := by
  rw [Expr.match?, run_literal, Nat.zero_add]

/-- A set finds one of its characters. -/
theorem match?_set (s : CharSet) (unicode : Bool) (behind ahead : List Char) :
    (Expr.set s unicode).match? behind ahead
      = if ahead.head?.any s.contains then some ⟨1, []⟩ else none := by
  rw [Expr.match?, run_consume _ _ _ rfl]
  cases ahead with
  | nil => rfl
  | cons c ahead =>
    dsimp only
    rw [run_isDone _ _ _ rfl]
    rfl

/-- The expression that never matches finds nothing. -/
theorem match?_fail (behind ahead : List Char) : Expr.fail.match? behind ahead = none := by
  rw [Expr.fail, match?_set]
  cases ahead <;> rfl

/-! ## Choices -/

/-- The stack of a branch of a choice: its end is at the bottom, until it is over. -/
def InBranch (k : Stack) : Prop := k = [] ∨ ∃ front second, k = front ++ [Frame.join second]

/-- A thread in a branch stays in it until the branch is over. -/
theorem InBranch.closed (g : Gap) : Closed g InBranch := by
  intro t ht u hu
  rcases ht with ht | ⟨front, second, ht⟩
  · rw [ht] at hu
    cases hu
  · by_cases hfront : front = []
    · rw [ht, hfront] at hu
      exact .inl (by rw [List.mem_singleton.1 hu]; rfl)
    -- Above the end of the branch, a move does not look at it.
    · obtain ⟨front', hfront'⟩ := exists_stack_of_followed ht hfront u hu
      exact .inr ⟨front', second, hfront'⟩

/-- A choice is met before its branches, but they never come back to it. -/
theorem round_branches (g : Gap) (first rest : Expr) :
    round g (.insert [.expr (.alt first rest)] .none)
        [{ stack := [.expr first, .join false] }, { stack := [.expr rest, .join true] }]
      = round g .none
        [{ stack := [.expr first, .join false] }, { stack := [.expr rest, .join true] }] := by
  refine round_congr (InBranch.closed g) ?_ ?_
  · intro t ht
    rcases List.mem_cons.1 ht with rfl | ht
    · exact .inr ⟨[.expr first], false, rfl⟩
    · rw [List.mem_singleton.1 ht]
      exact .inr ⟨[.expr rest], true, rfl⟩
  · intro q hq
    rw [Met.mem_insert]
    refine or_iff_right fun heq => ?_
    -- The choice is a frame of its own, and no end of a branch is below it.
    rcases hq with hq | ⟨front, second, hq⟩
    · rw [heq] at hq
      cases hq
    · have hlast := congrArg List.getLast? hq
      rw [heq, List.getLast?_append] at hlast
      cases hlast

/-- **A choice on its own finds the match of its first branch,** with all that its groups
captured, or else that of its second. -/
theorem match?_alt (first rest : Expr) (behind ahead : List Char) :
    (Expr.alt first rest).match? behind ahead
      = (first.match? behind ahead).or (rest.match? behind ahead) := by
  obtain ⟨hout, hrun⟩ := run_eq_firstOf behind.head? 0 ahead
  have hjoins : ∀ second, Joins [.join second] := fun second f hf =>
    ⟨second, List.mem_singleton.1 hf⟩
  have hfirst := run_onto (hjoins false) behind.head? 0 ahead [{ stack := [.expr first] }]
  have hsecond := run_onto (hjoins true) behind.head? 0 ahead [{ stack := [.expr rest] }]
  -- The choice forks at once, and each branch is followed with its end at the bottom.
  rw [Expr.match?, Expr.match?, Expr.match?, ← hfirst, ← hsecond, ← run_append, hrun, hrun,
    firstOf_new [] rfl (Met.not_mem_none _)]
  have hbranches := round_branches ⟨behind.head?, ahead.head?, 0⟩ first rest
  exact congrArg (List.findSome? (outcome 0 ahead)) hbranches

/-- Branches as a choice find what the first of them finds that finds anything. -/
theorem match?_ofBranches (es : List Expr) (behind ahead : List Char) :
    (Expr.ofBranches es).match? behind ahead = es.findSome? (·.match? behind ahead) := by
  fun_induction Expr.ofBranches es with
  | case1 => exact match?_fail behind ahead
  | case2 e => rw [List.findSome?_singleton]
  | case3 e es hes ih =>
    rw [match?_alt, ih, List.findSome?_cons]
    cases e.match? behind ahead <;> rfl

end StatefulLexer.Regex
