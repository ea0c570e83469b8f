/-
Stacks that are not come back to.

A round drops what it has met, so what a stack leads to may depend on where the round came
from. A stack that a round comes to once can be taken apart frame by frame as if nothing had
been met before. Only loops make a round come back: a stack that has no loop in it leads to
smaller and smaller things. Loops that lie within the frames do not matter, because they
are over before anything below them is looked at.

Main statements: `Once.of_loopless`, `run_step`.
-/
import StatefulLexer.Proofs.Regex.Choice

set_option autoImplicit false

namespace StatefulLexer.Regex

/-! ## Sizes -/

/-- A size for an expression, which is larger than the size of anything that a move makes
of it. -/
def Expr.size : Expr → Nat
  | .empty => 1
  | .literal _ => 1
  | .set _ _ => 1
  | .look _ => 1
  | .rep least most _ sub => sub.size + least + most.getD 0 + 2
  | .capture _ sub => sub.size + 1
  | .seq first rest => first.size + rest.size + 1
  | .alt first rest => first.size + rest.size + 1

/-- A size for a frame. -/
def Frame.size : Frame → Nat
  | .expr e => e.size
  | .loop _ e => e.size + 1
  | .join _ => 0
  | .close _ => 0

/-- The frame is a loop. -/
def Frame.isLoop : Frame → Bool
  | .loop _ _ => true
  | _ => false

/-- None of the frames is a loop. -/
def Loopless (k : Stack) : Prop := ∀ f ∈ k, f.isLoop = false

theorem Loopless.nil : Loopless [] := List.forall_mem_nil _

theorem Loopless.tail {f : Frame} {k : Stack} (h : Loopless (f :: k)) : Loopless k :=
  fun g hg => h g (List.mem_cons_of_mem f hg)

theorem Loopless.cons {f : Frame} {k : Stack} (hf : f.isLoop = false) (hk : Loopless k) :
    Loopless (f :: k) :=
  List.forall_mem_cons.2 ⟨hf, hk⟩

theorem Loopless.append {k l : Stack} (hk : Loopless k) (hl : Loopless l) : Loopless (k ++ l) :=
  List.forall_mem_append.2 ⟨hk, hl⟩

theorem Loopless.exprs (es : List Expr) : Loopless (es.map Frame.expr) := by
  intro f hf
  obtain ⟨e, _, rfl⟩ := List.mem_map.1 hf
  rfl

/-! ## Smaller things -/

/-- What is left of a repetition is smaller than the repetition was. -/
theorem Frame.size_more_lt (least : Nat) (most : Option Nat) (greedy : Bool) (e : Expr) :
    (Frame.more least (most.map (· - 1)) greedy e).size
      < (Expr.rep (least + 1) most greedy e).size := by
  have hmost : (most.map (· - 1)).getD 0 ≤ most.getD 0 := by
    cases most with
    | none => exact Nat.le_refl 0
    | some m => exact Nat.sub_le m 1
  unfold Frame.more
  split
  · simp only [Frame.size, Expr.size]
    omega
  · simp only [Frame.size, Expr.size]
    omega

/-- **A move makes something smaller of the top of a stack,** unless that is a loop. -/
theorem exists_of_followed {f : Frame} (hf : f.isLoop = false) (k : Stack) {g : Gap}
    {t : Thread} : ∀ u ∈ (move (f :: k)).followed g t,
      ∃ new, u.stack = new ++ k ∧ ∀ h ∈ new, h.size < f.size := by
  -- What a move leads to is put in front of `k`, one or two frames at a time.
  have kept : ∃ new, k = new ++ k ∧ ∀ h ∈ new, h.size < f.size := ⟨[], rfl, nofun⟩
  have two {a b : Frame} (ha : a.size < f.size) (hb : b.size < f.size) :
      ∃ new, a :: b :: k = new ++ k ∧ ∀ h ∈ new, h.size < f.size := by
    refine ⟨[a, b], rfl, ?_⟩
    intro h hh
    rcases List.mem_cons.1 hh with rfl | hh
    · exact ha
    · rw [List.mem_singleton.1 hh]
      exact hb
  have again {greedy : Bool} {round : Stack}
      (hround : ∃ new, round = new ++ k ∧ ∀ h ∈ new, h.size < f.size) :
      ∀ u ∈ (Move.again greedy round k).followed g t,
        ∃ new, u.stack = new ++ k ∧ ∀ h ∈ new, h.size < f.size := by
    intro u hu
    cases greedy with
    | true =>
      rcases List.mem_cons.1 hu with rfl | hu
      · exact hround
      · rw [List.mem_singleton.1 hu]
        exact kept
    | false =>
      rcases List.mem_cons.1 hu with rfl | hu
      · exact kept
      · rw [List.mem_singleton.1 hu]
        exact hround
  cases f with
  | loop greedy e => cases hf
  | join second =>
    intro u hu
    rw [List.mem_singleton.1 hu]
    exact kept
  | close index =>
    intro u hu
    rw [List.mem_singleton.1 hu]
    exact kept
  | expr e =>
    cases e with
    | empty =>
      intro u hu
      rw [List.mem_singleton.1 hu]
      exact kept
    | literal text =>
      cases text with
      | nil =>
        intro u hu
        rw [List.mem_singleton.1 hu]
        exact kept
      | cons c text =>
        intro u hu
        cases hu
    | set s unicode =>
      intro u hu
      cases hu
    | look l =>
      intro u hu
      rw [move, Move.followed] at hu
      split at hu
      · rw [List.mem_singleton.1 hu]
        exact kept
      · cases hu
    | capture index e =>
      intro u hu
      rw [List.mem_singleton.1 hu]
      exact two (Nat.lt_succ_self _) (Nat.zero_lt_succ _)
    | seq first rest =>
      intro u hu
      rw [List.mem_singleton.1 hu]
      apply two
      · simp only [Frame.size, Expr.size]
        omega
      · simp only [Frame.size, Expr.size]
        omega
    | alt first rest =>
      intro u hu
      rcases List.mem_cons.1 hu with rfl | hu
      · apply two
        · simp only [Frame.size, Expr.size]
          omega
        · simp only [Frame.size, Expr.size]
          omega
      · rw [List.mem_singleton.1 hu]
        apply two
        · simp only [Frame.size, Expr.size]
          omega
        · simp only [Frame.size, Expr.size]
          omega
    | rep least most greedy e =>
      have hsub : (Frame.expr e).size < (Expr.rep least most greedy e).size := by
        simp only [Frame.size, Expr.size]
        omega
      cases least with
      | succ least =>
        intro u hu
        rw [List.mem_singleton.1 hu]
        exact two hsub (Frame.size_more_lt least most greedy e)
      | zero =>
        have hloop : (Frame.loop greedy e).size < (Expr.rep 0 none greedy e).size := by
          simp only [Frame.size, Expr.size, Option.getD_none]
          omega
        cases most with
        | none =>
          rw [move]
          split
          · exact again (two hsub hloop)
          · intro u hu
            rw [List.mem_singleton.1 hu]
            exact ⟨[.loop greedy e], rfl, fun h hh => List.mem_singleton.1 hh ▸ hloop⟩
        | some most =>
          cases most with
          | zero =>
            intro u hu
            rw [List.mem_singleton.1 hu]
            exact kept
          | succ most =>
            rw [move]
            apply again (two hsub _)
            simp only [Frame.size, Expr.size, Option.getD_some]
            omega

/-! ## Below a stack -/

/-- **Below a stack** is what it may lead to: something smaller in place of its top, with
anything on that, or what is left below its top, or what is below that. -/
inductive Below : Stack → Stack → Prop
  | smaller {f h : Frame} (front k : Stack) : h.size < f.size → Below (f :: k) (front ++ h :: k)
  | rest (f : Frame) (k : Stack) : Below (f :: k) k
  | deeper {f : Frame} {k q : Stack} : Below k q → Below (f :: k) q

/-- What is below a stack does not end with it. -/
theorem Below.not_suffix {k q : Stack} (h : Below k q) : ¬k <:+ q := by
  induction h with
  | @smaller f h front k hlt =>
    intro hsuffix
    obtain ⟨front', heq⟩ := hsuffix
    have hends : f :: k = h :: k := by
      have hlen : (f :: k).length = (h :: k).length := rfl
      exact (List.append_inj' heq hlen).2
    rw [(List.cons.inj hends).1] at hlt
    exact Nat.lt_irrefl _ hlt
  | rest f k =>
    intro hsuffix
    exact Nat.not_succ_le_self _ hsuffix.length_le
  | deeper _ ih => exact fun hsuffix => ih ((List.suffix_cons _ _).trans hsuffix)

/-- Something smaller on top of the rest of a stack is below it, and so is the rest. -/
theorem Below.of_smaller {f : Frame} {k new : Stack} (h : ∀ h ∈ new, h.size < f.size) :
    Below (f :: k) (new ++ k) := by
  cases hlast : new.getLast? with
  | none =>
    rw [List.getLast?_eq_none_iff.1 hlast]
    exact .rest f k
  | some last =>
    obtain ⟨front, rfl⟩ := List.getLast?_eq_some_iff.1 hlast
    rw [List.append_assoc]
    exact .smaller front k (h last (List.mem_append_right _ List.mem_cons_self))

/-- **What is below a stack leads to nothing else,** if there is no loop in the stack, its
top apart. -/
theorem Below.closed {f : Frame} {k : Stack} (hk : Loopless k) (g : Gap) :
    Closed g (Below (f :: k)) := by
  intro t h u hu
  generalize hstack : f :: k = s at h
  generalize hq : t.stack = q at h hu
  induction h generalizing f k with
  | @smaller f' h front k' hlt =>
    obtain ⟨rfl, rfl⟩ := List.cons.inj hstack
    by_cases hfront : front = []
    · rw [hfront, List.nil_append] at hu
      by_cases hloop : h.isLoop = true
      · -- A loop stays where it is, under a round of it, or is over.
        cases h with
        | loop greedy e =>
          have hround : Below (f :: k) (.expr e :: .loop greedy e :: k) :=
            .smaller [.expr e] k hlt
          rw [move] at hu
          cases greedy with
          | true =>
            rcases List.mem_cons.1 hu with rfl | hu
            · exact hround
            · rw [List.mem_singleton.1 hu]
              exact .rest f k
          | false =>
            rcases List.mem_cons.1 hu with rfl | hu
            · exact .rest f k
            · rw [List.mem_singleton.1 hu]
              exact hround
        | _ => cases hloop
      · obtain ⟨new, hnew, hsizes⟩ :=
          exists_of_followed (Bool.eq_false_iff.2 hloop) k u hu
        rw [hnew]
        exact .of_smaller fun h hh => Nat.lt_trans (hsizes h hh) hlt
    · -- Above, a move does not look at what is smaller.
      have honto : t = (t.withStack front).onto (h :: k) := by
        rw [Thread.onto, Thread.withStack, Thread.withStack, ← hq]
      rw [move_append _ hfront, honto, Move.followed_onto] at hu
      obtain ⟨v, _, rfl⟩ := List.mem_map.1 hu
      exact .smaller v.stack k hlt
  | rest f' k' =>
    obtain ⟨rfl, rfl⟩ := List.cons.inj hstack
    cases k with
    | nil => cases hu
    | cons h k =>
      obtain ⟨new, hnew, hsizes⟩ := exists_of_followed (hk h List.mem_cons_self) k u hu
      rw [hnew]
      exact .deeper (.of_smaller hsizes)
  | @deeper f' k' q h ih =>
    obtain ⟨rfl, rfl⟩ := List.cons.inj hstack
    cases k with
    | nil => cases h
    | cons h' k => exact .deeper (ih hk.tail rfl hq hu)

/-! ## Once -/

/-- **A stack that is come to once:** what its move leads to never leads back to it. -/
def Once (k : Stack) : Prop :=
  ∀ g : Gap, ∃ behind : Stack → Prop, Closed g behind ∧ ¬behind k ∧
    ∀ t : Thread, t.stack = k → ∀ u ∈ (move t.stack).followed g t, behind u.stack

/-- **Without loops a stack is come to once.** -/
theorem Once.of_loopless {k : Stack} (hk : Loopless k) : Once k := by
  intro g
  cases k with
  | nil =>
    refine ⟨fun _ => False, fun _ h => h.elim, not_false, fun t ht u hu => ?_⟩
    rw [ht] at hu
    cases hu
  | cons f k =>
    refine ⟨Below (f :: k), .closed hk.tail g, fun h => h.not_suffix (List.suffix_refl _), ?_⟩
    intro t ht u hu
    rw [ht] at hu
    obtain ⟨new, hnew, hsizes⟩ := exists_of_followed (hk f List.mem_cons_self) k u hu
    rw [hnew]
    exact .of_smaller hsizes

/-! ## Steps -/

/-- **A step.** A stack that is come to once finds what its move leads to. -/
theorem run_step {before : Option Char} {place : Nat} {ahead : List Char} {t : Thread}
    (honce : Once t.stack) (hdone : t.isDone = false) (hwaits : (move t.stack).waits = false) :
    run before place ahead [t] none
      = run before place ahead ((move t.stack).followed ⟨before, ahead.head?, place⟩ t) none := by
  obtain ⟨_, hrun⟩ := run_eq_firstOf before place ahead
  obtain ⟨behind, hclosed, hnot, hbehind⟩ := honce ⟨before, ahead.head?, place⟩
  rw [hrun, hrun, firstOf_new [] hdone (Met.not_mem_none _), hwaits, if_neg Bool.false_ne_true,
    Option.none_or, List.append_nil]
  -- The stack was met, but nothing comes back to it.
  refine congrArg (List.findSome? _) (round_congr hclosed (hbehind t rfl) fun q hq => ?_)
  rw [Met.mem_insert]
  refine or_iff_right fun heq => hnot ?_
  rw [← heq]
  exact hq

end StatefulLexer.Regex
