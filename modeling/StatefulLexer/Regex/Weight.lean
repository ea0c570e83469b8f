/-
Why a round ends.

Every stack has a weight, relative to the stacks that the round has met. Main
statement: `weight_move_lt`, by which every move leads to less than what it
started from.
-/
import StatefulLexer.Regex.Met

set_option autoImplicit false

namespace StatefulLexer.Regex

/-! ## A measure of stacks

`weight seen k` bounds the number of moves a round makes from `k` when the
stacks of `seen` are not followed. Only loops make it depend on `seen`: one that
was met weighs one, and one that was not weighs as much as a round of it and
what is behind it. Every move makes the weight smaller, and so a round ends. -/

/-- The weight of a loop that was not met, from the weight of a round of it. -/
def loopWeight (round : Nat → Nat) (behind : Nat) : Nat := round 1 + behind + 2

/-- The weight of a repetition without obligatory rounds, with a greatest number
of rounds. -/
def upToWeight (round : Nat → Nat) (behind : Nat) : Nat → Nat
  | 0 => behind + 1
  | most + 1 => round (upToWeight round behind most) + behind + 1

/-- The weight of a repetition. -/
def repWeight (round : Nat → Nat) (behind : Nat) : Nat → Option Nat → Nat
  | 0, some most => upToWeight round behind most
  | 0, none => round (loopWeight round behind) + loopWeight round behind + behind + 1
  | least + 1, most =>
    round (if least = 0 ∧ most = none then loopWeight round behind
      else repWeight round behind least (most.map (· - 1))) + 1

/-- The weight of an expression, from the weight of what is behind it. -/
def Expr.weight : Expr → Nat → Nat
  | .empty, behind => behind + 1
  | .literal _, behind => behind + 1
  | .set _ _, behind => behind + 1
  | .look _, behind => behind + 1
  | .rep least most _ sub, behind => repWeight sub.weight behind least most
  | .capture _ sub, behind => sub.weight (behind + 1) + 1
  | .seq first rest, behind => first.weight (rest.weight behind) + 1
  | .alt first rest, behind => first.weight (behind + 1) + rest.weight (behind + 1) + 1

/-- The weight of a stack. -/
def weight (seen : Met) : Stack → Nat
  | [] => 1
  | .expr e :: k => e.weight (weight seen k)
  | .loop greedy e :: k =>
    if (.loop greedy e :: k) ∈ seen then 1 else loopWeight e.weight (weight seen k)
  | .join _ :: k => weight seen k + 1
  | .close _ :: k => weight seen k + 1

/-- A weight that grows with what is behind, and weighs more than it. -/
structure Growing (w : Nat → Nat) : Prop where
  mono : ∀ {m n : Nat}, m ≤ n → w m ≤ w n
  lt : ∀ m : Nat, m < w m

theorem Growing.loopWeight {w : Nat → Nat} : Growing (Regex.loopWeight w) where
  mono h := by simp only [Regex.loopWeight]; omega
  lt m := by simp only [Regex.loopWeight]; omega

theorem Growing.upToWeight {w : Nat → Nat} (hw : Growing w) (most : Nat) :
    Growing fun m => Regex.upToWeight w m most where
  mono {m n} h := by
    induction most with
    | zero => simp only [Regex.upToWeight]; omega
    | succ most ih =>
      have := hw.mono ih
      simp only [Regex.upToWeight]
      omega
  lt m := by
    cases most with
    | zero => simp only [Regex.upToWeight]; omega
    | succ most => simp only [Regex.upToWeight]; omega

theorem Growing.repWeight {w : Nat → Nat} (hw : Growing w) (least : Nat) (most : Option Nat) :
    Growing fun m => Regex.repWeight w m least most := by
  induction least generalizing most with
  | zero =>
    cases most with
    | none =>
      refine ⟨fun {m n} h => ?_, fun m => ?_⟩
      · have h1 := Growing.loopWeight (w := w) |>.mono h
        have h2 := hw.mono h1
        simp only [Regex.repWeight]
        omega
      · simp only [Regex.repWeight]; omega
    | some most => simpa only [Regex.repWeight] using hw.upToWeight most
  | succ least ih =>
    refine ⟨fun {m n} h => ?_, fun m => ?_⟩
    · simp only [Regex.repWeight]
      split
      · have := hw.mono (Growing.loopWeight (w := w) |>.mono h)
        omega
      · have := hw.mono ((ih (most.map (· - 1))).mono h)
        omega
    · simp only [Regex.repWeight]
      split
      · have h1 := Growing.loopWeight (w := w) |>.lt m
        have h2 := hw.lt (Regex.loopWeight w m)
        omega
      · have h1 := (ih (most.map (· - 1))).lt m
        have h2 := hw.lt (Regex.repWeight w m least (most.map (· - 1)))
        omega

theorem Expr.growing_weight (e : Expr) : Growing e.weight := by
  induction e with
  | empty => exact ⟨fun h => Nat.succ_le_succ h, fun m => Nat.lt_succ_self m⟩
  | literal => exact ⟨fun h => Nat.succ_le_succ h, fun m => Nat.lt_succ_self m⟩
  | set => exact ⟨fun h => Nat.succ_le_succ h, fun m => Nat.lt_succ_self m⟩
  | look => exact ⟨fun h => Nat.succ_le_succ h, fun m => Nat.lt_succ_self m⟩
  | rep least most _ sub ih => exact ih.repWeight least most
  | capture _ sub ih =>
    refine ⟨fun {m n} h => ?_, fun m => ?_⟩
    · have := ih.mono (Nat.succ_le_succ h)
      simpa only [Expr.weight] using Nat.succ_le_succ this
    · have := ih.lt (m + 1)
      simp only [Expr.weight]
      omega
  | seq first rest ih1 ih2 =>
    refine ⟨fun {m n} h => ?_, fun m => ?_⟩
    · have := ih1.mono (ih2.mono h)
      simpa only [Expr.weight] using Nat.succ_le_succ this
    · have h1 := ih1.lt (rest.weight m)
      have h2 := ih2.lt m
      simp only [Expr.weight]
      omega
  | alt first rest ih1 ih2 =>
    refine ⟨fun {m n} h => ?_, fun m => ?_⟩
    · have h1 := ih1.mono (Nat.succ_le_succ h)
      have h2 := ih2.mono (Nat.succ_le_succ h)
      simp only [Expr.weight, Nat.succ_eq_add_one] at h1 h2 ⊢
      omega
    · have := ih1.lt (m + 1)
      simp only [Expr.weight]
      omega

/-- Every stack has a weight. -/
theorem weight_pos (seen : Met) (k : Stack) : 0 < weight seen k := by
  match k with
  | [] => simp [weight]
  | .expr e :: k =>
    have := e.growing_weight.lt (weight seen k)
    simp only [weight]
    omega
  | .loop greedy e :: k =>
    simp only [weight, loopWeight]
    split <;> omega
  | .join _ :: k => simp only [weight]; omega
  | .close _ :: k => simp only [weight]; omega

/-- To have met more stacks makes no stack heavier. -/
theorem weight_cons_le (s : Stack) (seen : Met) (k : Stack) :
    weight (seen.insert s) k ≤ weight seen k := by
  induction k with
  | nil => simp [weight]
  | cons frame k ih =>
    cases frame with
    | expr e => exact e.growing_weight.mono ih
    | loop greedy e =>
      have h1 : 0 < loopWeight e.weight (weight seen k) := by simp only [loopWeight]; omega
      have h2 := Growing.loopWeight (w := e.weight) |>.mono ih
      simp only [weight, Met.mem_insert]
      split
      · split <;> omega
      · rename_i h
        rw [if_neg fun hm => h (Or.inr hm)]
        exact h2
    | join => simpa only [weight] using Nat.succ_le_succ ih
    | close => simpa only [weight] using Nat.succ_le_succ ih

/-! ## Moves make stacks lighter -/

theorem weight_loop_le (seen : Met) (greedy : Bool) (e : Expr) (k : Stack) :
    weight seen (.loop greedy e :: k) ≤ loopWeight e.weight (weight seen k) := by
  simp only [weight]
  split
  · simp only [loopWeight]; omega
  · exact Nat.le_refl _

theorem weight_more_le (seen : Met) (least : Nat) (most : Option Nat) (greedy : Bool)
    (e : Expr) (k : Stack) :
    weight seen (.more least most greedy e :: k) ≤
      if least = 0 ∧ most = none then loopWeight e.weight (weight seen k)
      else repWeight e.weight (weight seen k) least most := by
  unfold Frame.more
  split
  · exact weight_loop_le seen greedy e k
  · simp [weight, Expr.weight]

/-- The weight of what a move leads to without taking a character. -/
def Move.weight (seen : Met) : Move → Nat
  | done => 0
  | consume _ _ => 0
  | become k => Regex.weight seen k
  | check _ k => Regex.weight seen k
  | opened _ k => Regex.weight seen k
  | closed _ k => Regex.weight seen k
  | fork a b => Regex.weight seen a + Regex.weight seen b

/-- Which of the two ways is preferred does not matter to the weight. -/
theorem Move.weight_again (seen : Met) (greedy : Bool) (round behind : Stack) :
    (Move.again greedy round behind).weight seen =
      Regex.weight seen round + Regex.weight seen behind := by
  cases greedy
  · exact Nat.add_comm _ _
  · rfl

/-- **Moves make stacks lighter.** What a move leads to weighs less, all
together, than the stack it starts from, once that counts as met. -/
theorem weight_move_lt (seen : Met) (k : Stack) (h : k ∉ seen) :
    (move k).weight (seen.insert k) < weight seen k := by
  have le (k' : Stack) : weight (seen.insert k) k' ≤ weight seen k' := weight_cons_le k seen k'
  fun_cases move k with
  | case1 => simp [Move.weight, weight]
  | case2 _ k => simpa [Move.weight, weight] using Nat.lt_succ_of_le (le k)
  | case3 _ k => simpa [Move.weight, weight] using Nat.lt_succ_of_le (le k)
  | case4 greedy e k =>
    rw [Move.weight_again]
    have hk := le k
    simp only [weight, Met.mem_insert, true_or, if_true, if_neg h, loopWeight]
    omega
  | case5 k => simpa [Move.weight, weight, Expr.weight] using Nat.lt_succ_of_le (le k)
  | case6 k => simpa [Move.weight, weight, Expr.weight] using Nat.lt_succ_of_le (le k)
  | case7 => simp [Move.weight, weight, Expr.weight]
  | case8 => simp [Move.weight, weight, Expr.weight]
  | case9 _ k => simpa [Move.weight, weight, Expr.weight] using Nat.lt_succ_of_le (le k)
  | case10 _ e k =>
    have := e.growing_weight.mono (Nat.succ_le_succ (le k))
    simpa [Move.weight, weight, Expr.weight] using Nat.lt_succ_of_le this
  | case11 first rest k =>
    have := first.growing_weight.mono (rest.growing_weight.mono (le k))
    simpa [Move.weight, weight, Expr.weight] using Nat.lt_succ_of_le this
  | case12 first rest k =>
    have h1 := first.growing_weight.mono (Nat.succ_le_succ (le k))
    have h2 := rest.growing_weight.mono (Nat.succ_le_succ (le k))
    simp only [Move.weight, weight, Expr.weight, Nat.succ_eq_add_one] at h1 h2 ⊢
    omega
  | case13 _ _ k =>
    simpa [Move.weight, weight, Expr.weight, repWeight, upToWeight] using
      Nat.lt_succ_of_le (le k)
  | case14 most greedy e k =>
    rw [Move.weight_again]
    have h1 := e.growing_weight.mono ((e.growing_weight.upToWeight most).mono (le k))
    have h2 := le k
    simp only [weight, Expr.weight, repWeight, upToWeight] at h1 h2 ⊢
    omega
  | case15 greedy e k =>
    rw [Move.weight_again]
    have h1 := e.growing_weight.mono
      (Nat.le_trans (le (.loop greedy e :: k)) (weight_loop_le seen greedy e k))
    have h2 := le k
    simp only [weight, Expr.weight, repWeight] at h1 h2 ⊢
    omega
  | case16 greedy e k =>
    have h1 := Nat.le_trans (le (.loop greedy e :: k)) (weight_loop_le seen greedy e k)
    simp only [Move.weight, weight, Expr.weight, repWeight] at h1 ⊢
    omega
  | case17 least most greedy e k =>
    have h1 := e.growing_weight.mono
      (Nat.le_trans (le (.more least (most.map (· - 1)) greedy e :: k))
        (weight_more_le seen least (most.map (· - 1)) greedy e k))
    simp only [Move.weight, weight, Expr.weight, repWeight] at h1 ⊢
    cases most with
    | none => simp only [Option.map_none] at h1 ⊢; omega
    | some most => simp only [Option.map_some, reduceCtorEq, and_false, if_false] at h1 ⊢; omega

end StatefulLexer.Regex
