/-
Expressions without assertions.

An assertion is all that lets an expression see what lies behind a place, and what
lies ahead of it beyond the characters it takes. Without assertions an expression
finds the same wherever the text ahead is the same: a text can be cut in front of
it. No move puts an assertion on a stack that has none, and nothing else in a round
looks at the place.

Main statements: `Expr.match?_of_hasLook`, `Expr.nullable_of_hasLook`.
-/
import StatefulLexer.Proofs.Regex.Nullable

set_option autoImplicit false

namespace StatefulLexer.Regex

/-! ## Assertions in what is left -/

/-- The expression has an assertion somewhere. -/
def Expr.hasLook : Expr → Bool
  | empty => false
  | literal _ => false
  | set _ _ => false
  | look _ => true
  | rep _ _ _ sub => sub.hasLook
  | capture _ sub => sub.hasLook
  | seq first rest => first.hasLook || rest.hasLook
  | alt first rest => first.hasLook || rest.hasLook

/-- The frame has an assertion somewhere. -/
def Frame.hasLook : Frame → Bool
  | expr e => e.hasLook
  | loop _ e => e.hasLook
  | join _ => false
  | close _ => false

/-- Something that is left has an assertion. -/
def Stack.hasLook (k : Stack) : Bool := k.any Frame.hasLook

/-- The move is an assertion, or leads to one. -/
def Move.hasLook : Move → Bool
  | done => false
  | consume _ k => Stack.hasLook k
  | become k => Stack.hasLook k
  | check _ _ => true
  | opened _ k => Stack.hasLook k
  | closed _ k => Stack.hasLook k
  | fork a b => Stack.hasLook a || Stack.hasLook b

@[simp] theorem Stack.hasLook_cons (f : Frame) (k : Stack) :
    Stack.hasLook (f :: k) = (f.hasLook || Stack.hasLook k) := rfl

@[simp] theorem Move.hasLook_again (greedy : Bool) (round behind : Stack) :
    (Move.again greedy round behind).hasLook
      = (Stack.hasLook round || Stack.hasLook behind) := by
  unfold again
  split
  · rfl
  · exact Bool.or_comm _ _

/-- Whatever is left of a repetition, it repeats the same. -/
@[simp] theorem Frame.hasLook_more (least : Nat) (most : Option Nat) (greedy : Bool) (e : Expr) :
    (Frame.more least most greedy e).hasLook = e.hasLook := by
  unfold more
  split <;> rfl

/-- **A move leads to no assertion** that is not there. -/
theorem hasLook_move {k : Stack} (hk : Stack.hasLook k = false) : (move k).hasLook = false := by
  fun_cases move k with
  | case1 => rfl
  | case4 | case14 | case15 =>
    rw [Move.hasLook_again]
    simp_all [Frame.hasLook, Expr.hasLook]
  | case17 least most greedy e k =>
    rw [Move.hasLook, Stack.hasLook_cons, Stack.hasLook_cons, Frame.hasLook_more]
    simp_all [Frame.hasLook, Expr.hasLook]
  | _ => simp_all [Move.hasLook, Frame.hasLook, Expr.hasLook]

/-- **Without an assertion a thread goes on alike** at every place of one number, and
comes to none. -/
theorem followed_of_hasLook {t : Thread} (ht : Stack.hasLook t.stack = false) {g g' : Gap}
    (hplace : g.place = g'.place) :
    (move t.stack).followed g t = (move t.stack).followed g' t ∧
      ∀ u ∈ (move t.stack).followed g t, Stack.hasLook u.stack = false := by
  have hmove := hasLook_move ht
  cases hm : move t.stack with
  | check l k =>
    rw [hm] at hmove
    cases hmove
  | fork a b =>
    rw [hm] at hmove
    obtain ⟨ha, hb⟩ := Bool.or_eq_false_iff.1 hmove
    refine ⟨rfl, ?_⟩
    intro u hu
    rcases List.mem_cons.1 hu with rfl | hu
    · exact ha
    · rw [List.mem_singleton.1 hu]
      exact hb
  | done | consume wanted k =>
    refine ⟨rfl, ?_⟩
    intro u hu
    cases hu
  | become k | opened index k | closed index k =>
    rw [hm] at hmove
    refine ⟨by simp only [Move.followed, hplace], ?_⟩
    intro u hu
    rw [List.mem_singleton.1 hu]
    exact hmove

/-! ## Rounds and searches -/

/-- **A round without assertions** does not look at the characters around its place. -/
theorem round_of_hasLook (g g' : Gap) (hplace : g.place = g'.place) (seen : Met)
    {ts : List Thread} (hts : ∀ t ∈ ts, Stack.hasLook t.stack = false) :
    round g seen ts = round g' seen ts := by
  induction seen, ts using round_induction g with
  | nil seen => rw [round, round]
  | done seen t ts ht => rw [round_done ts ht, round_done ts ht]
  | met seen t ts ht hs ih =>
    rw [round_met ts ht hs, round_met ts ht hs]
    exact ih fun u hu => hts u (List.mem_cons_of_mem t hu)
  | new seen t ts ht hs ih =>
    obtain ⟨hsame, hfollowed⟩ := followed_of_hasLook (hts t List.mem_cons_self) hplace
    rw [round_new ts ht hs, round_new ts ht hs, ← hsame, ih]
    intro u hu
    rcases List.mem_append.1 hu with hu | hu
    · exact hfollowed u hu
    · exact hts u (List.mem_cons_of_mem t hu)

/-- What lies behind is looked at in the first round alone, and only by assertions. -/
theorem run_of_hasLook (before before' : Option Char) (place : Nat) (ahead : List Char)
    {ts : List Thread} (hts : ∀ t ∈ ts, Stack.hasLook t.stack = false) (best : Option Found) :
    run before place ahead ts best = run before' place ahead ts best := by
  cases ahead with
  | nil =>
    have hround := round_of_hasLook ⟨before, none, place⟩ ⟨before', none, place⟩ rfl .none hts
    rw [run_end, run_end, hround]
  | cons c ahead =>
    have hround := round_of_hasLook ⟨before, some c, place⟩ ⟨before', some c, place⟩ rfl .none hts
    rw [run_cons, run_cons, hround]

/-- **An expression without assertions does not see what lies behind.** -/
theorem Expr.match?_of_hasLook {e : Expr} (h : e.hasLook = false)
    (behind behind' ahead : List Char) : e.match? behind ahead = e.match? behind' ahead := by
  apply run_of_hasLook
  intro t ht
  rw [List.mem_singleton.1 ht, Stack.hasLook_cons, Frame.hasLook, h]
  rfl

/-- **Without assertions the empty text is matched everywhere or nowhere.** -/
theorem Expr.nullable_of_hasLook {e : Expr} (h : e.hasLook = false)
    (before behind before' behind' : Option Char) :
    e.nullable before behind = e.nullable before' behind' := by
  induction e with
  | look l => cases h
  | rep least most greedy sub ih => rw [nullable, nullable, ih h]
  | capture index sub ih => exact ih h
  | seq first rest ih₁ ih₂ =>
    obtain ⟨hfirst, hrest⟩ := Bool.or_eq_false_iff.1 h
    rw [nullable, nullable, ih₁ hfirst, ih₂ hrest]
  | alt first rest ih₁ ih₂ =>
    obtain ⟨hfirst, hrest⟩ := Bool.or_eq_false_iff.1 h
    rw [nullable, nullable, ih₁ hfirst, ih₂ hrest]
  | _ => rfl

end StatefulLexer.Regex
