/-
Characters that no match holds.

A thread takes a character only where a literal or a set of its stack asks for
it, and no move puts anything on a stack that the expression does not have. So a
character that occurs nowhere in an expression is in no match of it. The other
direction fails: that an expression asks for a character somewhere does not mean
that a thread ever gets there, or that its match is preferred.

Main statement: `Expr.avoids_of_admits`.
-/
import StatefulLexer.Proofs.Regex.Search

set_option autoImplicit false

namespace StatefulLexer.Regex

/-! ## Asking for a character -/

/-- The expression asks for the character somewhere. -/
def Expr.admits (c : Char) : Expr → Bool
  | empty => false
  | literal text => text.contains c
  | set s _ => s.contains c
  | look _ => false
  | rep _ _ _ sub => sub.admits c
  | capture _ sub => sub.admits c
  | seq first rest => first.admits c || rest.admits c
  | alt first rest => first.admits c || rest.admits c

/-- The frame asks for the character somewhere. -/
def Frame.admits (c : Char) : Frame → Bool
  | expr e => e.admits c
  | loop _ e => e.admits c
  | join _ => false
  | close _ => false

/-- Something that is left asks for the character. -/
def Stack.admits (c : Char) (k : Stack) : Bool := k.any (Frame.admits c)

/-- A thread behind the move asks for the character. -/
def Move.admits (c : Char) : Move → Bool
  | done => false
  | consume wanted k => wanted c || Stack.admits c k
  | become k => Stack.admits c k
  | check _ k => Stack.admits c k
  | opened _ k => Stack.admits c k
  | closed _ k => Stack.admits c k
  | fork a b => Stack.admits c a || Stack.admits c b

section

variable {c : Char}

@[simp] theorem Stack.admits_cons (f : Frame) (k : Stack) :
    Stack.admits c (f :: k) = (f.admits c || Stack.admits c k) := rfl

@[simp] theorem Move.admits_again (greedy : Bool) (round behind : Stack) :
    (Move.again greedy round behind).admits c
      = (Stack.admits c round || Stack.admits c behind) := by
  unfold again
  split
  · rfl
  · exact Bool.or_comm _ _

/-- Whatever is left of a repetition, it repeats the same. -/
@[simp] theorem Frame.admits_more (least : Nat) (most : Option Nat) (greedy : Bool) (e : Expr) :
    (Frame.more least most greedy e).admits c = e.admits c := by
  unfold more
  split <;> rfl

/-- **A move asks for nothing new.** -/
theorem admits_move {k : Stack} (hk : Stack.admits c k = false) : (move k).admits c = false := by
  fun_cases move k with
  | case1 => rfl
  | case7 d text k =>
    have hk : ((d :: text).contains c || Stack.admits c k) = false := hk
    rw [List.contains_cons, Bool.or_assoc, Bool.or_eq_false_iff] at hk
    obtain ⟨hd, hrest⟩ := hk
    rw [Move.admits, Stack.admits_cons, Frame.admits, Expr.admits, hrest, Bool.or_false]
    exact hd
  -- The cases in which a repetition goes on: its rounds ask for what it asks for.
  | case4 | case14 | case15 =>
    rw [Move.admits_again]
    simp_all [Frame.admits, Expr.admits]
  | case17 least most greedy e k =>
    rw [Move.admits, Stack.admits_cons, Stack.admits_cons, Frame.admits_more]
    simp_all [Frame.admits, Expr.admits]
  | _ => simp_all [Move.admits, Frame.admits, Expr.admits]

/-- What a move leads to asks for nothing that the move does not. -/
theorem admits_followed {m : Move} (hm : m.admits c = false) (g : Gap) (t : Thread) :
    ∀ u ∈ m.followed g t, Stack.admits c u.stack = false := by
  intro u hu
  cases m with
  | done => cases hu
  | consume wanted k => cases hu
  | check l k =>
    rw [Move.followed] at hu
    split at hu
    · rw [List.mem_singleton.1 hu]
      exact hm
    · cases hu
  | fork a b =>
    obtain ⟨ha, hb⟩ := Bool.or_eq_false_iff.1 hm
    rcases List.mem_cons.1 hu with rfl | hu
    · exact ha
    · rw [List.mem_singleton.1 hu]
      exact hb
  | _ =>
    rw [List.mem_singleton.1 hu]
    exact hm

/-- A thread that takes a character asked for it, and asks for nothing new behind it. -/
theorem admits_take? {t u : Thread} {d : Char} (ht : Stack.admits c t.stack = false)
    (hu : t.take? d = some u) : d ≠ c ∧ Stack.admits c u.stack = false := by
  have hmove := admits_move ht
  unfold Thread.take? at hu
  split at hu
  · rename_i wanted k hm
    rw [hm] at hmove
    obtain ⟨hwanted, hk⟩ := Bool.or_eq_false_iff.1 hmove
    split at hu
    · rename_i hd
      cases hu
      refine ⟨fun heq => ?_, hk⟩
      rw [heq, hwanted] at hd
      cases hd
    · cases hu
  · cases hu

/-! ## Rounds and searches -/

/-- **A round asks for nothing new.** -/
theorem admits_round (g : Gap) (seen : Met) {ts : List Thread}
    (hts : ∀ t ∈ ts, Stack.admits c t.stack = false) :
    ∀ t ∈ round g seen ts, Stack.admits c t.stack = false :=
  forall_round (P := fun t => Stack.admits c t.stack = false)
    (fun t ht => admits_followed (admits_move ht) g t) hts

/-- **What is found does not hold what no thread asks for.** -/
theorem not_mem_of_run {before : Option Char} {place : Nat} {ahead : List Char}
    {ts : List Thread} {found : Found} (hts : ∀ t ∈ ts, Stack.admits c t.stack = false)
    (h : run before place ahead ts none = some found) :
    place ≤ found.width ∧ c ∉ ahead.take (found.width - place) := by
  induction ahead generalizing before place ts with
  | nil =>
    rw [run_end, Option.or_none] at h
    rw [width_of_doneIn h, List.take_nil]
    exact ⟨Nat.le_refl place, List.not_mem_nil⟩
  | cons d ahead ih =>
    rw [run_cons, run_best, Option.or_none] at h
    rcases Option.or_eq_some_iff.1 h with h | ⟨_, h⟩
    · -- Something is found behind the character, so some thread took it.
      have hround := admits_round ⟨before, some d, place⟩ .none hts
      have hbehind : ∀ u ∈ (round ⟨before, some d, place⟩ .none ts).filterMap (Thread.take? d),
          d ≠ c ∧ Stack.admits c u.stack = false := by
        intro u hu
        obtain ⟨t, ht, htake⟩ := List.mem_filterMap.1 hu
        exact admits_take? (hround t ht) htake
      obtain ⟨hle, hnot⟩ := ih (fun u hu => (hbehind u hu).2) h
      have hd : d ≠ c := by
        cases hthreads : (round ⟨before, some d, place⟩ .none ts).filterMap (Thread.take? d) with
        | nil =>
          rw [hthreads, run_nil] at h
          cases h
        | cons u us => exact (hbehind u (by rw [hthreads]; exact List.mem_cons_self)).1
      have hwidth : found.width - place = found.width - (place + 1) + 1 := by omega
      refine ⟨Nat.le_of_succ_le hle, ?_⟩
      rw [hwidth, List.take_succ_cons, List.mem_cons]
      rintro (hc | hc)
      · exact hd hc.symm
      · exact hnot hc
    · rw [width_of_doneIn h, Nat.sub_self, List.take_zero]
      exact ⟨Nat.le_refl place, List.not_mem_nil⟩

end

/-! ## Avoiding a character -/

/-- **No match of the expression holds the character,** at whatever place of whatever
text. -/
def Expr.Avoids (e : Expr) (c : Char) : Prop :=
  ∀ (behind ahead : List Char) (found : Found),
    e.match? behind ahead = some found → c ∉ ahead.take found.width

/-- **An expression avoids what it does not ask for.** -/
theorem Expr.avoids_of_admits {e : Expr} {c : Char} (h : e.admits c = false) : e.Avoids c := by
  intro behind ahead found hfound
  have hts : ∀ t ∈ [({ stack := [.expr e] } : Thread)], Stack.admits c t.stack = false := by
    intro t ht
    rw [List.mem_singleton.1 ht, Stack.admits_cons, Frame.admits, h]
    rfl
  exact (not_mem_of_run hts hfound).2

/-- A match holds a character exactly if it goes on behind the first one that lies
ahead. -/
theorem Expr.avoids_iff {e : Expr} {c : Char} :
    e.Avoids c ↔ ∀ (behind front rest : List Char) (found : Found), c ∉ front →
      e.match? behind (front ++ c :: rest) = some found → found.width ≤ front.length := by
  constructor
  · intro h behind front rest found _ hfound
    refine Nat.le_of_not_lt fun hlong => h _ _ found hfound ?_
    have hpos : found.width - front.length = found.width - front.length - 1 + 1 := by omega
    rw [List.take_append, hpos, List.take_succ_cons]
    exact List.mem_append_right _ List.mem_cons_self
  · intro h behind ahead found hfound hmem
    obtain ⟨front, rest, rfl, hfront⟩ := List.eq_append_cons_of_mem (List.mem_of_mem_take hmem)
    have hle := h behind front rest found hfront hfound
    rw [List.take_append_of_le_length hle] at hmem
    exact hfront (List.mem_of_mem_take hmem)

end StatefulLexer.Regex
