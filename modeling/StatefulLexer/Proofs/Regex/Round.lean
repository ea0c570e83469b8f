/-
What a round finds.

A round drops every stack that it has met before. That is sound only because of
the order in which it meets them: what a stack leads to was found already, by
threads that are preferred. Here this is made precise. Each waiting thread has an
outcome, and what counts of a round is the first outcome that is there. The
threads of a round can then be followed one after the other, each as if no stack
had been met before it.

The idea is that stacks that were followed to their ends in vain may be met again
without harm. Such a set of stacks is `Barren`: it is closed under moves, and no
thread in it comes to anything.

Main statement: `firstOf_append`.
-/
import StatefulLexer.Regex.Machine

set_option autoImplicit false

namespace StatefulLexer.Regex

/-! ## Rounds, thread by thread -/

/-- The move asks for a character. -/
def Move.waits : Move → Bool
  | consume _ _ => true
  | _ => false

/-- A thread that has matched ends the round. -/
theorem round_done {g : Gap} {seen : Met} {t : Thread} (ts : List Thread)
    (ht : t.isDone = true) : round g seen (t :: ts) = [t] := by
  rw [round, if_pos ht]

/-- A thread whose stack was met is dropped. -/
theorem round_met {g : Gap} {seen : Met} {t : Thread} (ts : List Thread)
    (ht : t.isDone = false) (hs : t.stack ∈ seen) : round g seen (t :: ts) = round g seen ts := by
  rw [round, if_neg (by simp [ht]), dif_pos hs]

/-- Any other thread is kept if it waits, and is followed if it does not. -/
theorem round_new {g : Gap} {seen : Met} {t : Thread} (ts : List Thread)
    (ht : t.isDone = false) (hs : ¬t.stack ∈ seen) :
    round g seen (t :: ts) = (if (move t.stack).waits then [t] else []) ++
      round g (seen.insert t.stack) ((move t.stack).followed g t ++ ts) := by
  rw [round, if_neg (by simp [ht]), dif_neg hs]
  dsimp only
  cases hm : move t.stack with
  | consume wanted k => rfl
  | _ => rfl

/-- **Induction along a round.** -/
theorem round_induction (g : Gap) {motive : Met → List Thread → Prop}
    (nil : ∀ seen, motive seen [])
    (done : ∀ seen t ts, t.isDone = true → motive seen (t :: ts))
    (met : ∀ seen t ts, t.isDone = false → t.stack ∈ seen → motive seen ts → motive seen (t :: ts))
    (new : ∀ seen t ts, t.isDone = false → ¬t.stack ∈ seen →
      motive (seen.insert t.stack) ((move t.stack).followed g t ++ ts) → motive seen (t :: ts))
    (seen : Met) (ts : List Thread) : motive seen ts := by
  fun_induction round g seen ts with
  | case1 seen => exact nil seen
  | case2 seen t ts ht => exact done seen t ts ht
  | case3 seen t ts ht hs _ ih => exact met seen t ts (Bool.eq_false_iff.2 ht) hs ih
  | case4 seen t ts ht hs _ wanted k hm _ ih =>
    refine new seen t ts (Bool.eq_false_iff.2 ht) hs ?_
    rw [hm]
    exact ih
  | case5 seen t ts ht hs _ _ ih => exact new seen t ts (Bool.eq_false_iff.2 ht) hs ih

/-- Only the last thread of a round may have matched. -/
theorem round_pairwise (g : Gap) (seen : Met) (ts : List Thread) :
    (round g seen ts).Pairwise fun t _ => t.isDone = false := by
  induction seen, ts using round_induction g with
  | nil seen => rw [round]; exact .nil
  | done seen t ts ht => rw [round_done ts ht]; exact List.pairwise_singleton _ _
  | met seen t ts ht hs ih => rw [round_met ts ht hs]; exact ih
  | new seen t ts ht hs ih =>
    rw [round_new ts ht hs]
    split
    · exact .cons (fun _ _ => ht) ih
    · exact ih

/-- **What moves keep, a round keeps.** A property of threads that no move loses holds
of all threads of a round. -/
theorem forall_round {g : Gap} {P : Thread → Prop}
    (hmove : ∀ t : Thread, P t → ∀ u ∈ (move t.stack).followed g t, P u)
    {seen : Met} {ts : List Thread} (hts : ∀ t ∈ ts, P t) :
    ∀ t ∈ round g seen ts, P t := by
  induction seen, ts using round_induction g with
  | nil seen =>
    rw [round]
    exact hts
  | done seen t ts ht =>
    rw [round_done ts ht]
    intro u hu
    rw [List.mem_singleton.1 hu]
    exact hts t List.mem_cons_self
  | met seen t ts ht hs ih =>
    rw [round_met ts ht hs]
    exact ih fun u hu => hts u (List.mem_cons_of_mem t hu)
  | new seen t ts ht hs ih =>
    have hself := hts t List.mem_cons_self
    rw [round_new ts ht hs]
    intro u hu
    rcases List.mem_append.1 hu with hu | hu
    · split at hu
      · rw [List.mem_singleton.1 hu]
        exact hself
      · cases hu
    · refine ih (fun v hv => ?_) u hu
      rcases List.mem_append.1 hv with hv | hv
      · exact hmove t hself v hv
      · exact hts v (List.mem_cons_of_mem t hv)

/-! ## The first outcome -/

/-- What threads come to, told by what each waiting thread comes to. -/
abbrev Outcome := Thread → Option Found

/-- **The first outcome** of a round. -/
def firstOf (g : Gap) (out : Outcome) (seen : Met) (ts : List Thread) : Option Found :=
  (round g seen ts).findSome? out

/-- The outcomes are those of stacks: a thread that has matched has one, and whether
there is one, and how wide it is, is the same for threads with the same stack. -/
structure Outcome.OfStacks (out : Outcome) : Prop where
  done : ∀ t, t.isDone = true → (out t).isSome = true
  width : ∀ t u, t.stack = u.stack → (out t).map Found.width = (out u).map Found.width

section

variable {g : Gap} {out : Outcome} {seen : Met} {t : Thread}

@[simp] theorem firstOf_nil : firstOf g out seen [] = none := by
  rw [firstOf, round]
  rfl

theorem firstOf_done (hout : out.OfStacks) (ts : List Thread) (ht : t.isDone = true) :
    firstOf g out seen (t :: ts) = out t := by
  obtain ⟨found, hfound⟩ := Option.isSome_iff_exists.1 (hout.done t ht)
  rw [firstOf, round_done ts ht, List.findSome?_cons, hfound]

theorem firstOf_met (ts : List Thread) (ht : t.isDone = false) (hs : t.stack ∈ seen) :
    firstOf g out seen (t :: ts) = firstOf g out seen ts := by
  rw [firstOf, round_met ts ht hs, firstOf]

theorem firstOf_new (ts : List Thread) (ht : t.isDone = false) (hs : ¬t.stack ∈ seen) :
    firstOf g out seen (t :: ts) = (if (move t.stack).waits then out t else none).or
      (firstOf g out (seen.insert t.stack) ((move t.stack).followed g t ++ ts)) := by
  rw [firstOf, round_new ts ht hs, List.findSome?_append, firstOf]
  by_cases hw : (move t.stack).waits = true
  · rw [if_pos hw, if_pos hw, List.findSome?_singleton]
  · rw [if_neg hw, if_neg hw]
    rfl

/-- Threads that were met come to nothing new. -/
theorem firstOf_append_met {us : List Thread} (ts : List Thread)
    (hus : ∀ u ∈ us, u.isDone = false ∧ u.stack ∈ seen) :
    firstOf g out seen (us ++ ts) = firstOf g out seen ts := by
  induction us with
  | nil => rfl
  | cons u us ih =>
    obtain ⟨hdone, hmet⟩ := hus u List.mem_cons_self
    rw [List.cons_append, firstOf_met _ hdone hmet]
    exact ih fun v hv => hus v (List.mem_cons_of_mem u hv)

end

/-! ## Closed sets of stacks -/

/-- **A closed set of stacks:** no move leads out of it. -/
def Closed (g : Gap) (within : Stack → Prop) : Prop :=
  ∀ t : Thread, within t.stack → ∀ u ∈ (move t.stack).followed g t, within u.stack

theorem Closed.all (g : Gap) : Closed g fun _ => True := fun _ _ _ _ => trivial

/-- A stack and what its moves lead to. -/
theorem Closed.insert {g : Gap} {within : Stack → Prop} (h : Closed g within) {k : Stack}
    (hk : ∀ t : Thread, t.stack = k → ∀ u ∈ (move t.stack).followed g t, within u.stack) :
    Closed g fun q => q = k ∨ within q := by
  rintro t (ht | ht) u hu
  · exact .inr (hk t ht u hu)
  · exact .inr (h t ht u hu)

/-- A round is the same whichever stacks were met before, if its threads never come to
one of those. -/
theorem round_congr {g : Gap} {within : Stack → Prop} (hclosed : Closed g within)
    {seen more : Met} {ts : List Thread} (hts : ∀ t ∈ ts, within t.stack)
    (hseen : ∀ q, within q → (q ∈ more ↔ q ∈ seen)) : round g more ts = round g seen ts := by
  induction seen, ts using round_induction g generalizing more with
  | nil seen => rw [round, round]
  | done seen t ts ht => rw [round_done ts ht, round_done ts ht]
  | met seen t ts ht hs ih =>
    have hmem := (hseen _ (hts t List.mem_cons_self)).2 hs
    rw [round_met ts ht hs, round_met ts ht hmem]
    exact ih (fun u hu => hts u (List.mem_cons_of_mem t hu)) hseen
  | new seen t ts ht hs ih =>
    have hself := hts t List.mem_cons_self
    have hnew := mt (hseen _ hself).1 hs
    rw [round_new ts ht hs, round_new ts ht hnew, ih ?_ ?_]
    · intro u hu
      rcases List.mem_append.1 hu with hu | hu
      · exact hclosed t hself u hu
      · exact hts u (List.mem_cons_of_mem t hu)
    · intro q hq
      rw [Met.mem_insert, Met.mem_insert, hseen q hq]

/-! ## Barren stacks -/

/-- **Barren stacks:** nothing in them has matched or comes to anything, and no move
leads out of them. -/
structure Barren (g : Gap) (out : Outcome) (inside : Stack → Prop) : Prop where
  isDone : ∀ t : Thread, inside t.stack → t.isDone = false
  waits : ∀ t : Thread, inside t.stack → (move t.stack).waits = true → out t = none
  followed : Closed g inside

/-- **Barren stacks may be met again.** To have met them beforehand does not change
what a round finds. Only the stacks that the round may come to have to be looked at. -/
theorem firstOf_barren {g : Gap} {out : Outcome} {inside within : Stack → Prop}
    (hout : out.OfStacks) (hbarren : Barren g out inside) (hclosed : Closed g within)
    {seen more : Met} {ts : List Thread} (hts : ∀ t ∈ ts, within t.stack)
    (hmore : ∀ q, within q → (q ∈ more ↔ inside q ∨ q ∈ seen)) :
    firstOf g out more ts = firstOf g out seen ts := by
  induction seen, ts using round_induction g generalizing more with
  | nil seen => rw [firstOf_nil, firstOf_nil]
  | done seen t ts ht => rw [firstOf_done hout ts ht, firstOf_done hout ts ht]
  | met seen t ts ht hs ih =>
    obtain ⟨hself, hts⟩ := List.forall_mem_cons.1 hts
    rw [firstOf_met ts ht hs, firstOf_met ts ht ((hmore _ hself).2 (.inr hs))]
    exact ih hts hmore
  | new seen t ts ht hs ih =>
    obtain ⟨hself, hts⟩ := List.forall_mem_cons.1 hts
    have hfollowed := hclosed t hself
    have ih {more : Met} := @ih more (List.forall_mem_append.2 ⟨hfollowed, hts⟩)
    by_cases hb : inside t.stack
    · -- The stack is barren: it is dropped on the left, and followed in vain on the right.
      have hwaits : (if (move t.stack).waits then out t else none) = none := by
        split
        · rename_i hw
          exact hbarren.waits t hb hw
        · rfl
      have hinsert : ∀ q, within q → (q ∈ more ↔ inside q ∨ q ∈ seen.insert t.stack) := by
        intro q hq
        rw [hmore q hq, Met.mem_insert]
        exact ⟨fun h => h.imp_right .inr, fun h => h.elim .inl fun h => h.elim
          (fun hq => .inl (by rw [hq]; exact hb)) .inr⟩
      have hmet : ∀ u ∈ (move t.stack).followed g t, u.isDone = false ∧ u.stack ∈ more :=
        fun u hu => ⟨hbarren.isDone u (hbarren.followed t hb u hu),
          (hmore _ (hfollowed u hu)).2 (.inl (hbarren.followed t hb u hu))⟩
      rw [firstOf_met ts ht ((hmore _ hself).2 (.inl hb)), firstOf_new ts ht hs, hwaits,
        Option.none_or, ← ih hinsert, firstOf_append_met ts hmet]
    · have hnew : ¬t.stack ∈ more := fun h => ((hmore _ hself).1 h).elim hb hs
      have hinsert : ∀ q, within q →
          (q ∈ more.insert t.stack ↔ inside q ∨ q ∈ seen.insert t.stack) := by
        intro q hq
        rw [Met.mem_insert, Met.mem_insert, hmore q hq]
        exact or_left_comm
      rw [firstOf_new ts ht hnew, firstOf_new ts ht hs, ih hinsert]

/-- So they may be met from the start. -/
theorem firstOf_met_barren {g : Gap} {out : Outcome} {last : Met} (hout : out.OfStacks)
    (hbarren : Barren g out (· ∈ last)) (ts : List Thread) :
    firstOf g out last ts = firstOf g out .none ts :=
  firstOf_barren hout hbarren (.all g) (fun _ _ => trivial) fun q _ =>
    (or_iff_left (Met.not_mem_none q)).symm

/-- What a move leads to does not depend on the rest of the thread. -/
theorem map_stack_followed (m : Move) (g : Gap) (t u : Thread) :
    (m.followed g t).map Thread.stack = (m.followed g u).map Thread.stack := by
  cases m with
  | check l k =>
    rw [Move.followed, Move.followed]
    split <;> rfl
  | _ => rfl

/-- Stacks are barren as far as their moves do not lead to what is still to be followed. -/
structure BarrenUpTo (g : Gap) (out : Outcome) (inside : Stack → Prop) (ts : List Thread) :
    Prop where
  isDone : ∀ t : Thread, inside t.stack → t.isDone = false
  waits : ∀ t : Thread, inside t.stack → (move t.stack).waits = true → out t = none
  followed : ∀ t : Thread, inside t.stack → ∀ u ∈ (move t.stack).followed g t,
    inside u.stack ∨ ∃ v ∈ ts, v.stack = u.stack

namespace BarrenUpTo

variable {g : Gap} {out : Outcome} {inside : Stack → Prop} {t : Thread} {ts : List Thread}

/-- Before a round nothing was met. -/
theorem none (g : Gap) (out : Outcome) (ts : List Thread) :
    BarrenUpTo g out (· ∈ Met.none) ts where
  isDone t ht := absurd ht (Met.not_mem_none t.stack)
  waits t ht := absurd ht (Met.not_mem_none t.stack)
  followed t ht := absurd ht (Met.not_mem_none t.stack)

/-- Where nothing is to be followed any more, the stacks are barren. -/
theorem barren (h : BarrenUpTo g out inside []) : Barren g out inside where
  isDone := h.isDone
  waits := h.waits
  followed t ht u hu := (h.followed t ht u hu).elim id fun ⟨_, hv, _⟩ => nomatch hv

/-- One more thread may be followed. -/
theorem more (h : BarrenUpTo g out inside ts) (t : Thread) : BarrenUpTo g out inside (t :: ts) where
  isDone := h.isDone
  waits := h.waits
  followed t' ht' u hu := (h.followed t' ht' u hu).imp_right fun ⟨v, hv, hstack⟩ =>
    ⟨v, List.mem_cons_of_mem t hv, hstack⟩

theorem congr (h : BarrenUpTo g out inside ts) {inside' : Stack → Prop}
    (hinside : ∀ q, inside' q ↔ inside q) : BarrenUpTo g out inside' ts := by
  obtain rfl : inside' = inside := funext fun q => propext (hinside q)
  exact h

/-- A thread that is among the stacks need not be followed: what leads to it leads to one of
them. -/
theorem met (h : BarrenUpTo g out inside (t :: ts)) (ht : inside t.stack) :
    BarrenUpTo g out inside ts where
  isDone := h.isDone
  waits := h.waits
  followed t' ht' u hu := by
    rcases h.followed t' ht' u hu with h | ⟨v, hv, hstack⟩
    · exact .inl h
    · rcases List.mem_cons.1 hv with rfl | hv
      · exact .inl (by rw [← hstack]; exact ht)
      · exact .inr ⟨v, hv, hstack⟩

/-- **A thread that comes to nothing itself** is one of them from then on, and what it leads to
is to be followed. -/
theorem new (hout : out.OfStacks) (h : BarrenUpTo g out inside (t :: ts))
    (ht : t.isDone = false)
    (hwaits : (if (move t.stack).waits then out t else Option.none) = Option.none) :
    BarrenUpTo g out (fun q => q = t.stack ∨ inside q) ((move t.stack).followed g t ++ ts) where
  isDone t' ht' := by
    rcases ht' with heq | ht'
    · rw [Thread.isDone, heq]
      exact ht
    · exact h.isDone t' ht'
  waits t' ht' hw := by
    rcases ht' with heq | ht'
    · -- Threads with one stack come to the same, and this one comes to nothing.
      rw [heq] at hw
      rw [if_pos hw] at hwaits
      have hwidth := hout.width t' t heq
      rw [hwaits] at hwidth
      exact Option.map_eq_none_iff.1 hwidth
    · exact h.waits t' ht' hw
  followed t' ht' u hu := by
    rcases ht' with heq | ht'
    · rw [heq] at hu
      have hu' := List.mem_map_of_mem (f := Thread.stack) hu
      rw [map_stack_followed _ g t' t] at hu'
      obtain ⟨v, hv, hstack⟩ := List.mem_map.1 hu'
      exact .inr ⟨v, List.mem_append_left _ hv, hstack⟩
    · rcases h.followed t' ht' u hu with h | ⟨v, hv, hstack⟩
      · exact .inl (.inr h)
      · rcases List.mem_cons.1 hv with rfl | hv
        · exact .inl (.inl hstack.symm)
        · exact .inr ⟨v, List.mem_append_right _ hv, hstack⟩

end BarrenUpTo

/-- **Followed in vain so far:** what was met of some stacks leads to nothing, unless to threads
that come next and are among these stacks as well. -/
def VainSoFar (g : Gap) (out : Outcome) (behind : Stack → Prop) (seen : Met) (ts : List Thread) :
    Prop :=
  ∃ front, front <+: ts ∧ (∀ t ∈ front, behind t.stack) ∧
    BarrenUpTo g out (fun q => q ∈ seen ∧ behind q) front

namespace VainSoFar

variable {g : Gap} {out : Outcome} {behind : Stack → Prop} {seen : Met} {t : Thread}
  {ts : List Thread}

theorem none (g : Gap) (out : Outcome) (behind : Stack → Prop) (ts : List Thread) :
    VainSoFar g out behind .none ts :=
  ⟨[], List.nil_prefix, nofun, (BarrenUpTo.none g out []).congr fun q =>
    iff_of_false (fun h => Met.not_mem_none q h.1) (Met.not_mem_none q)⟩

/-- If another thread comes next, they are barren. -/
theorem barren (h : VainSoFar g out behind seen (t :: ts)) (ht : ¬behind t.stack) :
    Barren g out fun q => q ∈ seen ∧ behind q := by
  obtain ⟨front, hfront, hall, hupto⟩ := h
  rcases List.prefix_cons_iff.1 hfront with rfl | ⟨front, rfl, _⟩
  · exact hupto.barren
  · exact absurd (hall t List.mem_cons_self) ht

theorem met (h : VainSoFar g out behind seen (t :: ts)) (ht : t.stack ∈ seen) :
    VainSoFar g out behind seen ts := by
  obtain ⟨front, hfront, hall, hupto⟩ := h
  rcases List.prefix_cons_iff.1 hfront with rfl | ⟨front, rfl, hrest⟩
  · exact ⟨[], List.nil_prefix, nofun, hupto⟩
  · obtain ⟨hself, hall⟩ := List.forall_mem_cons.1 hall
    exact ⟨front, hrest, hall, hupto.met ⟨ht, hself⟩⟩

theorem new (hout : out.OfStacks) (hclosed : Closed g behind)
    (h : VainSoFar g out behind seen (t :: ts)) (ht : t.isDone = false)
    (hwaits : (if (move t.stack).waits then out t else Option.none) = Option.none) :
    VainSoFar g out behind (seen.insert t.stack) ((move t.stack).followed g t ++ ts) := by
  obtain ⟨front, hfront, hall, hupto⟩ := h
  by_cases hself : behind t.stack
  · -- What the thread leads to comes next.
    have hinsert : ∀ q, q ∈ seen.insert t.stack ∧ behind q
        ↔ q = t.stack ∨ q ∈ seen ∧ behind q := by
      intro q
      rw [Met.mem_insert, or_and_right]
      exact or_congr_left ⟨And.left, fun heq => ⟨heq, heq ▸ hself⟩⟩
    rcases List.prefix_cons_iff.1 hfront with rfl | ⟨front, rfl, hrest⟩
    · refine ⟨(move t.stack).followed g t, List.prefix_append _ _, hclosed t hself, ?_⟩
      have hupto' := BarrenUpTo.new hout (hupto.more t) ht hwaits
      rw [List.append_nil] at hupto'
      exact hupto'.congr hinsert
    · refine ⟨(move t.stack).followed g t ++ front,
        (List.prefix_append_right_inj _).2 hrest, ?_, (hupto.new hout ht hwaits).congr hinsert⟩
      exact List.forall_mem_append.2 ⟨hclosed t hself, (List.forall_mem_cons.1 hall).2⟩
  · rcases List.prefix_cons_iff.1 hfront with rfl | ⟨front, rfl, _⟩
    · refine ⟨[], List.nil_prefix, nofun, hupto.congr fun q => ?_⟩
      rw [Met.mem_insert, or_and_right]
      exact or_iff_right fun h => hself (h.1 ▸ h.2)
    · exact absurd (hall t List.mem_cons_self) hself

end VainSoFar

/-- **A round in vain** ends with barren stacks, those it began with among them, and goes
on with further threads from there. -/
theorem firstOf_eq_none {g : Gap} {out : Outcome} (hout : out.OfStacks) {seen : Met}
    {ts : List Thread} (hupto : BarrenUpTo g out (· ∈ seen) ts)
    (hnone : firstOf g out seen ts = none) :
    ∃ last : Met, Barren g out (· ∈ last) ∧ (∀ q, q ∈ seen → q ∈ last) ∧
      (∀ t ∈ ts, t.stack ∈ last) ∧
      ∀ us, firstOf g out seen (ts ++ us) = firstOf g out last us := by
  induction seen, ts using round_induction g with
  | nil seen => exact ⟨seen, hupto.barren, fun q hq => hq, nofun, fun us => rfl⟩
  | done seen t ts ht =>
    rw [firstOf_done hout ts ht] at hnone
    have hsome := hout.done t ht
    rw [hnone] at hsome
    cases hsome
  | met seen t ts ht hs ih =>
    rw [firstOf_met ts ht hs] at hnone
    obtain ⟨last, hbarren, hseen, hts, happend⟩ := ih (hupto.met hs) hnone
    refine ⟨last, hbarren, hseen, ?_, fun us => ?_⟩
    · rintro u hu
      rcases List.mem_cons.1 hu with rfl | hu
      · exact hseen _ hs
      · exact hts u hu
    · rw [List.cons_append, firstOf_met _ ht hs]
      exact happend us
  | new seen t ts ht hs ih =>
    rw [firstOf_new ts ht hs, Option.or_eq_none_iff] at hnone
    obtain ⟨hwaits, hnone⟩ := hnone
    obtain ⟨last, hbarren, hseen, hts, happend⟩ :=
      ih ((hupto.new hout ht hwaits).congr fun _ => Met.mem_insert) hnone
    refine ⟨last, hbarren, fun q hq => hseen q (Met.mem_insert.2 (.inr hq)), ?_, fun us => ?_⟩
    · rintro u hu
      rcases List.mem_cons.1 hu with rfl | hu
      · exact hseen _ (Met.mem_insert.2 (.inl rfl))
      · exact hts u (List.mem_append_right _ hu)
    · rw [List.cons_append, firstOf_new _ ht hs, hwaits, Option.none_or, ← List.append_assoc]
      exact happend us

/-! ## One thread after the other -/

/-- What a round finds, it finds also if more threads come behind. -/
theorem firstOf_append_of_some {g : Gap} {out : Outcome} (hout : out.OfStacks) {seen : Met}
    {ts : List Thread} {found : Found} (us : List Thread)
    (hsome : firstOf g out seen ts = some found) :
    firstOf g out seen (ts ++ us) = some found := by
  induction seen, ts using round_induction g with
  | nil seen =>
    rw [firstOf_nil] at hsome
    cases hsome
  | done seen t ts ht =>
    rw [firstOf_done hout ts ht] at hsome
    rw [List.cons_append, firstOf_done hout _ ht, hsome]
  | met seen t ts ht hs ih =>
    rw [firstOf_met ts ht hs] at hsome
    rw [List.cons_append, firstOf_met _ ht hs]
    exact ih hsome
  | new seen t ts ht hs ih =>
    rw [firstOf_new ts ht hs] at hsome
    rw [List.cons_append, firstOf_new _ ht hs, ← List.append_assoc]
    rcases Option.or_eq_some_iff.1 hsome with h | ⟨h, hrest⟩
    · rw [h]
      rfl
    · rw [h, Option.none_or]
      exact ih hrest

/-- **Threads are followed one after the other.** What threads find is what the first
of them find, or else what the others find on their own. -/
theorem firstOf_append (g : Gap) {out : Outcome} (hout : out.OfStacks) (ts us : List Thread) :
    firstOf g out .none (ts ++ us) = (firstOf g out .none ts).or (firstOf g out .none us) := by
  cases hts : firstOf g out .none ts with
  | some found => exact firstOf_append_of_some hout us hts
  | none =>
    obtain ⟨last, hbarren, _, _, happend⟩ := firstOf_eq_none hout (.none g out ts) hts
    rw [happend, Option.none_or, firstOf_met_barren hout hbarren]

/-- Threads with the same stacks find a match of the same width. -/
theorem firstOf_width {g : Gap} {out : Outcome} (hout : out.OfStacks) {seen : Met}
    {ts us : List Thread} (h : ts.map Thread.stack = us.map Thread.stack) :
    (firstOf g out seen ts).map Found.width = (firstOf g out seen us).map Found.width := by
  induction seen, ts using round_induction g generalizing us with
  | nil seen =>
    rw [List.map_nil] at h
    rw [List.map_eq_nil_iff.1 h.symm]
  | done seen t ts ht =>
    obtain ⟨u, us, rfl, hu, _⟩ := List.map_eq_cons_iff.1 h.symm
    have hdone : u.isDone = true := by rw [Thread.isDone, hu]; exact ht
    rw [firstOf_done hout ts ht, firstOf_done hout us hdone]
    exact hout.width t u hu.symm
  | met seen t ts ht hs ih =>
    obtain ⟨u, us, rfl, hu, hus⟩ := List.map_eq_cons_iff.1 h.symm
    have hdone : u.isDone = false := by rw [Thread.isDone, hu]; exact ht
    have hmet : u.stack ∈ seen := by rw [hu]; exact hs
    rw [firstOf_met ts ht hs, firstOf_met us hdone hmet]
    exact ih hus.symm
  | new seen t ts ht hs ih =>
    obtain ⟨u, us, rfl, hu, hus⟩ := List.map_eq_cons_iff.1 h.symm
    have hdone : u.isDone = false := by rw [Thread.isDone, hu]; exact ht
    have hnew : ¬u.stack ∈ seen := by rw [hu]; exact hs
    have hstacks : ((move t.stack).followed g t ++ ts).map Thread.stack
        = ((move t.stack).followed g u ++ us).map Thread.stack := by
      rw [List.map_append, List.map_append, map_stack_followed _ g t u, hus]
    have hrest := ih hstacks
    rw [firstOf_new ts ht hs, firstOf_new us hdone hnew, hu]
    by_cases hw : (move t.stack).waits = true
    · have hwidth := hout.width t u hu.symm
      rw [if_pos hw, if_pos hw]
      cases ht' : out t with
      | none =>
        rw [ht'] at hwidth
        rw [Option.map_eq_none_iff.1 hwidth.symm, Option.none_or, Option.none_or]
        exact hrest
      | some found =>
        rw [ht'] at hwidth
        obtain ⟨found', hu', hfound⟩ := Option.map_eq_some_iff.1 hwidth.symm
        rw [hu', Option.some_or, Option.some_or, Option.map_some, Option.map_some, hfound]
    · rw [if_neg hw, if_neg hw, Option.none_or, Option.none_or]
      exact hrest

end StatefulLexer.Regex
