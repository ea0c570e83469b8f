/-
Stacks that are alike.

Two stacks are alike if they find matches of the same width everywhere. What is alike can be
exchanged below anything else, as long as it is come to once: a thread that comes down to
it goes on with the one as it would with the other. So an expression can be replaced by one
that is alike, and expressions can be taken apart in the middle of a stack.

The two stacks lead a round through different stacks, so the rounds are not compared with
each other. Each is compared with a third, in which what is below is a stopper that waits for
a character that never comes, and counts for what is found below. What was met before the
bottom is come to makes no difference there. If the bottom comes to nothing, all it leads to is
barren. If it finds something, it is looked at once only, and what was met by then and lies
behind it has been followed to its end in vain: had it led to something still to be followed,
it would lie in front of the bottom.

Main statements: `firstOf_bottomed`, `Alike.below`, `Alike.seq`, `widthOf_alt`.
-/
import StatefulLexer.Proofs.Regex.Nullable
import StatefulLexer.Proofs.Regex.Return

set_option autoImplicit false

namespace StatefulLexer.Regex

/-! ## Widths -/

/-- The width of the match that a stack finds. -/
def widthOf (before : Option Char) (place : Nat) (ahead : List Char) (k : Stack) : Option Nat :=
  (run before place ahead [{ stack := k }] none).map Found.width

/-- The width depends on what is left to be matched alone. -/
theorem width_run (before : Option Char) (place : Nat) (ahead : List Char) (t : Thread) :
    (run before place ahead [t] none).map Found.width = widthOf before place ahead t.stack := by
  obtain ⟨hout, hrun⟩ := run_eq_firstOf before place ahead
  rw [widthOf, hrun, hrun]
  exact firstOf_width hout rfl

/-- **Two stacks are alike** if they find matches of the same width. -/
def Alike (k l : Stack) : Prop :=
  ∀ before place ahead, widthOf before place ahead k = widthOf before place ahead l

theorem Alike.refl (k : Stack) : Alike k k := fun _ _ _ => rfl

theorem Alike.symm {k l : Stack} (h : Alike k l) : Alike l k := fun b p a => (h b p a).symm

theorem Alike.trans {k l m : Stack} (h : Alike k l) (h' : Alike l m) : Alike k m :=
  fun b p a => (h b p a).trans (h' b p a)

/-! ## Stoppers -/

/-- A stack that waits for a character that never comes. -/
def stopper : Stack := [.expr .fail]

/-- What threads over a stopper come to if the stopper counts for `k`. -/
def bottomed (k : Stack) (before : Option Char) (place : Nat) (ahead : List Char) : Outcome :=
  fun t =>
    let above := t.withStack (t.stack.dropLast ++ k)
    if t.stack.dropLast = [] then run before place ahead [above] none
    else outcome place ahead above

/-- Over a stopper, a thread comes to what it comes to over `k`. -/
theorem bottomed_onto (k : Stack) (before : Option Char) (place : Nat) (ahead : List Char)
    (t : Thread) :
    bottomed k before place ahead (t.onto stopper) =
      if t.stack = [] then run before place ahead [t.onto k] none
      else outcome place ahead (t.onto k) := by
  have hfront : (t.onto stopper).stack.dropLast = t.stack := List.dropLast_concat
  rw [bottomed, hfront]
  rfl

/-- A thread over the stopper has not matched. -/
theorem isDone_onto_stopper (t : Thread) : (t.onto stopper).isDone = false :=
  List.isEmpty_eq_false_iff.2 (List.append_ne_nil_of_right_ne_nil _ (List.cons_ne_nil _ _))

/-- A thread that has nothing left has the bottom left. -/
theorem stack_onto_of_nil {t : Thread} (h : t.stack = []) (k : Stack) : (t.onto k).stack = k := by
  rw [Thread.onto, Thread.withStack, h]
  rfl

section

variable {k : Stack} {before : Option Char} {place : Nat} {ahead : List Char}

/-- The stopper itself comes to what `k` finds. -/
theorem bottomed_stopper {t : Thread} (ht : t.stack = []) :
    (if (move (t.onto stopper).stack).waits then bottomed k before place ahead (t.onto stopper)
      else none) = run before place ahead [t.onto k] none := by
  rw [stack_onto_of_nil ht stopper, bottomed_onto, if_pos ht]
  rfl

/-- And it goes on with nothing. -/
theorem followed_stopper {t : Thread} (ht : t.stack = []) (g : Gap) :
    (move (t.onto stopper).stack).followed g (t.onto stopper) = [] := by
  rw [stack_onto_of_nil ht]
  rfl

/-- Above the bottom, what a thread comes to is what it comes to over `k`. -/
theorem waits_bottomed {t : Thread} (ht : t.stack ≠ []) :
    (if (move (t.onto stopper).stack).waits then bottomed k before place ahead (t.onto stopper)
      else none)
      = if (move (t.onto k).stack).waits then outcome place ahead (t.onto k) else none := by
  have hdone : t.isDone = false := List.isEmpty_eq_false_iff.2 ht
  rw [bottomed_onto, if_neg ht, t.move_onto k hdone, t.move_onto stopper hdone, Move.waits_onto,
    Move.waits_onto]

/-- And it moves alike over any bottom. -/
theorem followed_onto {t : Thread} (ht : t.stack ≠ []) (g : Gap) (bottom : Stack) :
    (move (t.onto bottom).stack).followed g (t.onto bottom)
      = ((move t.stack).followed g t).map (Thread.onto bottom) := by
  rw [t.move_onto bottom (List.isEmpty_eq_false_iff.2 ht), Move.followed_onto]

/-- **A bottom that comes to nothing.** All that it leads to is barren, whether it is met below
or above: it is dropped over `k`, and followed in vain over the stopper. -/
theorem firstOf_bottomed_of_barren {last : Met}
    (hbarren : Barren ⟨before, ahead.head?, place⟩ (outcome place ahead) (· ∈ last))
    (hk : k ∈ last) (hnone : ∀ t : Thread, t.stack = k → run before place ahead [t] none = none)
    (ts : List Thread) {seen more : Met}
    (hseen : ∀ q, q ++ k ∈ more ↔ q ++ k ∈ last ∨ q ++ stopper ∈ seen) :
    firstOf ⟨before, ahead.head?, place⟩ (outcome place ahead) more (ts.map (Thread.onto k))
      = firstOf ⟨before, ahead.head?, place⟩ (bottomed k before place ahead) seen
        (ts.map (Thread.onto stopper)) := by
  have hne : k ≠ [] := by
    rintro rfl
    cases hbarren.isDone { stack := [] } hk
  have hdone (t : Thread) : (t.onto k).isDone = false :=
    List.isEmpty_eq_false_iff.2 (List.append_ne_nil_of_right_ne_nil _ hne)
  generalize hstopped : ts.map (Thread.onto stopper) = stopped
  induction seen, stopped using round_induction ⟨before, ahead.head?, place⟩
    generalizing ts more with
  | nil seen =>
    rw [List.map_eq_nil_iff.1 hstopped, List.map_nil, firstOf_nil, firstOf_nil]
  | done seen t ts' ht =>
    obtain ⟨u, us, _, rfl, _⟩ := List.map_eq_cons_iff.1 hstopped
    rw [isDone_onto_stopper] at ht
    cases ht
  | met seen t ts' ht hs ih =>
    obtain ⟨u, us, rfl, rfl, hus⟩ := List.map_eq_cons_iff.1 hstopped
    rw [List.map_cons, firstOf_met _ (hdone u) ((hseen _).2 (.inr hs)), firstOf_met _ ht hs]
    exact ih us hseen hus
  | new seen t ts' ht hs ih =>
    obtain ⟨u, us, rfl, rfl, hus⟩ := List.map_eq_cons_iff.1 hstopped
    rw [List.map_cons, firstOf_new _ ht hs]
    have hinsert : ∀ q, (q ++ k = u.stack ++ k ↔ q ++ stopper = (u.onto stopper).stack) := fun q =>
      (List.append_left_inj k).trans (List.append_left_inj stopper).symm
    by_cases hb : (u.onto k).stack ∈ last
    · have hkept : ∀ q, q ++ k ∈ more ↔ q ++ k ∈ last ∨ q ++ stopper ∈
          seen.insert (u.onto stopper).stack := by
        intro q
        rw [hseen, Met.mem_insert, ← hinsert]
        exact ⟨fun h => h.imp_right .inr,
          fun h => h.elim .inl fun h => h.elim (fun heq => .inl (by rw [heq]; exact hb)) .inr⟩
      rw [firstOf_met _ (hdone u) ((hseen _).2 (.inl hb))]
      by_cases hu : u.stack = []
      · rw [bottomed_stopper hu, hnone _ (stack_onto_of_nil hu k), Option.none_or]
        rw [followed_stopper hu, List.nil_append] at ih ⊢
        exact ih us hkept hus
      · have hvain : (if (move (u.onto k).stack).waits then outcome place ahead (u.onto k)
            else none) = none := by
          split
          · rename_i hw
            exact hbarren.waits _ hb hw
          · rfl
        rw [followed_onto hu, ← hus, ← List.map_append] at ih
        rw [waits_bottomed hu, hvain, Option.none_or, followed_onto hu, ← hus, ← List.map_append,
          ← ih _ hkept rfl, List.map_append, firstOf_append_met]
        intro v hv
        obtain ⟨w, _, rfl⟩ := List.mem_map.1 hv
        rw [← followed_onto hu] at hv
        exact ⟨hdone w, (hseen _).2 (.inl (hbarren.followed _ hb _ hv))⟩
    · have hu : u.stack ≠ [] := fun hu => hb ((stack_onto_of_nil hu k).symm ▸ hk)
      have hnew : ¬(u.onto k).stack ∈ more := fun h => ((hseen _).1 h).elim hb hs
      rw [followed_onto hu, ← hus, ← List.map_append] at ih
      rw [firstOf_new _ (hdone u) hnew, waits_bottomed hu, followed_onto hu, followed_onto hu, ← hus,
        ← List.map_append, ← List.map_append]
      refine congrArg (Option.or _) (ih _ (fun q => ?_) rfl)
      rw [Met.mem_insert, Met.mem_insert, hseen q, ← hinsert]
      exact or_left_comm

/-- **A bottom that finds something.** It is looked at once, and by then all that was met of what
it leads to was followed in vain. -/
theorem firstOf_bottomed_of_found {behind : Stack → Prop}
    (hclosed : Closed ⟨before, ahead.head?, place⟩ behind) (hnot : ¬behind k)
    (hbehind : ∀ t : Thread, t.stack = k →
      ∀ u ∈ (move t.stack).followed ⟨before, ahead.head?, place⟩ t, behind u.stack)
    (hfound : ∀ t : Thread, t.stack = k → (run before place ahead [t] none).isSome = true)
    (ts : List Thread) {seen more : Met}
    (hseen : ∀ q, q ≠ [] → (q ++ k ∈ more ↔ q ++ stopper ∈ seen))
    (hbottom : ¬stopper ∈ seen ∧ ¬k ∈ more)
    (hvain : VainSoFar ⟨before, ahead.head?, place⟩ (outcome place ahead) behind more
      (ts.map (Thread.onto k))) :
    firstOf ⟨before, ahead.head?, place⟩ (outcome place ahead) more (ts.map (Thread.onto k))
      = firstOf ⟨before, ahead.head?, place⟩ (bottomed k before place ahead) seen
        (ts.map (Thread.onto stopper)) := by
  obtain ⟨hout, hrun⟩ := run_eq_firstOf before place ahead
  generalize hstopped : ts.map (Thread.onto stopper) = stopped
  induction seen, stopped using round_induction ⟨before, ahead.head?, place⟩
    generalizing ts more with
  | nil seen =>
    rw [List.map_eq_nil_iff.1 hstopped, List.map_nil, firstOf_nil, firstOf_nil]
  | done seen t ts' ht =>
    obtain ⟨u, us, _, rfl, _⟩ := List.map_eq_cons_iff.1 hstopped
    rw [isDone_onto_stopper] at ht
    cases ht
  | met seen t ts' ht hs ih =>
    obtain ⟨u, us, rfl, rfl, hus⟩ := List.map_eq_cons_iff.1 hstopped
    have hu : u.stack ≠ [] := fun hu => hbottom.1 (stack_onto_of_nil hu stopper ▸ hs)
    have hmet : (u.onto k).stack ∈ more := (hseen _ hu).2 hs
    rw [List.map_cons, firstOf_met _ (u.isDone_onto k (List.isEmpty_eq_false_iff.2 hu)) hmet,
      firstOf_met _ ht hs]
    exact ih us hseen hbottom (hvain.met hmet) hus
  | new seen t ts' ht hs ih =>
    obtain ⟨u, us, rfl, rfl, hus⟩ := List.map_eq_cons_iff.1 hstopped
    rw [List.map_cons, firstOf_new _ ht hs]
    by_cases hu : u.stack = []
    · -- The bottom is come to, and what lies behind it does not look at what was met.
      have hk : (u.onto k).stack = k := stack_onto_of_nil hu k
      obtain ⟨found, hrun'⟩ := Option.isSome_iff_exists.1 (hfound _ hk)
      have hself : firstOf ⟨before, ahead.head?, place⟩ (outcome place ahead) more [u.onto k]
          = some found := by
        rw [← hrun', hrun]
        refine firstOf_barren hout (hvain.barren (by rw [hk]; exact hnot))
          (hclosed.insert hbehind) ?_ ?_
        · intro v hv
          rw [List.mem_singleton.1 hv]
          exact .inl hk
        · rintro q (rfl | hq)
          · exact iff_of_false hbottom.2 fun h => h.elim (fun h => hnot h.2) (Met.not_mem_none q)
          · exact ⟨fun h => .inl ⟨h, hq⟩, fun h => h.elim And.left fun h =>
              absurd h (Met.not_mem_none q)⟩
      rw [bottomed_stopper hu, hrun', Option.some_or]
      exact firstOf_append_of_some hout _ hself
    · have hdone := u.isDone_onto k (List.isEmpty_eq_false_iff.2 hu)
      have hnew : ¬(u.onto k).stack ∈ more := mt (hseen _ hu).1 hs
      rw [firstOf_new _ hdone hnew, waits_bottomed hu]
      cases hwaits : if (move (u.onto k).stack).waits then outcome place ahead (u.onto k)
          else none with
      | some found => rfl
      | none =>
        have hvain' := hvain.new hout hclosed hdone hwaits
        rw [followed_onto hu, ← List.map_append] at hvain'
        rw [followed_onto hu, ← hus, ← List.map_append] at ih
        rw [followed_onto hu, followed_onto hu, ← hus, ← List.map_append, ← List.map_append]
        refine congrArg (Option.or _) (ih _ (fun q hq => ?_) ⟨?_, ?_⟩ hvain' rfl)
        · rw [Met.mem_insert, Met.mem_insert, hseen q hq]
          exact or_congr_left ((List.append_left_inj k).trans (List.append_left_inj stopper).symm)
        · rw [Met.mem_insert]
          exact fun h => h.elim (fun h => hu (List.append_left_eq_self.1 h.symm)) hbottom.1
        · rw [Met.mem_insert]
          exact fun h => h.elim (fun h => hu (List.append_left_eq_self.1 h.symm)) hbottom.2

/-- **What is at the bottom counts for what it finds,** if it is come to once. -/
theorem firstOf_bottomed (hk : Once k) (ts : List Thread) :
    firstOf ⟨before, ahead.head?, place⟩ (outcome place ahead) .none (ts.map (Thread.onto k))
      = firstOf ⟨before, ahead.head?, place⟩ (bottomed k before place ahead) .none
        (ts.map (Thread.onto stopper)) := by
  obtain ⟨hout, hrun⟩ := run_eq_firstOf before place ahead
  cases hwidth : widthOf before place ahead k with
  | none =>
    have hnone : ∀ t : Thread, t.stack = k → run before place ahead [t] none = none := by
      intro t ht
      rw [← Option.map_eq_none_iff (f := Found.width), width_run, ht, hwidth]
    have hself := hnone { stack := k } rfl
    rw [hrun] at hself
    obtain ⟨last, hbarren, _, hmem, _⟩ := firstOf_eq_none hout (.none _ _ _) hself
    rw [← firstOf_met_barren hout hbarren]
    refine firstOf_bottomed_of_barren hbarren (hmem _ List.mem_cons_self) hnone ts fun q => ?_
    exact (or_iff_left (Met.not_mem_none _)).symm
  | some n =>
    have hfound : ∀ t : Thread, t.stack = k →
        (run before place ahead [t] none).isSome = true := by
      intro t ht
      rw [← Option.isSome_map (f := Found.width), width_run, ht, hwidth]
      rfl
    obtain ⟨behind, hclosed, hnot, hbehind⟩ := hk ⟨before, ahead.head?, place⟩
    refine firstOf_bottomed_of_found hclosed hnot hbehind hfound ts ?_ ?_ (.none _ _ _ _)
    · exact fun q _ => iff_of_false (Met.not_mem_none _) (Met.not_mem_none _)
    · exact ⟨Met.not_mem_none _, Met.not_mem_none _⟩

end

/-! ## Exchange -/

/-- Outcomes of the same widths give a first one of the same width. -/
theorem width_findSome? {out out' : Outcome} {ts : List Thread}
    (h : ∀ t ∈ ts, (out t).map Found.width = (out' t).map Found.width) :
    (ts.findSome? out).map Found.width = (ts.findSome? out').map Found.width := by
  induction ts with
  | nil => rfl
  | cons t ts ih =>
    obtain ⟨ht, hts⟩ := List.forall_mem_cons.1 h
    rw [List.findSome?_cons, List.findSome?_cons]
    cases hout : out t with
    | none =>
      rw [hout] at ht
      rw [Option.map_eq_none_iff.1 ht.symm]
      exact ih hts
    | some found =>
      rw [hout] at ht
      obtain ⟨found', hfound', hwidth⟩ := Option.map_eq_some_iff.1 ht.symm
      rw [hfound']
      exact congrArg some hwidth.symm

/-- The threads of a round over the stopper are over it still. They come down to it only if what
was on it can be gone through without a character. -/
theorem forall_round_stopper {before behind : Option Char} {place : Nat} (front : Stack) :
    ∀ t ∈ round ⟨before, behind, place⟩ .none [Thread.onto stopper { stack := front }],
      ∃ u : Thread, t = u.onto stopper ∧ (Stack.nullable before behind u.stack = true →
        Stack.nullable before behind front = true) := by
  refine forall_round ?_ fun t ht => ⟨{ stack := front }, List.mem_singleton.1 ht, id⟩
  rintro _ ⟨u, rfl, hnullable⟩ v hv
  by_cases hu : u.stack = []
  · rw [followed_stopper hu] at hv
    cases hv
  · rw [followed_onto hu] at hv
    obtain ⟨w, hw, rfl⟩ := List.mem_map.1 hv
    exact ⟨w, rfl, fun h => hnullable (nullable_of_followed hw h)⟩

/-- **Exchange at one place.** The bottoms need to find the same there only if what is on them
can be gone through without a character, and behind the next character whatever is on them. -/
theorem widthOf_below {k l : Stack} (hk : Once k) (hl : Once l) {before : Option Char}
    {place : Nat} {ahead : List Char} {front : Stack}
    (hhere : Stack.nullable before ahead.head? front = true →
      widthOf before place ahead k = widthOf before place ahead l)
    (hbehind : ∀ (c : Char) (rest : List Char), ahead = c :: rest → ∀ front : Stack,
      widthOf (some c) (place + 1) rest (front ++ k)
        = widthOf (some c) (place + 1) rest (front ++ l)) :
    widthOf before place ahead (front ++ k) = widthOf before place ahead (front ++ l) := by
  -- Both come to what a third comes to over the stopper.
  have hstopped {k : Stack} (hk : Once k) : widthOf before place ahead (front ++ k)
      = (firstOf ⟨before, ahead.head?, place⟩ (bottomed k before place ahead) .none
        [Thread.onto stopper { stack := front }]).map Found.width := by
    obtain ⟨_, hrun⟩ := run_eq_firstOf before place ahead
    rw [widthOf, hrun]
    exact congrArg _ (firstOf_bottomed hk [{ stack := front }])
  rw [hstopped hk, hstopped hl]
  refine width_findSome? fun t ht => ?_
  obtain ⟨u, rfl, hnullable⟩ := forall_round_stopper front t ht
  rw [bottomed_onto, bottomed_onto]
  split
  · rename_i hnil
    rw [width_run, width_run, stack_onto_of_nil hnil, stack_onto_of_nil hnil]
    exact hhere (hnullable (by rw [hnil]; rfl))
  · rename_i hne
    have hdone : u.isDone = false := List.isEmpty_eq_false_iff.2 hne
    cases ahead with
    | nil => rw [outcome_nil place (u.isDone_onto k hdone), outcome_nil place (u.isDone_onto l hdone)]
    | cons c rest =>
      -- The character is taken above.
      rw [outcome_cons place c rest (u.isDone_onto k hdone),
        outcome_cons place c rest (u.isDone_onto l hdone), take?_onto c k hdone,
        take?_onto c l hdone]
      cases u.take? c with
      | none => rfl
      | some v =>
        dsimp only [Option.map_some, Option.bind_some]
        rw [width_run, width_run]
        exact hbehind c rest rfl v.stack

/-- **Two stacks are alike within a length** if they find matches of the same width in texts that
are shorter than that. -/
def AlikeWithin (length : Nat) (k l : Stack) : Prop :=
  ∀ before place ahead, ahead.length < length →
    widthOf before place ahead k = widthOf before place ahead l

theorem Alike.within {k l : Stack} (h : Alike k l) (length : Nat) : AlikeWithin length k l :=
  fun b p a _ => h b p a

theorem AlikeWithin.symm {length : Nat} {k l : Stack} (h : AlikeWithin length k l) :
    AlikeWithin length l k :=
  fun b p a ha => (h b p a ha).symm

theorem AlikeWithin.trans {length : Nat} {k l m : Stack} (h : AlikeWithin length k l)
    (h' : AlikeWithin length l m) : AlikeWithin length k m :=
  fun b p a ha => (h b p a ha).trans (h' b p a ha)

theorem Alike.of_within {k l : Stack} (h : ∀ length, AlikeWithin length k l) : Alike k l :=
  fun b p a => h (a.length + 1) b p a (Nat.lt_succ_self _)

/-- **What is alike within a length can be exchanged below.** -/
theorem AlikeWithin.below {length : Nat} {k l : Stack} (hk : Once k) (hl : Once l)
    (h : AlikeWithin length k l) (front : Stack) :
    AlikeWithin length (front ++ k) (front ++ l) := by
  intro before place ahead hlength
  induction ahead generalizing front before place with
  | nil => exact widthOf_below hk hl (fun _ => h before place [] hlength) nofun
  | cons c ahead ih =>
    refine widthOf_below hk hl (fun _ => h before place _ hlength) ?_
    rintro _ _ ⟨⟩ front
    exact ih front (some c) (place + 1) (Nat.lt_of_succ_lt hlength)

/-- **Below something that takes a character** it may be alike within one less. -/
theorem AlikeWithin.behind {length : Nat} {k l : Stack} (hk : Once k) (hl : Once l)
    (h : AlikeWithin length k l) (front : Stack)
    (hfront : ∀ before behind, Stack.nullable before behind front = false) :
    AlikeWithin (length + 1) (front ++ k) (front ++ l) := by
  intro before place ahead hlength
  refine widthOf_below hk hl (fun hnullable => ?_) ?_
  · rw [hfront] at hnullable
    cases hnullable
  · rintro c rest rfl front
    exact h.below hk hl front (some c) (place + 1) rest (Nat.lt_of_succ_lt_succ hlength)

/-- **What is alike can be exchanged below.** -/
theorem Alike.below {k l : Stack} (hk : Loopless k) (hl : Loopless l) (h : Alike k l)
    (front : Stack) : Alike (front ++ k) (front ++ l) :=
  .of_within fun length => (h.within length).below (.of_loopless hk) (.of_loopless hl) front

/-! ## Taking expressions apart -/

/-- A stack whose move makes something else of it is like that. -/
theorem Alike.become {f : Frame} {k l : Stack} (hf : f.isLoop = false) (hk : Loopless k)
    (hmove : move (f :: k) = .become l) : Alike (f :: k) l := by
  intro before place ahead
  rw [widthOf, run_step (.of_loopless (.cons hf hk)) rfl (by rw [hmove]; rfl), hmove]
  rfl

/-- The end of a branch does nothing. -/
theorem Alike.join (second : Bool) {k : Stack} (hk : Loopless k) : Alike (.join second :: k) k :=
  .become rfl hk rfl

/-- Nor does the end of a capture group. -/
theorem Alike.close (index : Nat) {k : Stack} (hk : Loopless k) : Alike (.close index :: k) k := by
  intro before place ahead
  rw [widthOf, run_step (.of_loopless (.cons rfl hk)) rfl rfl]
  exact width_run before place ahead _

/-- The empty expression is not there. -/
theorem Alike.empty {k : Stack} (hk : Loopless k) : Alike (.expr .empty :: k) k :=
  .become rfl hk rfl

/-- A sequence is its parts, one after the other. -/
theorem Alike.seq (first rest : Expr) {k : Stack} (hk : Loopless k) :
    Alike (.expr (.seq first rest) :: k) (.expr first :: .expr rest :: k) :=
  .become rfl hk rfl

/-- A capture group is what it encloses. -/
theorem Alike.capture (index : Nat) (e : Expr) {k : Stack} (hk : Loopless k) :
    Alike (.expr (.capture index e) :: k) (.expr e :: k) := by
  have hopened : Alike (.expr (.capture index e) :: k) (.expr e :: .close index :: k) := by
    intro before place ahead
    rw [widthOf, run_step (.of_loopless (.cons rfl hk)) rfl rfl]
    exact width_run before place ahead _
  exact hopened.trans (.below (.cons rfl hk) hk (.close index hk) [.expr e])

/-- **A fork finds what its first way finds,** or else its second. -/
theorem widthOf_fork {f : Frame} {k a b : Stack} (honce : Once (f :: k))
    (hmove : move (f :: k) = .fork a b) (before : Option Char) (place : Nat)
    (ahead : List Char) : widthOf before place ahead (f :: k)
      = (widthOf before place ahead a).or (widthOf before place ahead b) := by
  have hfollowed : (move (f :: k)).followed ⟨before, ahead.head?, place⟩ { stack := f :: k }
      = [({ stack := a } : Thread)] ++ [{ stack := b }] := by
    rw [hmove]
    rfl
  rw [widthOf, run_step honce rfl (by rw [hmove]; rfl), hfollowed, run_append, widthOf, widthOf]
  cases run before place ahead [{ stack := a }] none <;> rfl

/-- **A choice on top of a stack** finds matches as wide as its first branch does there, or else
its second. -/
theorem widthOf_alt (first rest : Expr) {k : Stack} (hk : Loopless k) (before : Option Char)
    (place : Nat) (ahead : List Char) : widthOf before place ahead (.expr (.alt first rest) :: k)
      = (widthOf before place ahead (.expr first :: k)).or
        (widthOf before place ahead (.expr rest :: k)) := by
  have hbranch (e : Expr) (second : Bool) :
      Alike (.expr e :: .join second :: k) (.expr e :: k) :=
    .below (.cons rfl hk) hk (.join second hk) [.expr e]
  rw [widthOf_fork (.of_loopless (.cons rfl hk)) rfl, hbranch, hbranch]

end StatefulLexer.Regex
