/-
Other numbers for capture groups.

A pattern that stands behind others is read with higher numbers for its groups. An expression
is built from its parts in the same way whatever the numbers are, as long as different groups
have different ones, and it is matched in the same way: two searches that differ in the
numbers alone go through the same stacks, up to those.

Main statements: `Expr.renumber_choice`, `Pattern.meaning_numbered`, `widthOf_renumber`.
-/
import StatefulLexer.Proofs.Regex.Alike
import StatefulLexer.Proofs.Regex.Unplaced

set_option autoImplicit false

namespace StatefulLexer.Regex

/-! ## Expressions -/

namespace Expr

/-- **The expression with other numbers** for its capture groups. -/
def renumber (σ : Nat → Nat) : Expr → Expr
  | empty => empty
  | literal text => literal text
  | set s unicode => set s unicode
  | look l => look l
  | rep least most greedy sub => rep least most greedy (sub.renumber σ)
  | capture index sub => capture (σ index) (sub.renumber σ)
  | seq first rest => seq (first.renumber σ) (rest.renumber σ)
  | alt first rest => alt (first.renumber σ) (rest.renumber σ)

variable {σ τ : Nat → Nat}

/-- Numbers can be taken back. -/
theorem renumber_leftInverse (h : ∀ i, τ (σ i) = i) (e : Expr) :
    (e.renumber σ).renumber τ = e := by
  induction e with
  | rep least most greedy sub ih => rw [renumber, renumber, ih]
  | capture index sub ih => rw [renumber, renumber, ih, h]
  | seq first rest ih ih' => rw [renumber, renumber, ih, ih']
  | alt first rest ih ih' => rw [renumber, renumber, ih, ih']
  | _ => rfl

/-- So different expressions stay different. -/
theorem renumber_inj (h : ∀ i, τ (σ i) = i) {e e' : Expr} :
    e.renumber σ = e'.renumber σ ↔ e = e' := by
  refine ⟨fun heq => ?_, fun heq => congrArg _ heq⟩
  rw [← renumber_leftInverse h e, heq, renumber_leftInverse h]

theorem leastLength_renumber (e : Expr) : (e.renumber σ).leastLength = e.leastLength := by
  induction e with
  | rep least most greedy sub ih => rw [renumber, leastLength, leastLength, ih]
  | capture index sub ih => rw [renumber, leastLength, leastLength, ih]
  | seq first rest ih ih' => rw [renumber, leastLength, leastLength, ih, ih']
  | alt first rest ih ih' => rw [renumber, leastLength, leastLength, ih, ih']
  | _ => rfl

theorem greatestLength_renumber (e : Expr) : (e.renumber σ).greatestLength = e.greatestLength := by
  induction e with
  | rep least most greedy sub ih => rw [renumber, greatestLength, greatestLength, ih]
  | capture index sub ih => rw [renumber, greatestLength, greatestLength, ih]
  | seq first rest ih ih' => rw [renumber, greatestLength, greatestLength, ih, ih']
  | alt first rest ih ih' => rw [renumber, greatestLength, greatestLength, ih, ih']
  | _ => rfl

/-! ## Building expressions -/

theorem renumber_ofSet (s : CharSet) (unicode : Bool) :
    (ofSet s unicode).renumber σ = ofSet s unicode := by
  unfold ofSet
  split
  · rfl
  · split <;> rfl

/-- **A repetition** is simplified in the same way. -/
theorem renumber_repeated (least : Nat) (most : Option Nat) (greedy : Bool) (sub : Expr) :
    (repeated least most greedy sub).renumber σ
      = repeated least most greedy (sub.renumber σ) := by
  rw [repeated, repeated, greatestLength_renumber]
  rw [apply_ite (renumber σ), apply_ite (renumber σ)]
  rfl

theorem factors_renumber (e : Expr) :
    (e.renumber σ).factors = e.factors.map (renumber σ) := by
  induction e with
  | seq first rest _ ih => rw [renumber, factors, factors, List.map_cons, ih]
  | _ => rfl

theorem renumber_ofFactors (es : List Expr) :
    (ofFactors es).renumber σ = ofFactors (es.map (renumber σ)) := by
  fun_induction ofFactors es with
  | case1 => rfl
  | case2 e => rfl
  | case3 e es hes ih =>
    rw [renumber, ih, List.map_cons, ofFactors]
    exact fun h => hes (List.map_eq_nil_iff.1 h)

theorem joinLiterals_renumber (es : List Expr) :
    joinLiterals (es.map (renumber σ)) = (joinLiterals es).map (renumber σ) := by
  induction es with
  | nil => rfl
  | cons e es ih =>
    cases e with
    | literal a =>
      rw [List.map_cons, renumber, joinLiterals, joinLiterals, ih]
      cases joinLiterals es with
      | nil => rfl
      | cons e rest => cases e <;> rfl
    | _ =>
      rw [List.map_cons, renumber, joinLiterals, joinLiterals, ih]
      · rfl
      · nofun
      · nofun

/-- **A sequence** is opened and joined in the same way. -/
theorem renumber_sequence (es : List Expr) :
    (sequence es).renumber σ = sequence (es.map (renumber σ)) := by
  rw [sequence, sequence, renumber_ofFactors, ← joinLiterals_renumber, List.map_flatMap,
    List.flatMap_map]
  simp only [factors_renumber]

theorem branches_renumber (e : Expr) :
    (e.renumber σ).branches = e.branches.map (renumber σ) := by
  induction e with
  | alt first rest _ ih => rw [renumber, branches, branches, List.map_cons, ih]
  | _ => rfl

theorem renumber_ofBranches (es : List Expr) :
    (ofBranches es).renumber σ = ofBranches (es.map (renumber σ)) := by
  fun_induction ofBranches es with
  | case1 => rfl
  | case2 e => rfl
  | case3 e es hes ih =>
    rw [renumber, ih, List.map_cons, ofBranches]
    exact fun h => hes (List.map_eq_nil_iff.1 h)

theorem char?_renumber (e : Expr) : (e.renumber σ).char? = e.char? := by
  cases e <;> rfl

theorem set?_renumber (e : Expr) : (e.renumber σ).set? = e.set? := by
  cases e <;> rfl

/-- What is asked of each member alone is asked of the renumbered members too. -/
theorem mapM_renumber {β : Type} {f : Expr → Option β} (hf : ∀ e : Expr, f (e.renumber σ) = f e)
    (es : List Expr) : (es.map (renumber σ)).mapM f = es.mapM f := by
  induction es with
  | nil => rfl
  | cons e es ih => rw [List.map_cons, List.mapM_cons, List.mapM_cons, hf, ih]

theorem merged?_renumber (es : List Expr) :
    merged? (es.map (renumber σ)) = (merged? es).map (renumber σ) := by
  rw [merged?, merged?, mapM_renumber char?_renumber, mapM_renumber set?_renumber]
  split
  · rw [Option.map_some, renumber_ofSet]
  · rw [Option.map_map]
    refine congrArg (Option.map · _) (funext fun sets => ?_)
    exact (renumber_ofSet _ _).symm

theorem renumber_choiceOf (es : List Expr) :
    (choiceOf es).renumber σ = choiceOf (es.map (renumber σ)) := by
  rw [choiceOf, choiceOf, merged?_renumber]
  cases merged? es with
  | none => exact renumber_ofBranches es
  | some e => rfl

theorem factors?_renumber (e : Expr) :
    (e.renumber σ).factors? = e.factors?.map (List.map (renumber σ)) := by
  cases e with
  | seq first rest =>
    rw [renumber, factors?, factors?, Option.map_some, List.map_cons, factors_renumber]
  | _ => rfl

theorem mapM_factors?_renumber (es : List Expr) :
    (es.map (renumber σ)).mapM factors?
      = (es.mapM factors?).map (List.map (List.map (renumber σ))) := by
  induction es with
  | nil => rfl
  | cons e es ih =>
    rw [List.map_cons, List.mapM_cons, List.mapM_cons, factors?_renumber, ih]
    cases e.factors? with
    | none => rfl
    | some fs =>
      cases es.mapM factors? <;> rfl

/-- Equal beginnings stay equal, and different ones different. -/
theorem commonStart_renumber (h : ∀ i, τ (σ i) = i) (as bs : List Expr) :
    commonStart (as.map (renumber σ)) (bs.map (renumber σ))
      = (commonStart as bs).map (renumber σ) := by
  induction as generalizing bs with
  | nil => cases bs <;> rfl
  | cons a as ih =>
    cases bs with
    | nil => rfl
    | cons b bs =>
      rw [List.map_cons, List.map_cons, commonStart, commonStart]
      by_cases hab : a = b
      · rw [if_pos hab, if_pos (congrArg _ hab), ih, List.map_cons]
      · rw [if_neg hab, if_neg fun heq => hab ((renumber_inj h).1 heq)]
        rfl

theorem foldl_commonStart_renumber (h : ∀ i, τ (σ i) = i) (first : List Expr)
    (more : List (List Expr)) :
    (more.map (List.map (renumber σ))).foldl commonStart (first.map (renumber σ))
      = (more.foldl commonStart first).map (renumber σ) := by
  induction more generalizing first with
  | nil => rfl
  | cons second more ih =>
    rw [List.map_cons, List.foldl_cons, List.foldl_cons, commonStart_renumber h, ih]

theorem drawnOut?_renumber (h : ∀ i, τ (σ i) = i) (es : List Expr) :
    drawnOut? (es.map (renumber σ)) = (drawnOut? es).map fun (start, rests) =>
      (start.map (renumber σ), rests.map (List.map (renumber σ))) := by
  rw [drawnOut?, drawnOut?, mapM_factors?_renumber]
  cases es.mapM factors? with
  | none => rfl
  | some fss =>
    cases fss with
    | nil => rfl
    | cons first fss =>
      cases fss with
      | nil => rfl
      | cons second more =>
        have hstart := foldl_commonStart_renumber h first (second :: more)
        show (if (((second :: more).map (List.map (renumber σ))).foldl commonStart
          (first.map (renumber σ))).isEmpty then none else some (_, _)) = _
        rw [hstart, List.isEmpty_map]
        dsimp only
        rw [List.map_cons] at hstart
        split
        · rfl
        · simp only [Option.map_some, List.map_cons, List.length_map, List.map_drop, List.map_map,
            Function.comp_def, hstart]

/-- **A choice** is merged, and has its beginning drawn out, in the same way. -/
theorem renumber_choice (h : ∀ i, τ (σ i) = i) (es : List Expr) :
    (choice es).renumber σ = choice (es.map (renumber σ)) := by
  have hbranches : (es.map (renumber σ)).flatMap branches
      = (es.flatMap branches).map (renumber σ) := by
    rw [List.map_flatMap, List.flatMap_map]
    simp only [branches_renumber]
  rw [choice, choice, hbranches, merged?_renumber, drawnOut?_renumber h]
  generalize es.flatMap branches = es
  cases merged? es with
  | some e => rfl
  | none =>
    cases drawnOut? es with
    | none => exact renumber_ofBranches es
    | some x =>
      obtain ⟨start, rests⟩ := x
      dsimp only [Option.map_some, Option.map_none]
      rw [renumber_sequence, List.map_append, List.map_singleton, renumber_choiceOf,
        List.map_flatMap, List.flatMap_map, List.map_map, List.flatMap_map]
      simp only [← branches_renumber, renumber_sequence, Function.comp_apply]

end Expr

/-! ## Patterns -/

/-- A literal captures nothing. -/
theorem Literal.renumber_meaning {σ : Nat → Nat} {f : Flags} {l : Literal} {e : Expr}
    (h : l.meaning f = .ok e) : e.renumber σ = e := by
  unfold meaning at h
  split at h
  · cases h
  · split at h
    · split at h
      · split at h
        · rw [← Except.ok.inj h, Expr.renumber_ofSet]
        · rw [← Except.ok.inj h]
          rfl
      · split at h
        · rw [← Except.ok.inj h, Expr.renumber_ofSet]
        · rw [← Except.ok.inj h]
          rfl
    · rw [← Except.ok.inj h]
      rfl

/-- Nor does the dot. -/
theorem renumber_dotMeaning {σ : Nat → Nat} {f : Flags} {region : Region} {e : Expr}
    (h : dotMeaning f region = .ok e) : e.renumber σ = e := by
  unfold dotMeaning at h
  split at h
  · cases h
  · split at h
    · rw [← Except.ok.inj h]
      rfl
    · split at h <;>
      · rw [← Except.ok.inj h]
        rfl

/-- The expression of a result, with other numbers. -/
def renumbered (σ : Nat → Nat) (x : Expr × Flags) : Expr × Flags := (x.1.renumber σ, x.2)

/-- The expressions of a result, with other numbers. -/
def allRenumbered (σ : Nat → Nat) (x : List Expr × Flags) : List Expr × Flags :=
  (x.1.map (Expr.renumber σ), x.2)

/-- Two steps change with the numbers if the second one does. -/
theorem bind_map {α β γ δ : Type} {x : Option α} {g : α → β} {f : β → Option γ} {f' : α → Option δ}
    {k : δ → γ} (h : ∀ a, f (g a) = (f' a).map k) : (x.map g).bind f = (x.bind f').map k := by
  cases x with
  | none => rfl
  | some a => exact h a

/-- What captures nothing does not change with the numbers. -/
theorem map_renumbered_of_bind {ε α : Type} {x : Except ε α} {g : α → Expr × Flags} {σ : Nat → Nat}
    (h : ∀ a, x = .ok a → (g a).1.renumber σ = (g a).1) :
    (x >>= fun a => (.ok (g a) : Except ε (Expr × Flags))).toOption
      = (x >>= fun a => (.ok (g a) : Except ε (Expr × Flags))).toOption.map (renumbered σ) := by
  cases x with
  | error e => rfl
  | ok a =>
    show some (g a) = some ((g a).1.renumber σ, (g a).2)
    rw [h a rfl]

theorem GroupKind.inside_numbered (f : Flags) (n : Nat) (kind : GroupKind) :
    (kind.numbered n).inside f = kind.inside f := by
  cases kind <;> rfl

theorem GroupKind.around_numbered (m n : Nat) (kind : GroupKind) (e : Expr) :
    (kind.numbered (m + n)).around (e.renumber (· + n))
      = ((kind.numbered m).around e).renumber (· + n) := by
  have hindex : m + n + 1 = m + 1 + n := Nat.add_right_comm m n 1
  cases kind with
  | capture index =>
    show Expr.capture (m + n + 1) _ = Expr.capture (m + 1 + n) _
    rw [hindex]
  | named index letterP name =>
    show Expr.capture (m + n + 1) _ = Expr.capture (m + 1 + n) _
    rw [hindex]
  | flags l => rfl

mutual

/-- **A pattern behind `n` more groups** has the same expression, its groups numbered higher
by as many. -/
theorem Pattern.meaning_numbered (m n : Nat) (f : Flags) : (p : Pattern) →
    ((p.numbered (m + n)).meaning f).toOption
      = ((p.numbered m).meaning f).toOption.map (renumbered (· + n))
  | .empty _ => rfl
  | .setFlags _ _ => rfl
  | .literal l => map_renumbered_of_bind fun _ h => Literal.renumber_meaning h
  | .dot _ => map_renumbered_of_bind fun _ h => renumber_dotMeaning h
  | .assertion _ _ => rfl
  | .property _ _ _ => map_renumbered_of_bind fun _ _ => Expr.renumber_ofSet _ _
  | .short _ _ _ => map_renumbered_of_bind fun _ _ => Expr.renumber_ofSet _ _
  | .bracketed _ _ set => by
    show ((set.unplaced.meaning f) >>= _).toOption
      = ((set.unplaced.meaning f) >>= _).toOption.map _
    rw [toOption_bind]
    cases (set.unplaced.meaning f).toOption with
    | none => rfl
    | some s => exact map_renumbered_of_bind fun _ _ => Expr.renumber_ofSet _ _
  | .repetition _ op greedy sub => by
    rw [numbered, numbered, meaning, meaning, toOption_bind, toOption_bind,
      sub.meaning_numbered m n f]
    refine bind_map fun x => ?_
    show some (Expr.repeated _ _ _ (x.1.renumber _), x.2) = some _
    rw [← Expr.renumber_repeated]
    rfl
  | .group _ kind sub => by
    rw [numbered, numbered, meaning, meaning, toOption_bind, toOption_bind,
      kind.inside_numbered, kind.inside_numbered, Nat.add_right_comm,
      sub.meaning_numbered (m + kind.count) n]
    refine bind_map fun x => ?_
    show some ((kind.numbered (m + n)).around (x.1.renumber _), f) = some _
    rw [kind.around_numbered m n]
    rfl
  | .alternation _ branches => by
    rw [numbered, numbered, meaning, meaning, toOption_bind, toOption_bind,
      Pattern.meanings_numbered m n f branches]
    refine bind_map fun x => ?_
    show some (Expr.choice (x.1.map _), x.2) = some _
    rw [← @Expr.renumber_choice (· + n) (· - n) fun i => Nat.add_sub_cancel i n]
    rfl
  | .concat _ items => by
    rw [numbered, numbered, meaning, meaning, toOption_bind, toOption_bind,
      Pattern.meanings_numbered m n f items]
    refine bind_map fun x => ?_
    show some (Expr.sequence (x.1.map _), x.2) = some _
    rw [← Expr.renumber_sequence]
    rfl

theorem Pattern.meanings_numbered (m n : Nat) (f : Flags) : (patterns : List Pattern) →
    (Pattern.meanings f (Pattern.allNumbered (m + n) patterns)).toOption
      = (Pattern.meanings f (Pattern.allNumbered m patterns)).toOption.map
        (allRenumbered (· + n))
  | [] => rfl
  | p :: patterns => by
    rw [Pattern.allNumbered, Pattern.allNumbered, Pattern.meanings, Pattern.meanings,
      toOption_bind, toOption_bind, p.meaning_numbered m n f, Nat.add_right_comm]
    refine bind_map fun x => ?_
    show (Pattern.meanings x.2 _ >>= _).toOption = _
    rw [toOption_bind, toOption_bind, Pattern.meanings_numbered (m + p.groupCount) n]
    exact bind_map fun y => rfl

end

/-! ## Stacks -/

/-- The frame with other numbers. -/
def Frame.renumber (σ : Nat → Nat) : Frame → Frame
  | expr e => .expr (e.renumber σ)
  | loop greedy e => .loop greedy (e.renumber σ)
  | join second => .join second
  | close index => .close (σ index)

/-- The stack with other numbers. -/
def Stack.renumber (σ : Nat → Nat) (k : Stack) : Stack := k.map (Frame.renumber σ)

/-- The move with other numbers. -/
def Move.renumber (σ : Nat → Nat) : Move → Move
  | done => done
  | consume wanted k => consume wanted (Stack.renumber σ k)
  | become k => become (Stack.renumber σ k)
  | check l k => check l (Stack.renumber σ k)
  | opened index k => opened (σ index) (Stack.renumber σ k)
  | closed index k => closed (σ index) (Stack.renumber σ k)
  | fork a b => fork (Stack.renumber σ a) (Stack.renumber σ b)

section Stacks

variable {σ τ : Nat → Nat}

theorem Frame.renumber_leftInverse (h : ∀ i, τ (σ i) = i) (f : Frame) :
    (f.renumber σ).renumber τ = f := by
  cases f with
  | expr e => rw [renumber, renumber, e.renumber_leftInverse h]
  | loop greedy e => rw [renumber, renumber, e.renumber_leftInverse h]
  | join second => rfl
  | close index => rw [renumber, renumber, h]

/-- Different stacks stay different. -/
theorem Stack.renumber_inj (h : ∀ i, τ (σ i) = i) {k l : Stack} :
    Stack.renumber σ k = Stack.renumber σ l ↔ k = l := by
  refine ⟨fun heq => ?_, fun heq => congrArg _ heq⟩
  have hback (k : Stack) : Stack.renumber τ (Stack.renumber σ k) = k := by
    rw [Stack.renumber, Stack.renumber, List.map_map]
    exact (List.map_congr_left fun f _ => f.renumber_leftInverse h).trans (List.map_id k)
  rw [← hback k, heq, hback]

theorem Move.renumber_again (greedy : Bool) (a b : Stack) :
    (Move.again greedy a b).renumber σ
      = .again greedy (Stack.renumber σ a) (Stack.renumber σ b) := by
  cases greedy <;> rfl

theorem Frame.renumber_more (least : Nat) (most : Option Nat) (greedy : Bool) (e : Expr) :
    (Frame.more least most greedy e).renumber σ = .more least most greedy (e.renumber σ) := by
  rw [more, more]
  split <;> rfl

/-- **What can be done with a stack** does not depend on the numbers. -/
theorem move_renumber (k : Stack) :
    move (Stack.renumber σ k) = (move k).renumber σ := by
  fun_cases move k with
  | case1 => rfl
  | case2 => rfl
  | case3 => rfl
  | case4 greedy e k =>
    rw [Move.renumber_again]
    rfl
  | case5 => rfl
  | case6 => rfl
  | case7 => rfl
  | case8 => rfl
  | case9 => rfl
  | case10 => rfl
  | case11 => rfl
  | case12 => rfl
  | case13 => rfl
  | case14 =>
    rw [Move.renumber_again]
    rfl
  | case15 greedy e k hlength =>
    rw [Move.renumber_again]
    show (if (e.renumber σ).leastLength.getD 0 = 0 then _ else _) = _
    rw [e.leastLength_renumber, if_pos hlength]
    rfl
  | case16 greedy e k hlength =>
    show (if (e.renumber σ).leastLength.getD 0 = 0 then _ else _) = _
    rw [e.leastLength_renumber, if_neg hlength]
    rfl
  | case17 least most greedy e k =>
    show Move.become (.expr (e.renumber σ) :: Frame.more _ _ greedy (e.renumber σ) :: _) = _
    rw [← Frame.renumber_more]
    rfl

/-! ## Searches -/

/-- The threads have the same stacks, up to the numbers. -/
def Stacked (σ : Nat → Nat) (ts us : List Thread) : Prop :=
  us.map Thread.stack = ts.map fun t => Stack.renumber σ t.stack

theorem Stacked.append {ts us ts' us' : List Thread} (h : Stacked σ ts us)
    (h' : Stacked σ ts' us') : Stacked σ (ts ++ ts') (us ++ us') := by
  rw [Stacked, List.map_append, List.map_append, h, h']

/-- Threads go on alike. -/
theorem Stacked.followed {t u : Thread} (h : u.stack = Stack.renumber σ t.stack) (g : Gap) :
    Stacked σ ((move t.stack).followed g t) ((move u.stack).followed g u) := by
  rw [h, move_renumber]
  cases move t.stack with
  | check l k =>
    rw [Move.renumber, Move.followed, Move.followed]
    split <;> rfl
  | _ => rfl

theorem isDone_of_stack {t u : Thread} (h : u.stack = Stack.renumber σ t.stack) :
    u.isDone = t.isDone := by
  rw [Thread.isDone, Thread.isDone, h, Stack.renumber, List.isEmpty_map]

theorem waits_renumber (m : Move) : (m.renumber σ).waits = m.waits := by
  cases m <;> rfl

/-- **A round finds the same** with other numbers, if what its threads come to is the same. -/
theorem width_firstOf_renumber (hτ : ∀ i, τ (σ i) = i) {g : Gap} {out : Outcome}
    (hout : out.OfStacks)
    (hsame : ∀ t u : Thread, u.stack = Stack.renumber σ t.stack →
      (out u).map Found.width = (out t).map Found.width)
    {seen : Met} {ts : List Thread} {seen' : Met} {us : List Thread}
    (hseen : ∀ k, Stack.renumber σ k ∈ seen' ↔ k ∈ seen) (h : Stacked σ ts us) :
    (firstOf g out seen' us).map Found.width = (firstOf g out seen ts).map Found.width := by
  induction seen, ts using round_induction g generalizing seen' us with
  | nil seen =>
    cases List.map_eq_nil_iff.1 h
    rw [firstOf_nil, firstOf_nil]
  | done seen t ts ht =>
    obtain ⟨u, us, rfl, hu, _⟩ := List.map_eq_cons_iff.1 h
    rw [firstOf_done hout ts ht, firstOf_done hout us ((isDone_of_stack hu).trans ht),
      hsame t u hu]
  | met seen t ts ht hs ih =>
    obtain ⟨u, us, rfl, hu, hus⟩ := List.map_eq_cons_iff.1 h
    have hmet : u.stack ∈ seen' := by
      rw [hu]
      exact (hseen t.stack).2 hs
    rw [firstOf_met ts ht hs, firstOf_met us ((isDone_of_stack hu).trans ht) hmet]
    exact ih hseen hus
  | new seen t ts ht hs ih =>
    obtain ⟨u, us, rfl, hu, hus⟩ := List.map_eq_cons_iff.1 h
    have hnew : ¬u.stack ∈ seen' := by
      rw [hu]
      exact fun hmem => hs ((hseen t.stack).1 hmem)
    have hinsert : ∀ k, Stack.renumber σ k ∈ seen'.insert u.stack ↔ k ∈ seen.insert t.stack := by
      intro k
      rw [Met.mem_insert, Met.mem_insert, hseen, hu, Stack.renumber_inj hτ]
    have hwaits : (move u.stack).waits = (move t.stack).waits := by
      rw [hu, move_renumber, waits_renumber]
    have hrest := ih hinsert ((Stacked.followed hu g).append hus)
    rw [firstOf_new ts ht hs, firstOf_new us ((isDone_of_stack hu).trans ht) hnew, hwaits,
      Option.map_or, Option.map_or, hrest]
    split
    · rw [hsame t u hu]
    · rfl

/-- **A stack finds the same with other numbers.** -/
theorem widthOf_renumber (hτ : ∀ i, τ (σ i) = i) (before : Option Char) (place : Nat)
    (ahead : List Char) (k : Stack) :
    widthOf before place ahead (Stack.renumber σ k) = widthOf before place ahead k := by
  induction ahead generalizing before place k with
  | nil =>
    obtain ⟨hout, hrun⟩ := run_eq_firstOf before place []
    rw [widthOf, widthOf, hrun, hrun]
    refine width_firstOf_renumber hτ hout (fun t u hu => ?_)
      (fun k => iff_of_false (Met.not_mem_none _) (Met.not_mem_none _)) rfl
    cases ht : t.isDone with
    | true => rw [outcome_done _ _ ht, outcome_done _ _ ((isDone_of_stack hu).trans ht)]; rfl
    | false => rw [outcome_nil _ ht, outcome_nil _ ((isDone_of_stack hu).trans ht)]
  | cons c ahead ih =>
    obtain ⟨hout, hrun⟩ := run_eq_firstOf before place (c :: ahead)
    rw [widthOf, widthOf, hrun, hrun]
    refine width_firstOf_renumber hτ hout (fun t u hu => ?_)
      (fun k => iff_of_false (Met.not_mem_none _) (Met.not_mem_none _)) rfl
    cases ht : t.isDone with
    | true => rw [outcome_done _ _ ht, outcome_done _ _ ((isDone_of_stack hu).trans ht)]; rfl
    | false =>
      rw [outcome_cons _ _ _ ht, outcome_cons _ _ _ ((isDone_of_stack hu).trans ht),
        Thread.take?, Thread.take?, hu, move_renumber]
      cases move t.stack with
      | consume wanted k =>
        rw [Move.renumber]
        dsimp only
        split
        · rw [Option.bind_some, Option.bind_some, width_run, width_run]
          exact ih _ _ _
        · rfl
      | _ => rfl

end Stacks

end StatefulLexer.Regex
