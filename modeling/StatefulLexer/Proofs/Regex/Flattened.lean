/-
Patterns without their capture groups.

Taking the capture groups out of a pattern leaves no group that captures, and what is left is
read and means something wherever the pattern did. A group makes no difference to how much is
matched, so neither does taking it out, with one exception: branches of a choice that began
with different groups may begin alike without them, and then their beginning is drawn out. The
pattern flattens well if that does no harm in any of its choices, and if of the rounds of a
repetition without bound, each takes a character or none does.

Main statements: `Pattern.groupCount_withoutCaptures`, `Pattern.meaning_withoutCaptures`.
-/
import StatefulLexer.Proofs.Regex.Reading.LegibleTree
import StatefulLexer.Proofs.Regex.Still
import StatefulLexer.Proofs.Regex.Unbounded

set_option autoImplicit false

namespace StatefulLexer.Regex

/-! ## No captures are left -/

mutual

/-- **No capture group is left,** at any depth. -/
theorem Pattern.groupCount_withoutCaptures : (p : Pattern) → p.withoutCaptures.groupCount = 0
  | .empty _ => rfl
  | .setFlags _ _ => rfl
  | .literal _ => rfl
  | .dot _ => rfl
  | .assertion _ _ => rfl
  | .property _ _ _ => rfl
  | .short _ _ _ => rfl
  | .bracketed _ _ _ => rfl
  | .repetition _ _ _ sub => sub.groupCount_withoutCaptures
  | .group _ kind sub => by
    have hsub := sub.groupCount_withoutCaptures
    cases kind <;> exact (Nat.zero_add _).trans hsub
  | .alternation _ branches => Pattern.totalGroups_withoutCaptures branches
  | .concat _ items => Pattern.totalGroups_withoutCaptures items

theorem Pattern.totalGroups_withoutCaptures : (ps : List Pattern) →
    Pattern.totalGroups (Pattern.allWithoutCaptures ps) = 0
  | [] => rfl
  | p :: ps => by
    rw [Pattern.allWithoutCaptures, Pattern.totalGroups, p.groupCount_withoutCaptures,
      Pattern.totalGroups_withoutCaptures]

end

mutual

/-- Without capture groups there are no names. -/
theorem Pattern.names_of_groupCount : (p : Pattern) → p.groupCount = 0 → p.names = []
  | .empty _, _ => rfl
  | .setFlags _ _, _ => rfl
  | .literal _, _ => rfl
  | .dot _, _ => rfl
  | .assertion _ _, _ => rfl
  | .property _ _ _, _ => rfl
  | .short _ _ _, _ => rfl
  | .bracketed _ _ _, _ => rfl
  | .repetition _ _ _ sub, h => sub.names_of_groupCount h
  | .group _ kind sub, h => by
    have hsub := sub.names_of_groupCount (Nat.add_eq_zero_iff.1 h).2
    cases kind with
    | flags l => exact hsub
    | capture index => exact absurd (Nat.add_eq_zero_iff.1 h).1 Nat.one_ne_zero
    | named index letterP name => exact absurd (Nat.add_eq_zero_iff.1 h).1 Nat.one_ne_zero
  | .alternation _ branches, h => Pattern.allNames_of_totalGroups branches h
  | .concat _ items, h => Pattern.allNames_of_totalGroups items h

theorem Pattern.allNames_of_totalGroups : (ps : List Pattern) → Pattern.totalGroups ps = 0 →
    Pattern.allNames ps = []
  | [], _ => rfl
  | p :: ps, h => by
    rw [Pattern.allNames, p.names_of_groupCount (Nat.add_eq_zero_iff.1 h).1,
      Pattern.allNames_of_totalGroups ps (Nat.add_eq_zero_iff.1 h).2]
    rfl

end

mutual

/-- Without capture groups there is nothing to be numbered. -/
theorem Pattern.numbered_of_groupCount (n : Nat) : (p : Pattern) → p.groupCount = 0 →
    p.numbered n = p.unplaced
  | .empty _, _ => rfl
  | .setFlags _ _, _ => rfl
  | .literal _, _ => rfl
  | .dot _, _ => rfl
  | .assertion _ _, _ => rfl
  | .property _ _ _, _ => rfl
  | .short _ _ _, _ => rfl
  | .bracketed _ _ _, _ => rfl
  | .repetition _ _ _ sub, h => by rw [numbered, unplaced, sub.numbered_of_groupCount n h]
  | .group _ kind sub, h => by
    have hsub := sub.numbered_of_groupCount (n + kind.count) (Nat.add_eq_zero_iff.1 h).2
    rw [numbered, unplaced, hsub]
    cases kind with
    | flags l => rfl
    | capture index => exact absurd (Nat.add_eq_zero_iff.1 h).1 Nat.one_ne_zero
    | named index letterP name => exact absurd (Nat.add_eq_zero_iff.1 h).1 Nat.one_ne_zero
  | .alternation _ branches, h => by
    rw [numbered, unplaced, Pattern.allNumbered_of_totalGroups n branches h]
  | .concat _ items, h => by rw [numbered, unplaced, Pattern.allNumbered_of_totalGroups n items h]

theorem Pattern.allNumbered_of_totalGroups (n : Nat) : (ps : List Pattern) →
    Pattern.totalGroups ps = 0 → Pattern.allNumbered n ps = Pattern.allUnplaced ps
  | [], _ => rfl
  | p :: ps, h => by
    rw [Pattern.allNumbered, Pattern.allUnplaced,
      p.numbered_of_groupCount n (Nat.add_eq_zero_iff.1 h).1,
      Pattern.allNumbered_of_totalGroups _ ps (Nat.add_eq_zero_iff.1 h).2]

end

mutual

/-- Nor is there anything to be taken out. -/
theorem Pattern.withoutCaptures_of_groupCount : (p : Pattern) → p.groupCount = 0 →
    p.withoutCaptures = p
  | .empty _, _ => rfl
  | .setFlags _ _, _ => rfl
  | .literal _, _ => rfl
  | .dot _, _ => rfl
  | .assertion _ _, _ => rfl
  | .property _ _ _, _ => rfl
  | .short _ _ _, _ => rfl
  | .bracketed _ _ _, _ => rfl
  | .repetition place op greedy sub, h =>
    congrArg (Pattern.repetition place op greedy) (sub.withoutCaptures_of_groupCount h)
  | .group place kind sub, h => by
    have hsub := sub.withoutCaptures_of_groupCount (Nat.add_eq_zero_iff.1 h).2
    cases kind with
    | flags l => exact congrArg (Pattern.group place (.flags l)) hsub
    | capture index => exact absurd (Nat.add_eq_zero_iff.1 h).1 Nat.one_ne_zero
    | named index letterP name => exact absurd (Nat.add_eq_zero_iff.1 h).1 Nat.one_ne_zero
  | .alternation place branches, h =>
    congrArg (Pattern.alternation place) (Pattern.allWithoutCaptures_of_totalGroups branches h)
  | .concat place items, h =>
    congrArg (Pattern.concat place) (Pattern.allWithoutCaptures_of_totalGroups items h)

theorem Pattern.allWithoutCaptures_of_totalGroups : (ps : List Pattern) →
    Pattern.totalGroups ps = 0 → Pattern.allWithoutCaptures ps = ps
  | [], _ => rfl
  | p :: ps, h => by
    rw [Pattern.allWithoutCaptures,
      p.withoutCaptures_of_groupCount (Nat.add_eq_zero_iff.1 h).1,
      Pattern.allWithoutCaptures_of_totalGroups ps (Nat.add_eq_zero_iff.1 h).2]

end

mutual

/-- Groups stay where they were, so nothing is nested deeper. -/
theorem Pattern.height_withoutCaptures : (p : Pattern) → p.withoutCaptures.height = p.height
  | .empty _ => rfl
  | .setFlags _ _ => rfl
  | .literal _ => rfl
  | .dot _ => rfl
  | .assertion _ _ => rfl
  | .property _ _ _ => rfl
  | .short _ _ _ => rfl
  | .bracketed _ _ _ => rfl
  | .repetition _ _ _ sub => congrArg (· + 1) sub.height_withoutCaptures
  | .group _ kind sub => by
    have hsub := sub.height_withoutCaptures
    cases kind <;> exact congrArg (· + 1) hsub
  | .alternation _ branches => congrArg (· + 1) (Pattern.greatestHeight_withoutCaptures branches)
  | .concat _ items => congrArg (· + 1) (Pattern.greatestHeight_withoutCaptures items)

theorem Pattern.greatestHeight_withoutCaptures : (ps : List Pattern) →
    Pattern.greatestHeight (Pattern.allWithoutCaptures ps) = Pattern.greatestHeight ps
  | [] => rfl
  | p :: ps => by
    rw [Pattern.allWithoutCaptures, Pattern.greatestHeight, Pattern.greatestHeight,
      p.height_withoutCaptures, Pattern.greatestHeight_withoutCaptures]

end

/-! ## Patterns that flatten well -/

/-- The choice between what branches mean is settled. -/
def Pattern.choiceSettled (f : Flags) (branches : List Pattern) : Bool :=
  (Pattern.meanings f branches).toOption.all fun (es, _) => Expr.settled es

/-- No match takes a character, or each is known to take one. -/
def Expr.isDecided (e : Expr) : Bool := e.isStill || e.leastLength.any (0 < ·)

theorem Expr.takes_of_isDecided {e : Expr} (h : e.isDecided = true) (hstill : e.isStill = false) :
    e.Takes := by
  rw [isDecided, hstill, Bool.false_or, Option.any_eq_true] at h
  obtain ⟨n, hn, hpos⟩ := h
  exact takes_of_leastLength hn (of_decide_eq_true hpos)

/-- What the pattern means is decided. -/
def Pattern.isDecided (f : Flags) (p : Pattern) : Bool :=
  (p.meaning f).toOption.all fun (e, _) => e.isDecided

mutual

/-- **A pattern flattens well** where flags are in force: its choices between branches with
capture groups are settled, with these groups and without them, and its repetitions of capture
groups have a greatest number of rounds, or rounds of which each takes a character or none
does. -/
def Pattern.flattensWell (f : Flags) : Pattern → Bool
  | .repetition _ op _ sub =>
    sub.groupCount == 0 || ((op.bounds.2.isSome || sub.isDecided f) && sub.flattensWell f)
  | .group _ kind sub => sub.flattensWell (kind.inside f)
  | .alternation _ branches => Pattern.totalGroups branches == 0 ||
    (Pattern.choiceSettled f branches &&
      Pattern.choiceSettled f (Pattern.allWithoutCaptures branches) &&
      Pattern.allFlattenWell f branches)
  | .concat _ items => Pattern.allFlattenWell f items
  | _ => true

/-- Patterns that follow each other flatten well. -/
def Pattern.allFlattenWell (f : Flags) : List Pattern → Bool
  | [] => true
  | p :: ps => p.flattensWell f &&
    match p.meaning f with
    | .ok (_, f) => Pattern.allFlattenWell f ps
    | .error _ => true

end

/-! ## Expressions that were flattened -/

/-- What an expression was flattened to: it takes characters if that does, and it finds the same
if the pattern flattens well. -/
structure Expr.FlattensTo (well : Bool) (e g : Expr) : Prop where
  isStill : g.isStill = e.isStill
  alike : well = true → g.Alike e

namespace Expr.FlattensTo

variable {well : Bool} {e g : Expr}

theorem refl (well : Bool) (e : Expr) : e.FlattensTo well e := ⟨rfl, fun _ => Expr.Alike.refl e⟩

theorem mono (h : e.FlattensTo well g) {well' : Bool} (hwell : well' = true → well = true) :
    e.FlattensTo well' g :=
  ⟨h.isStill, fun h' => h.alike (hwell h')⟩

/-- A capture group that was taken out. -/
theorem capture (h : e.FlattensTo well g) (index : Nat) : (Expr.capture index e).FlattensTo well g :=
  ⟨h.isStill, fun hwell =>
    Expr.Alike.trans (h.alike hwell) (Expr.Alike.symm (Expr.Alike.capture index e))⟩

/-- Repetitions of something flattened are simplified alike, so they are alike themselves. -/
theorem repeated_alike (h : e.FlattensTo well g) (hwell : well = true) (least : Nat)
    (most : Option Nat) (greedy : Bool) (hrounds : most.isSome = true ∨ e.isDecided = true) :
    (Expr.repeated least most greedy g).Alike (.repeated least most greedy e) := by
  have halike : g.Alike e := h.alike hwell
  rw [Expr.repeated, Expr.repeated, ← Expr.isStill, ← Expr.isStill, h.isStill]
  generalize (if e.isStill = true then min least 1 else least) = least
  generalize hbound : (if e.isStill = true then some ((most.map (min · 1)).getD 1) else most)
    = bound
  have hbound : bound.isSome = true ∨ g.Takes := by
    cases hstill : e.isStill with
    | true =>
      rw [hstill, if_pos rfl] at hbound
      exact .inl (hbound ▸ rfl)
    | false =>
      rw [hstill, if_neg Bool.false_ne_true] at hbound
      rw [← hbound]
      exact hrounds.imp_right fun hdecided =>
        Expr.Alike.takes (Expr.Alike.symm halike) (Expr.takes_of_isDecided hdecided hstill)
  intro k hk
  split
  · exact .refl _
  · split
    · exact halike hk
    · cases bound with
      | some most => exact Expr.Alike.rep halike least most greedy hk
      | none => exact Expr.Alike.unbounded halike (hbound.resolve_left Bool.false_ne_true) least greedy hk

/-- **A repetition** of something flattened. -/
theorem repeated (h : e.FlattensTo well g) {least : Nat} {most : Option Nat}
    (hordered : most = some 0 → least = 0) (greedy : Bool) :
    (Expr.repeated least most greedy e).FlattensTo ((most.isSome || e.isDecided) && well)
      (.repeated least most greedy g) where
  isStill := by
    by_cases hmost : most = some 0
    · -- What is left out is left out, whatever it is.
      have hnone (e : Expr) : Expr.repeated least most greedy e = .empty := by
        rw [hmost, hordered hmost, Expr.repeated]
        cases e.greatestLength == some 0 <;> rfl
      rw [hnone, hnone]
    · rw [isStill_repeated least hmost, isStill_repeated least hmost, h.isStill]
  alike hwell := by
    obtain ⟨hrounds, hwell⟩ := Bool.and_eq_true_iff.1 hwell
    exact h.repeated_alike hwell least most greedy (Bool.or_eq_true _ _ ▸ hrounds)

variable {es gs : List Expr}

theorem all_isStill (h : List.Forall₂ (FlattensTo well) es gs) :
    gs.all Expr.isStill = es.all Expr.isStill := by
  induction h with
  | nil => rfl
  | cons he _ ih => rw [List.all_cons, List.all_cons, he.isStill, ih]

theorem all_alike (h : List.Forall₂ (FlattensTo well) es gs) (hwell : well = true) :
    List.Forall₂ Expr.Alike gs es :=
  (h.imp fun _ _ he => he.alike hwell).flip

/-- **A sequence** of what was flattened. -/
theorem sequence (h : List.Forall₂ (FlattensTo well) es gs) :
    (Expr.sequence es).FlattensTo well (.sequence gs) :=
  ⟨by rw [isStill_sequence, isStill_sequence, all_isStill h],
    fun hwell => Expr.Alike.sequence (all_alike h hwell)⟩

/-- **A choice** between what was flattened. -/
theorem choice (h : List.Forall₂ (FlattensTo well) es gs) (hne : es ≠ []) :
    (Expr.choice es).FlattensTo (Expr.settled es && Expr.settled gs && well) (.choice gs) where
  isStill := by
    have hne' : gs ≠ [] := by
      rintro rfl
      cases h
      exact hne rfl
    rw [isStill_choice hne, isStill_choice hne', all_isStill h]
  alike hwell := by
    rw [Bool.and_eq_true, Bool.and_eq_true] at hwell
    intro k hk before place ahead
    rw [widthOf_choice hwell.1.2 hk, widthOf_choice hwell.1.1 hk,
      firstWidth_congr (all_alike h hwell.2) hk]

end Expr.FlattensTo

/-! ## Meanings -/

theorem RepeatOp.eq_zero_of_legible {op : RepeatOp} (h : op.legible = true)
    (hmost : op.bounds.2 = some 0) : op.bounds.1 = 0 := by
  have hordered := (Bool.and_eq_true_iff.1 h).1
  rw [isOrdered] at hordered
  cases op with
  | exactly n => exact Option.some.inj hmost
  | between m n =>
    rw [Option.some.inj hmost] at hordered
    exact Nat.le_zero.1 (of_decide_eq_true hordered)
  | _ => cases hmost

/-- **Of legible items each is legible** where it stands, and of legible branches as well: they are
asked to be, one by one, whatever else is asked of them. -/
theorem Pattern.exists_legible_of_row {row : Bool → List Pattern → Bool} {test : Pattern → Bool}
    {next : Bool → Pattern → Bool}
    (hrow : ∀ verbose p ps,
      row verbose (p :: ps) = (test p && p.legible verbose && row (next verbose p) ps))
    {verbose : Bool} {ps : List Pattern} (h : row verbose ps = true) :
    ∀ p ∈ ps, ∃ verbose, p.legible verbose = true := by
  induction ps generalizing verbose with
  | nil => exact nofun
  | cons p ps ih =>
    rw [hrow, Bool.and_eq_true, Bool.and_eq_true] at h
    exact List.forall_mem_cons.2 ⟨⟨verbose, h.1.2⟩, ih h.2⟩

/-- There are as many expressions as patterns. -/
theorem Pattern.length_of_meanings {f f' : Flags} {ps : List Pattern} {es : List Expr}
    (h : Pattern.meanings f ps = .ok (es, f')) : es.length = ps.length := by
  induction ps generalizing f es with
  | nil =>
    rw [← (Prod.mk.inj (Except.ok.inj h)).1]
    rfl
  | cons p ps ih =>
    obtain ⟨⟨e, f₁⟩, _, h⟩ := bind_eq_ok.1 h
    obtain ⟨⟨es', f₂⟩, hes, h⟩ := bind_eq_ok.1 h
    obtain ⟨rfl, rfl⟩ := Prod.mk.inj (Except.ok.inj h)
    rw [List.length_cons, List.length_cons, ih hes]

mutual

/-- **What a pattern means without its capture groups.** It means something if the pattern does,
and leaves the same flags behind. It takes a character if that does, and finds matches of the
same width if the pattern flattens well. -/
theorem Pattern.meaning_withoutCaptures (f : Flags) : (p : Pattern) →
    (∃ verbose, p.legible verbose = true) → {e : Expr} → {f' : Flags} →
      p.meaning f = .ok (e, f') →
        ∃ g, p.withoutCaptures.meaning f = .ok (g, f') ∧ e.FlattensTo (p.flattensWell f) g
  | .empty _, _, e, _, h => ⟨e, h, .refl _ e⟩
  | .setFlags _ _, _, e, _, h => ⟨e, h, .refl _ e⟩
  | .literal _, _, e, _, h => ⟨e, h, .refl _ e⟩
  | .dot _, _, e, _, h => ⟨e, h, .refl _ e⟩
  | .assertion _ _, _, e, _, h => ⟨e, h, .refl _ e⟩
  | .property _ _ _, _, e, _, h => ⟨e, h, .refl _ e⟩
  | .short _ _ _, _, e, _, h => ⟨e, h, .refl _ e⟩
  | .bracketed _ _ _, _, e, _, h => ⟨e, h, .refl _ e⟩
  | .repetition place op greedy sub, ⟨verbose, hlegible⟩, e, f', h => by
    rw [legible, Bool.and_eq_true, Bool.and_eq_true, Bool.and_eq_true] at hlegible
    obtain ⟨⟨e', f''⟩, hsub, hrep⟩ := bind_eq_ok.1 h
    obtain ⟨rfl, rfl⟩ := Prod.mk.inj (Except.ok.inj hrep)
    obtain ⟨g, hg, hflat⟩ := sub.meaning_withoutCaptures f ⟨verbose, hlegible.2⟩ hsub
    refine ⟨_, bind_eq_ok.2 ⟨(g, f''), hg, rfl⟩, ?_⟩
    have hrepeated := hflat.repeated (RepeatOp.eq_zero_of_legible hlegible.1.1.1)
      (greedy != f''.swapGreed)
    by_cases hcount : sub.groupCount = 0
    · -- Without capture groups nothing was changed.
      rw [sub.withoutCaptures_of_groupCount hcount, hsub] at hg
      rw [(Prod.mk.inj (Except.ok.inj hg)).1]
      exact .refl _ _
    · refine hrepeated.mono fun hwell => ?_
      rw [flattensWell, Bool.or_eq_true, beq_iff_eq, isDecided, hsub] at hwell
      exact hwell.resolve_left hcount
  | .group place kind sub, ⟨verbose, hlegible⟩, e, f', h => by
    rw [legible, Bool.and_eq_true] at hlegible
    obtain ⟨⟨e', f''⟩, hsub, hgroup⟩ := bind_eq_ok.1 h
    obtain ⟨rfl, rfl⟩ := Prod.mk.inj (Except.ok.inj hgroup)
    obtain ⟨g, hg, hflat⟩ := sub.meaning_withoutCaptures (kind.inside f) ⟨_, hlegible.2⟩ hsub
    refine ⟨g, ?_, ?_⟩
    · cases kind <;> exact bind_eq_ok.2 ⟨(g, f''), hg, rfl⟩
    · cases kind with
      | flags l => exact hflat
      | capture index => exact hflat.capture index
      | named index letterP name => exact hflat.capture index
  | .alternation place branches, ⟨verbose, hlegible⟩, e, f', h => by
    rw [legible, Bool.and_eq_true, decide_eq_true_iff] at hlegible
    obtain ⟨⟨es, f''⟩, hes, hchoice⟩ := bind_eq_ok.1 h
    obtain ⟨rfl, rfl⟩ := Prod.mk.inj (Except.ok.inj hchoice)
    obtain ⟨gs, hgs, hall⟩ := Pattern.meanings_withoutCaptures f branches
      (exists_legible_of_row (fun _ _ _ => rfl) hlegible.2) hes
    have hne : es ≠ [] := by
      rintro rfl
      have hlength := Pattern.length_of_meanings hes
      rw [← hlength] at hlegible
      exact absurd hlegible.1 (by decide)
    refine ⟨_, bind_eq_ok.2 ⟨(gs, f''), hgs, rfl⟩, ?_⟩
    by_cases hcount : Pattern.totalGroups branches = 0
    · rw [Pattern.allWithoutCaptures_of_totalGroups branches hcount, hes] at hgs
      rw [(Prod.mk.inj (Except.ok.inj hgs)).1]
      exact .refl _ _
    · refine (Expr.FlattensTo.choice hall hne).mono fun hwell => ?_
      rw [flattensWell, Bool.or_eq_true, beq_iff_eq, choiceSettled, choiceSettled, hes, hgs] at hwell
      exact hwell.resolve_left hcount
  | .concat place items, ⟨verbose, hlegible⟩, e, f', h => by
    rw [legible, Bool.and_eq_true] at hlegible
    obtain ⟨⟨es, f''⟩, hes, hsequence⟩ := bind_eq_ok.1 h
    obtain ⟨rfl, rfl⟩ := Prod.mk.inj (Except.ok.inj hsequence)
    obtain ⟨gs, hgs, hall⟩ := Pattern.meanings_withoutCaptures f items
      (exists_legible_of_row (fun _ _ _ => rfl) hlegible.2) hes
    exact ⟨_, bind_eq_ok.2 ⟨(gs, f''), hgs, rfl⟩, .sequence hall⟩

theorem Pattern.meanings_withoutCaptures (f : Flags) : (ps : List Pattern) →
    (∀ p ∈ ps, ∃ verbose, p.legible verbose = true) → {es : List Expr} → {f' : Flags} →
      Pattern.meanings f ps = .ok (es, f') →
        ∃ gs, Pattern.meanings f (Pattern.allWithoutCaptures ps) = .ok (gs, f') ∧
          List.Forall₂ (Expr.FlattensTo (Pattern.allFlattenWell f ps)) es gs
  | [], _, es, f', h => by
    obtain ⟨rfl, rfl⟩ := Prod.mk.inj (Except.ok.inj h)
    exact ⟨[], rfl, .nil⟩
  | p :: ps, hlegible, es, f', h => by
    obtain ⟨hp, hps⟩ := List.forall_mem_cons.1 hlegible
    obtain ⟨⟨e, f₁⟩, he, h⟩ := bind_eq_ok.1 h
    obtain ⟨⟨es', f₂⟩, hes, h⟩ := bind_eq_ok.1 h
    obtain ⟨rfl, rfl⟩ := Prod.mk.inj (Except.ok.inj h)
    obtain ⟨g, hg, hflat⟩ := p.meaning_withoutCaptures f hp he
    obtain ⟨gs, hgs, hall⟩ := Pattern.meanings_withoutCaptures f₁ ps hps hes
    refine ⟨g :: gs, bind_eq_ok.2 ⟨(g, f₁), hg, bind_eq_ok.2 ⟨(gs, f₂), hgs, rfl⟩⟩, ?_⟩
    rw [allFlattenWell, he]
    refine .cons (hflat.mono fun hwell => (Bool.and_eq_true_iff.1 hwell).1) ?_
    exact hall.imp fun _ _ h => h.mono fun hwell => (Bool.and_eq_true_iff.1 hwell).2

end

end StatefulLexer.Regex
