/-
What legibility depends on.

Whether a tree is legible can be told from what is written of it. Places and the numbers of
groups are not, so they do not matter. Nor does it matter whether a group captures: capture
groups can be taken out of a legible tree, and what is left is legible.

Main statements: `Compiled.IsOf.legible`, `Pattern.legible_withoutCaptures`.
-/
import StatefulLexer.Proofs.Regex.Union

set_option autoImplicit false

namespace StatefulLexer.Regex

/-! ## Classes without places -/

mutual

theorem ClassSet.render_unplaced : (s : ClassSet) → s.unplaced.render = s.render
  | .empty _ => rfl
  | .literal _ => rfl
  | .range _ _ _ => rfl
  | .named _ _ _ => rfl
  | .property _ _ _ => rfl
  | .short _ _ _ => rfl
  | .bracketed _ negated set => congrArg (inBrackets negated) set.render_unplaced
  | .union _ sets => ClassSet.renderAll_unplaced sets
  | .combine _ _ left right => by
    rw [unplaced, render, render, left.render_unplaced, right.render_unplaced]

theorem ClassSet.renderAll_unplaced : (sets : List ClassSet) →
    ClassSet.renderAll (ClassSet.allUnplaced sets) = ClassSet.renderAll sets
  | [] => rfl
  | s :: sets => by
    rw [ClassSet.allUnplaced, ClassSet.renderAll, ClassSet.renderAll, s.render_unplaced,
      ClassSet.renderAll_unplaced]

end

namespace ClassSet

theorem isHyphen_unplaced (s : ClassSet) : s.unplaced.isHyphen = s.isHyphen := by
  cases s <;> rfl

theorem isBracket_unplaced (s : ClassSet) : s.unplaced.isBracket = s.isBracket := by
  cases s <;> rfl

theorem isItem_unplaced (s : ClassSet) : s.unplaced.isItem = s.isItem := by
  cases s <;> rfl

theorem isOperand_unplaced (s : ClassSet) : s.unplaced.isOperand = s.isOperand := by
  cases s <;> rfl

theorem firstItems_unplaced (s : ClassSet) :
    s.unplaced.firstItems = s.firstItems.map unplaced := by
  induction s using chain_induction with
  | operand s hs =>
    cases s with
    | combine => cases hs
    | union place sets => exact allUnplaced_eq_map sets
    | _ => rfl
  | combine place op left right ih => exact ih

theorem any_isBracket_unplaced (items : List ClassSet) :
    (items.map unplaced).head?.any isBracket = items.head?.any isBracket := by
  rw [List.head?_map, Option.any_map]
  exact congrArg (Option.any · items.head?) (funext isBracket_unplaced)

theorem headCount_unplaced (items : List ClassSet) :
    headCount (items.map unplaced) = headCount items := by
  have hhyphen : isHyphen ∘ unplaced = isHyphen := funext isHyphen_unplaced
  rw [headCount, headCount, any_isBracket_unplaced, List.takeWhile_map, hhyphen, List.length_map]

theorem renderFrom_unplaced (heads : Nat) (s : ClassSet) :
    s.unplaced.renderFrom heads = s.renderFrom heads := by
  induction s using chain_induction with
  | operand s hs =>
    have hs' : s.unplaced.isOperand = true := s.isOperand_unplaced.trans hs
    rw [renderFrom_operand hs, renderFrom_operand hs', firstItems_unplaced, ← List.map_drop,
      ← allUnplaced_eq_map, renderAll_unplaced]
  | combine place op left right ih =>
    rw [unplaced, renderFrom, renderFrom, ih, right.render_unplaced]

theorem endsHead_unplaced (negated : Bool) (s : ClassSet) :
    s.unplaced.endsHead negated = s.endsHead negated := by
  rw [endsHead, endsHead, firstItems_unplaced, headCount_unplaced, renderFrom_unplaced,
    render_unplaced, any_isBracket_unplaced]

end ClassSet

mutual

theorem ClassSet.legible_unplaced (verbose : Bool) (heads : Nat) : (s : ClassSet) →
    (rest : List Char) → s.unplaced.legible verbose heads rest = s.legible verbose heads rest
  | .empty _, _ => rfl
  | .literal _, _ => rfl
  | .range _ _ _, _ => rfl
  | .named _ _ _, _ => rfl
  | .property _ _ _, _ => rfl
  | .short _ _ _, _ => rfl
  | .bracketed _ negated set, _ => by
    rw [unplaced, legible, legible, set.endsHead_unplaced, set.render_unplaced,
      set.firstItems_unplaced, headCount_unplaced, set.legible_unplaced]
  | .union _ sets, rest => by
    rw [unplaced, legible, legible, ClassSet.legibleItems_unplaced, allUnplaced_eq_map,
      List.length_map]
  | .combine _ op left right, rest => by
    rw [unplaced, legible, legible, left.legible_unplaced, right.legible_unplaced,
      right.isOperand_unplaced, right.render_unplaced]

theorem ClassSet.legibleItems_unplaced (verbose : Bool) (heads : Nat) : (sets : List ClassSet) →
    (rest : List Char) → ClassSet.legibleItems verbose heads (ClassSet.allUnplaced sets) rest
      = ClassSet.legibleItems verbose heads sets rest
  | [], _ => rfl
  | s :: sets, rest => by
    rw [ClassSet.allUnplaced, ClassSet.legibleItems, ClassSet.legibleItems, s.isItem_unplaced,
      s.legible_unplaced, ClassSet.renderAll_unplaced, ClassSet.legibleItems_unplaced]

end

/-! ## Patterns that read alike -/

/-- **A pattern reads like another one** if it may stand wherever that may, and nothing of it is
illegible that is legible in the other one. -/
structure Pattern.ReadsLike (p q : Pattern) : Prop where
  isItem : p.isItem = q.isItem
  isBranch : p.isBranch = q.isBranch
  isRepeatable : p.isRepeatable = q.isRepeatable
  isGreedy : p.isGreedy = q.isGreedy
  behind : ∀ verbose, p.verboseBehind verbose = q.verboseBehind verbose
  behindAll : ∀ verbose, verboseBehindAll verbose p.items = verboseBehindAll verbose q.items
  legible : ∀ verbose, q.legible verbose = true → p.legible verbose = true

namespace Pattern.ReadsLike

variable {ps qs : List Pattern} {verbose : Bool}

theorem allBehind (h : List.Forall₂ ReadsLike ps qs) :
    verboseBehindAll verbose ps = verboseBehindAll verbose qs := by
  unfold verboseBehindAll
  induction h generalizing verbose with
  | nil => rfl
  | cons hp _ ih => rw [List.foldl_cons, List.foldl_cons, hp.behind, ih]

theorem legibleItems (h : List.Forall₂ ReadsLike ps qs)
    (hqs : Pattern.legibleItems verbose qs = true) : Pattern.legibleItems verbose ps = true := by
  induction h generalizing verbose with
  | nil => rfl
  | cons hp _ ih =>
    rw [Pattern.legibleItems, Bool.and_eq_true, Bool.and_eq_true] at hqs ⊢
    rw [hp.isItem, hp.behind]
    exact ⟨⟨hqs.1.1, hp.legible _ hqs.1.2⟩, ih hqs.2⟩

theorem legibleBranches (h : List.Forall₂ ReadsLike ps qs)
    (hqs : Pattern.legibleBranches verbose qs = true) :
    Pattern.legibleBranches verbose ps = true := by
  induction h generalizing verbose with
  | nil => rfl
  | cons hp _ ih =>
    rw [Pattern.legibleBranches, Bool.and_eq_true, Bool.and_eq_true] at hqs ⊢
    rw [hp.isBranch, hp.behindAll]
    exact ⟨⟨hqs.1.1, hp.legible _ hqs.1.2⟩, ih hqs.2⟩

/-- Repetitions read alike if what they repeat does. -/
theorem repetition (place place' : Region) (op : RepeatOp) (greedy : Bool) {p q : Pattern}
    (h : p.ReadsLike q) :
    (Pattern.repetition place op greedy p).ReadsLike (.repetition place' op greedy q) where
  isItem := rfl
  isBranch := rfl
  isRepeatable := rfl
  isGreedy := rfl
  behind _ := rfl
  behindAll _ := rfl
  legible verbose hq := by
    rw [Pattern.legible, Bool.and_eq_true, Bool.and_eq_true, Bool.and_eq_true] at hq ⊢
    rw [h.isRepeatable, h.isGreedy]
    exact ⟨hq.1, h.legible _ hq.2⟩

/-- Groups read alike if what they enclose does. -/
theorem group (place place' : Region) {kind kind' : GroupKind}
    (hlegible : kind'.legible = true → kind.legible = true)
    (hverbose : ∀ verbose, kind.verboseIn verbose = kind'.verboseIn verbose) {p q : Pattern}
    (h : p.ReadsLike q) : (Pattern.group place kind p).ReadsLike (.group place' kind' q) where
  isItem := rfl
  isBranch := rfl
  isRepeatable := rfl
  isGreedy := rfl
  behind _ := rfl
  behindAll _ := rfl
  legible verbose hq := by
    rw [Pattern.legible, Bool.and_eq_true] at hq ⊢
    rw [hverbose]
    exact ⟨hlegible hq.1, h.legible _ hq.2⟩

/-- A group without flags reads like one that captures. -/
theorem flagless (place place' : Region) {kind : GroupKind}
    (hverbose : ∀ verbose, kind.verboseIn verbose = verbose) {p q : Pattern} (h : p.ReadsLike q) :
    (Pattern.group place (.flags ⟨[], []⟩) p).ReadsLike (.group place' kind q) := by
  have hnone (verbose : Bool) : (GroupKind.flags ⟨[], []⟩).verboseIn verbose = verbose := rfl
  exact .group place place' (fun _ => rfl)
    (fun verbose => (hnone verbose).trans (hverbose verbose).symm) h

/-- Choices read alike if their branches do. -/
theorem alternation (place place' : Region) (h : List.Forall₂ ReadsLike ps qs) :
    (Pattern.alternation place ps).ReadsLike (.alternation place' qs) where
  isItem := rfl
  isBranch := rfl
  isRepeatable := rfl
  isGreedy := rfl
  behind _ := rfl
  behindAll _ := rfl
  legible verbose hq := by
    rw [Pattern.legible, Bool.and_eq_true] at hq ⊢
    rw [h.length_eq]
    exact ⟨hq.1, legibleBranches h hq.2⟩

/-- Sequences read alike if their items do. -/
theorem concat (place place' : Region) (h : List.Forall₂ ReadsLike ps qs) :
    (Pattern.concat place ps).ReadsLike (.concat place' qs) where
  isItem := rfl
  isBranch := rfl
  isRepeatable := rfl
  isGreedy := rfl
  behind _ := rfl
  behindAll _ := allBehind h
  legible verbose hq := by
    rw [Pattern.legible, Bool.and_eq_true] at hq ⊢
    rw [h.length_eq]
    exact ⟨hq.1, legibleItems h hq.2⟩

end Pattern.ReadsLike

/-! ## Places and numbers -/

/-- A class reads like itself without its places. -/
theorem Pattern.readsLike_bracketed (place place' : Region) (negated : Bool) (set : ClassSet) :
    (Pattern.bracketed place negated set).ReadsLike (.bracketed place' negated set.unplaced) where
  isItem := rfl
  isBranch := rfl
  isRepeatable := rfl
  isGreedy := rfl
  behind _ := rfl
  behindAll _ := rfl
  legible verbose h := by
    rw [legible, set.endsHead_unplaced, set.firstItems_unplaced, ClassSet.headCount_unplaced,
      set.legible_unplaced] at h
    exact h

mutual

/-- **A pattern reads like itself without its places.** -/
theorem Pattern.readsLike_unplaced : (p : Pattern) → p.ReadsLike p.unplaced
  | .empty _ => ⟨rfl, rfl, rfl, rfl, fun _ => rfl, fun _ => rfl, fun _ h => h⟩
  | .setFlags _ _ => ⟨rfl, rfl, rfl, rfl, fun _ => rfl, fun _ => rfl, fun _ h => h⟩
  | .literal _ => ⟨rfl, rfl, rfl, rfl, fun _ => rfl, fun _ => rfl, fun _ h => h⟩
  | .dot _ => ⟨rfl, rfl, rfl, rfl, fun _ => rfl, fun _ => rfl, fun _ h => h⟩
  | .assertion _ _ => ⟨rfl, rfl, rfl, rfl, fun _ => rfl, fun _ => rfl, fun _ h => h⟩
  | .property _ _ _ => ⟨rfl, rfl, rfl, rfl, fun _ => rfl, fun _ => rfl, fun _ h => h⟩
  | .short _ _ _ => ⟨rfl, rfl, rfl, rfl, fun _ => rfl, fun _ => rfl, fun _ h => h⟩
  | .bracketed place negated set => readsLike_bracketed place .nowhere negated set
  | .repetition _ op greedy sub => .repetition _ _ op greedy sub.readsLike_unplaced
  | .group _ _ sub => .group _ _ id (fun _ => rfl) sub.readsLike_unplaced
  | .alternation _ branches => .alternation _ _ (Pattern.allReadLike_unplaced branches)
  | .concat _ items => .concat _ _ (Pattern.allReadLike_unplaced items)

theorem Pattern.allReadLike_unplaced : (ps : List Pattern) →
    List.Forall₂ ReadsLike ps (Pattern.allUnplaced ps)
  | [] => .nil
  | p :: ps => .cons p.readsLike_unplaced (Pattern.allReadLike_unplaced ps)

end

/-- The number of a group is not written. -/
theorem GroupKind.legible_numbered (n : Nat) (kind : GroupKind) :
    (kind.numbered n).legible = kind.legible := by
  cases kind <;> rfl

theorem GroupKind.verboseIn_numbered (n : Nat) (kind : GroupKind) (verbose : Bool) :
    (kind.numbered n).verboseIn verbose = kind.verboseIn verbose := by
  cases kind <;> rfl

mutual

/-- **A pattern reads like itself with other numbers** for its groups. -/
theorem Pattern.numbered_readsLike (n : Nat) : (p : Pattern) → (p.numbered n).ReadsLike p
  | .empty _ => ⟨rfl, rfl, rfl, rfl, fun _ => rfl, fun _ => rfl, fun _ h => h⟩
  | .setFlags _ _ => ⟨rfl, rfl, rfl, rfl, fun _ => rfl, fun _ => rfl, fun _ h => h⟩
  | .literal _ => ⟨rfl, rfl, rfl, rfl, fun _ => rfl, fun _ => rfl, fun _ h => h⟩
  | .dot _ => ⟨rfl, rfl, rfl, rfl, fun _ => rfl, fun _ => rfl, fun _ h => h⟩
  | .assertion _ _ => ⟨rfl, rfl, rfl, rfl, fun _ => rfl, fun _ => rfl, fun _ h => h⟩
  | .property _ _ _ => ⟨rfl, rfl, rfl, rfl, fun _ => rfl, fun _ => rfl, fun _ h => h⟩
  | .short _ _ _ => ⟨rfl, rfl, rfl, rfl, fun _ => rfl, fun _ => rfl, fun _ h => h⟩
  | .bracketed _ _ set => ⟨rfl, rfl, rfl, rfl, fun _ => rfl, fun _ => rfl, fun _ h => by
      rw [legible] at h
      rw [numbered, unplaced, legible, set.endsHead_unplaced, set.firstItems_unplaced,
        ClassSet.headCount_unplaced, set.legible_unplaced, h]
      all_goals nofun⟩
  | .repetition _ op greedy sub => .repetition _ _ op greedy (sub.numbered_readsLike n)
  | .group _ kind sub =>
    .group _ _ (fun h => (kind.legible_numbered n).trans h) (kind.verboseIn_numbered n)
      (sub.numbered_readsLike (n + kind.count))
  | .alternation _ branches => .alternation _ _ (Pattern.allNumbered_readLike n branches)
  | .concat _ items => .concat _ _ (Pattern.allNumbered_readLike n items)

theorem Pattern.allNumbered_readLike (n : Nat) : (ps : List Pattern) →
    List.Forall₂ ReadsLike (Pattern.allNumbered n ps) ps
  | [] => .nil
  | p :: ps => .cons (p.numbered_readsLike n) (Pattern.allNumbered_readLike (n + p.groupCount) ps)

end

/-- **What was read of a legible pattern is legible.** -/
theorem Compiled.IsOf.legible {c : Compiled} {p : Pattern} (h : c.IsOf p)
    (hp : p.legible false = true) : c.tree.legible false = true := by
  have hnumbered := (p.numbered_readsLike 0).legible false hp
  rw [← h.tree] at hnumbered
  exact c.tree.readsLike_unplaced.legible false hnumbered

/-! ## Capture groups -/

mutual

/-- A pattern reads like itself where groups captured. -/
theorem Pattern.withoutCaptures_readsLike : (p : Pattern) → p.withoutCaptures.ReadsLike p
  | .empty _ => ⟨rfl, rfl, rfl, rfl, fun _ => rfl, fun _ => rfl, fun _ h => h⟩
  | .setFlags _ _ => ⟨rfl, rfl, rfl, rfl, fun _ => rfl, fun _ => rfl, fun _ h => h⟩
  | .literal _ => ⟨rfl, rfl, rfl, rfl, fun _ => rfl, fun _ => rfl, fun _ h => h⟩
  | .dot _ => ⟨rfl, rfl, rfl, rfl, fun _ => rfl, fun _ => rfl, fun _ h => h⟩
  | .assertion _ _ => ⟨rfl, rfl, rfl, rfl, fun _ => rfl, fun _ => rfl, fun _ h => h⟩
  | .property _ _ _ => ⟨rfl, rfl, rfl, rfl, fun _ => rfl, fun _ => rfl, fun _ h => h⟩
  | .short _ _ _ => ⟨rfl, rfl, rfl, rfl, fun _ => rfl, fun _ => rfl, fun _ h => h⟩
  | .bracketed _ _ _ => ⟨rfl, rfl, rfl, rfl, fun _ => rfl, fun _ => rfl, fun _ h => h⟩
  | .repetition _ op greedy sub => .repetition _ _ op greedy sub.withoutCaptures_readsLike
  | .group _ (.flags _) sub => .group _ _ id (fun _ => rfl) sub.withoutCaptures_readsLike
  | .group _ (.capture _) sub => .flagless _ _ (fun _ => rfl) sub.withoutCaptures_readsLike
  | .group _ (.named _ _ _) sub => .flagless _ _ (fun _ => rfl) sub.withoutCaptures_readsLike
  | .alternation _ branches => .alternation _ _ (Pattern.allWithoutCaptures_readLike branches)
  | .concat _ items => .concat _ _ (Pattern.allWithoutCaptures_readLike items)

theorem Pattern.allWithoutCaptures_readLike : (ps : List Pattern) →
    List.Forall₂ ReadsLike (Pattern.allWithoutCaptures ps) ps
  | [] => .nil
  | p :: ps => .cons p.withoutCaptures_readsLike (Pattern.allWithoutCaptures_readLike ps)

end

/-- **A legible pattern stays legible without capture groups.** -/
theorem Pattern.legible_withoutCaptures {p : Pattern} {verbose : Bool}
    (h : p.legible verbose = true) : p.withoutCaptures.legible verbose = true :=
  p.withoutCaptures_readsLike.legible verbose h

end StatefulLexer.Regex
