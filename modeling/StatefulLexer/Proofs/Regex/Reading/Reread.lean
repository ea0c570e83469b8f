/-
Patterns with blanks in them.

Where blanks are skipped, what was read need not be legible. A question mark may have blanks
between itself and an operator, and is taken for a part of the operator once they are gone; and
a class may hold blanks that keep its items apart. Nothing else can go wrong. If the classes are
legible, then the text of the pattern is that of a tree which is legible, although it may be
another one: the tree that is read again.

Main statements: `Pattern.legible_of_wellRead`, `Pattern.legible_reread`.
-/
import StatefulLexer.Proofs.Regex.Opened

set_option autoImplicit false

namespace StatefulLexer.Regex

/-! ## Verbose patterns -/

/-- The kind sets the flag under which blanks are skipped. -/
def GroupKind.setsVerbose : GroupKind → Bool
  | .flags l => l.state? .verbose == some true
  | _ => false

/-- **A pattern is verbose** if blanks are skipped somewhere in it. -/
def Pattern.isVerbose (p : Pattern) : Bool := p.opened.any GroupKind.setsVerbose

/-- Without the flag nothing is skipped inside of a group. -/
theorem GroupKind.verboseIn_false {kind : GroupKind} (h : kind.setsVerbose = false) :
    kind.verboseIn false = false := by
  cases kind with
  | flags l =>
    rw [verboseIn, FlagList.verboseIn]
    cases hstate : l.state? .verbose with
    | none => rfl
    | some state =>
      cases state with
      | false => rfl
      | true => simp [setsVerbose, hstate] at h
  | _ => rfl

/-! ## Patterns that were read -/

mutual

/-- **A pattern like those that are read,** where blanks are skipped, or are not. It is legible,
but for what blanks can bring about where they are skipped: a question mark may stand behind a
greedy operator, and a class may be any, unless `classes` are to be legible there as well. -/
def Pattern.wellRead (classes verbose : Bool) : Pattern → Bool
  | .bracketed region negated set =>
    (!classes && verbose) || (Pattern.bracketed region negated set).legible verbose
  | .repetition _ op _ sub =>
    op.legible && sub.isRepeatable && (verbose || !(op == .optional && sub.isGreedy)) &&
      sub.wellRead classes verbose
  | .group _ kind sub => kind.legible && sub.wellRead classes (kind.verboseIn verbose)
  | .alternation _ branches =>
    decide (2 ≤ branches.length) && Pattern.wellReadBranches classes verbose branches
  | .concat _ items => decide (2 ≤ items.length) && Pattern.wellReadItems classes verbose items
  | p => p.legible verbose

/-- Items like those that are read, one behind the other. -/
def Pattern.wellReadItems (classes verbose : Bool) : List Pattern → Bool
  | [] => true
  | p :: items => p.isItem && p.wellRead classes verbose &&
    Pattern.wellReadItems classes (p.verboseBehind verbose) items

/-- Branches like those that are read, one behind the other. -/
def Pattern.wellReadBranches (classes verbose : Bool) : List Pattern → Bool
  | [] => true
  | p :: branches => p.isBranch && p.wellRead classes verbose &&
    Pattern.wellReadBranches classes (Pattern.verboseBehindAll verbose p.items) branches

end

namespace Pattern

/-- Whether blanks are skipped behind branches. -/
def verboseBehindBranches (verbose : Bool) (branches : List Pattern) : Bool :=
  branches.foldl (fun verbose p => verboseBehindAll verbose p.items) verbose

theorem verboseBehindAll_append (verbose : Bool) (items : List Pattern) (p : Pattern) :
    verboseBehindAll verbose (items ++ [p]) = p.verboseBehind (verboseBehindAll verbose items) :=
  List.foldl_append

theorem verboseBehindBranches_append (verbose : Bool) (branches : List Pattern) (p : Pattern) :
    verboseBehindBranches verbose (branches ++ [p])
      = verboseBehindAll (verboseBehindBranches verbose branches) p.items :=
  List.foldl_append

/-- One more item, or one more branch. -/
theorem wellRead_append {row : Bool → List Pattern → Bool} {next : Bool → Pattern → Bool}
    (ok : Bool → Pattern → Bool) (hnil : ∀ verbose, row verbose [] = true)
    (hcons : ∀ verbose p ps, row verbose (p :: ps) = (ok verbose p && row (next verbose p) ps))
    (verbose : Bool) (ps : List Pattern) (p : Pattern) :
    row verbose (ps ++ [p]) = (row verbose ps && ok (ps.foldl next verbose) p) := by
  induction ps generalizing verbose with
  | nil => rw [List.nil_append, hcons, hnil, hnil, Bool.and_true, Bool.true_and, List.foldl_nil]
  | cons q ps ih => rw [List.cons_append, hcons, hcons, ih, List.foldl_cons, Bool.and_assoc]

theorem wellReadItems_append (classes verbose : Bool) (items : List Pattern) (p : Pattern) :
    wellReadItems classes verbose (items ++ [p]) = (wellReadItems classes verbose items &&
      (p.isItem && p.wellRead classes (verboseBehindAll verbose items))) :=
  wellRead_append (fun verbose p => p.isItem && p.wellRead classes verbose)
    (fun _ => rfl) (fun _ _ _ => rfl) verbose items p

theorem wellReadBranches_append (classes verbose : Bool) (branches : List Pattern) (p : Pattern) :
    wellReadBranches classes verbose (branches ++ [p])
      = (wellReadBranches classes verbose branches &&
        (p.isBranch && p.wellRead classes (verboseBehindBranches verbose branches))) :=
  wellRead_append (fun verbose p => p.isBranch && p.wellRead classes verbose)
    (fun _ => rfl) (fun _ _ _ => rfl) verbose branches p

end Pattern

/-! ## Without blanks -/

namespace Pattern

/-- If nothing makes blanks be skipped, they are not skipped behind it. -/
theorem verboseBehind_false {p : Pattern} (h : p.opened.any GroupKind.setsVerbose = false) :
    p.verboseBehind false = false := by
  cases p with
  | setFlags region l =>
    rw [opened, List.any_cons, List.any_nil, Bool.or_false] at h
    exact GroupKind.verboseIn_false h
  | _ => rfl

theorem verboseBehindAll_false {items : List Pattern}
    (h : (allOpened items).any GroupKind.setsVerbose = false) :
    verboseBehindAll false items = false := by
  rw [verboseBehindAll]
  induction items with
  | nil => rfl
  | cons p items ih =>
    rw [allOpened, List.any_append, Bool.or_eq_false_iff] at h
    rw [List.foldl_cons, verboseBehind_false h.1]
    exact ih h.2

theorem allOpened_items {p : Pattern} (h : p.isBranch = true) : allOpened p.items = p.opened := by
  cases p with
  | alternation => cases h
  | empty region => rfl
  | concat region items => rfl
  | _ => exact List.append_nil _

end Pattern

mutual

/-- **A pattern that was read is legible** if no blanks are skipped in it. -/
theorem Pattern.legible_of_wellRead {classes : Bool} : (p : Pattern) →
    p.wellRead classes false = true → p.opened.any GroupKind.setsVerbose = false →
      p.legible false = true
  | .empty _, h, _ => h
  | .setFlags _ _, h, _ => h
  | .literal _, h, _ => h
  | .dot _, h, _ => h
  | .assertion _ _, h, _ => h
  | .property _ _ _, h, _ => h
  | .short _ _ _, h, _ => h
  | .bracketed _ _ _, h, _ => by
    rw [wellRead, Bool.and_false, Bool.false_or] at h
    exact h
  | .repetition _ _ _ sub, h, hnot => by
    rw [wellRead, Bool.false_or, Bool.and_eq_true] at h
    rw [legible, h.1, sub.legible_of_wellRead h.2 hnot, Bool.and_self]
  | .group _ kind sub, h, hnot => by
    rw [opened, List.any_cons, Bool.or_eq_false_iff] at hnot
    rw [wellRead, GroupKind.verboseIn_false hnot.1, Bool.and_eq_true] at h
    rw [legible, GroupKind.verboseIn_false hnot.1, h.1, sub.legible_of_wellRead h.2 hnot.2,
      Bool.and_self]
  | .alternation _ branches, h, hnot => by
    rw [wellRead, Bool.and_eq_true] at h
    rw [legible, h.1, Pattern.legibleBranches_of_wellRead branches h.2 hnot, Bool.and_self]
  | .concat _ items, h, hnot => by
    rw [wellRead, Bool.and_eq_true] at h
    rw [legible, h.1, Pattern.legibleItems_of_wellRead items h.2 hnot, Bool.and_self]

theorem Pattern.legibleItems_of_wellRead {classes : Bool} : (ps : List Pattern) →
    Pattern.wellReadItems classes false ps = true →
      (Pattern.allOpened ps).any GroupKind.setsVerbose = false →
        Pattern.legibleItems false ps = true
  | [], _, _ => rfl
  | p :: ps, h, hnot => by
    rw [Pattern.allOpened, List.any_append, Bool.or_eq_false_iff] at hnot
    have hbehind := Pattern.verboseBehind_false hnot.1
    rw [Pattern.wellReadItems, hbehind, Bool.and_eq_true, Bool.and_eq_true] at h
    rw [Pattern.legibleItems, hbehind, h.1.1, p.legible_of_wellRead h.1.2 hnot.1,
      Pattern.legibleItems_of_wellRead ps h.2 hnot.2]
    rfl

theorem Pattern.legibleBranches_of_wellRead {classes : Bool} : (ps : List Pattern) →
    Pattern.wellReadBranches classes false ps = true →
      (Pattern.allOpened ps).any GroupKind.setsVerbose = false →
        Pattern.legibleBranches false ps = true
  | [], _, _ => rfl
  | p :: ps, h, hnot => by
    rw [Pattern.allOpened, List.any_append, Bool.or_eq_false_iff] at hnot
    rw [Pattern.wellReadBranches, Bool.and_eq_true, Bool.and_eq_true] at h
    have hbehind : Pattern.verboseBehindAll false p.items = false := by
      apply Pattern.verboseBehindAll_false
      rw [Pattern.allOpened_items h.1.1]
      exact hnot.1
    rw [hbehind] at h
    rw [Pattern.legibleBranches, hbehind, h.1.1, p.legible_of_wellRead h.1.2 hnot.1,
      Pattern.legibleBranches_of_wellRead ps h.2 hnot.2]
    rfl

end

/-! ## Reading again -/

/-- A repetition as it is read again: a question mark behind a greedy operator is a part of that,
and makes it lazy. -/
def Pattern.repetitionAgain (region : Region) : RepeatOp → Bool → Pattern → Pattern
  | .optional, true, .repetition _ op true sub => .repetition region op false sub
  | .optional, false, .repetition inner op true sub =>
    .repetition region .optional true (.repetition inner op false sub)
  | op, greedy, sub => .repetition region op greedy sub

mutual

/-- **What is read again of a pattern,** once the blanks are gone that were skipped. -/
def Pattern.reread : Pattern → Pattern
  | .repetition region op greedy sub => repetitionAgain region op greedy sub.reread
  | .group region kind sub => .group region kind sub.reread
  | .alternation region branches => .alternation region (Pattern.allReread branches)
  | .concat region items => .concat region (Pattern.allReread items)
  | p => p

/-- What is read again of patterns. -/
def Pattern.allReread : List Pattern → List Pattern
  | [] => []
  | p :: patterns => p.reread :: Pattern.allReread patterns

end

namespace Pattern

/-- A lazy operator is a greedy one with a question mark behind it. -/
theorem render_lazy (op : RepeatOp) : op.render false = op.render true ++ ['?'] :=
  congrArg (· ++ ['?']) (List.append_nil _).symm

/-- The text is that of the repetition. -/
theorem render_repetitionAgain (region : Region) (op : RepeatOp) (greedy : Bool) (p : Pattern) :
    (repetitionAgain region op greedy p).render = p.render ++ op.render greedy := by
  fun_cases repetitionAgain region op greedy p with
  | case1 _ op sub =>
    rw [render, render, render_lazy, List.append_assoc]
    rfl
  | case2 _ op sub =>
    rw [render, render, render, render_lazy, List.append_assoc, List.append_assoc,
      List.append_assoc]
    rfl
  | case3 => rw [render]

/-- If what is repeated is legible, so is the repetition as it is read again. -/
theorem legible_repetitionAgain (region : Region) {op : RepeatOp} (greedy : Bool) {p : Pattern}
    {verbose : Bool} (hop : op.legible = true) (hrepeatable : p.isRepeatable = true)
    (hp : p.legible verbose = true) :
    (repetitionAgain region op greedy p).legible verbose = true := by
  fun_cases repetitionAgain region op greedy p with
  | case1 _ op sub =>
    rw [legible] at hp ⊢
    exact hp
  | case2 _ op sub =>
    rw [legible] at hp
    rw [legible, legible, hp]
    rfl
  | case3 =>
    rename_i hnotGreedy hnotLazy
    have hnot : (op == .optional && p.isGreedy) = false := by
      rw [Bool.and_eq_false_iff, beq_eq_false_iff_ne]
      by_contra hboth
      rw [not_or, not_not, Bool.not_eq_false] at hboth
      obtain ⟨hoptional, hp⟩ := hboth
      cases p with
      | repetition inner op' greedy' sub =>
        obtain rfl : greedy' = true := hp
        cases greedy with
        | true => exact hnotGreedy _ _ _ hoptional rfl rfl
        | false => exact hnotLazy _ _ _ hoptional rfl rfl
      | _ => cases hp
    rw [legible, hop, hrepeatable, hnot, hp]
    rfl

/-- A repetition that is read again is a repetition. -/
theorem repetitionAgain_eq (region : Region) (op : RepeatOp) (greedy : Bool) (p : Pattern) :
    ∃ op' greedy' sub, repetitionAgain region op greedy p = .repetition region op' greedy' sub := by
  fun_cases repetitionAgain region op greedy p <;> exact ⟨_, _, _, rfl⟩

/-- What is read again stands where the pattern stood. -/
theorem shape_reread (p : Pattern) :
    p.reread.isItem = p.isItem ∧ p.reread.isBranch = p.isBranch ∧
      p.reread.isRepeatable = p.isRepeatable ∧
      ∀ verbose, p.reread.verboseBehind verbose = p.verboseBehind verbose := by
  cases p with
  | repetition region op greedy sub =>
    obtain ⟨op', greedy', sub', h⟩ := repetitionAgain_eq region op greedy sub.reread
    rw [reread, h]
    exact ⟨rfl, rfl, rfl, fun _ => rfl⟩
  | _ => exact ⟨rfl, rfl, rfl, fun _ => rfl⟩

theorem length_allReread (ps : List Pattern) : (allReread ps).length = ps.length := by
  induction ps with
  | nil => rfl
  | cons p ps ih => rw [allReread, List.length_cons, List.length_cons, ih]

theorem verboseBehindAll_allReread (verbose : Bool) (ps : List Pattern) :
    verboseBehindAll verbose (allReread ps) = verboseBehindAll verbose ps := by
  rw [verboseBehindAll, verboseBehindAll]
  induction ps generalizing verbose with
  | nil => rfl
  | cons p ps ih =>
    rw [allReread, List.foldl_cons, List.foldl_cons, p.shape_reread.2.2.2, ih]

/-- Blanks are skipped behind a branch that is read again if they were. -/
theorem verboseBehindAll_reread {p : Pattern} (h : p.isBranch = true) (verbose : Bool) :
    verboseBehindAll verbose p.reread.items = verboseBehindAll verbose p.items := by
  cases p with
  | alternation => cases h
  | concat region items => exact verboseBehindAll_allReread verbose items
  | repetition region op greedy sub =>
    obtain ⟨op', greedy', sub', h⟩ := repetitionAgain_eq region op greedy sub.reread
    rw [reread, h]
    rfl
  | _ => rfl

end Pattern

mutual

/-- **The text is the same.** -/
theorem Pattern.render_reread : (p : Pattern) → p.reread.render = p.render
  | .empty _ => rfl
  | .setFlags _ _ => rfl
  | .literal _ => rfl
  | .dot _ => rfl
  | .assertion _ _ => rfl
  | .property _ _ _ => rfl
  | .short _ _ _ => rfl
  | .bracketed _ _ _ => rfl
  | .repetition region op greedy sub => by
    rw [reread, render_repetitionAgain, sub.render_reread, render]
  | .group _ kind sub => congrArg (kind.render ++ · ++ [')']) sub.render_reread
  | .alternation _ branches => Pattern.renderBranches_allReread branches
  | .concat _ items => Pattern.renderAll_allReread items

theorem Pattern.renderAll_allReread : (ps : List Pattern) →
    Pattern.renderAll (Pattern.allReread ps) = Pattern.renderAll ps
  | [] => rfl
  | p :: ps => by
    rw [Pattern.allReread, Pattern.renderAll, Pattern.renderAll, p.render_reread,
      Pattern.renderAll_allReread]

theorem Pattern.renderBranches_allReread : (ps : List Pattern) →
    Pattern.renderBranches (Pattern.allReread ps) = Pattern.renderBranches ps
  | [] => rfl
  | [p] => p.render_reread
  | p :: q :: ps => by
    have hrest := Pattern.renderBranches_allReread (q :: ps)
    rw [Pattern.allReread] at hrest
    rw [Pattern.allReread, Pattern.allReread, Pattern.renderBranches, p.render_reread, hrest,
      Pattern.renderBranches]

end

mutual

/-- **What is read again is legible** if the classes of the pattern are. -/
theorem Pattern.legible_reread {verbose : Bool} : (p : Pattern) →
    p.wellRead true verbose = true → p.reread.legible verbose = true
  | .empty _, h => h
  | .setFlags _ _, h => h
  | .literal _, h => h
  | .dot _, h => h
  | .assertion _ _, h => h
  | .property _ _ _, h => h
  | .short _ _ _, h => h
  | .bracketed _ _ _, h => h
  | .repetition region op greedy sub, h => by
    rw [wellRead, Bool.and_eq_true, Bool.and_eq_true, Bool.and_eq_true] at h
    obtain ⟨⟨⟨hop, hrepeatable⟩, _⟩, hsub⟩ := h
    exact legible_repetitionAgain region greedy hop
      (sub.shape_reread.2.2.1.trans hrepeatable) (sub.legible_reread hsub)
  | .group _ kind sub, h => by
    rw [wellRead, Bool.and_eq_true] at h
    rw [reread, legible, h.1, sub.legible_reread h.2, Bool.and_self]
  | .alternation _ branches, h => by
    rw [wellRead, Bool.and_eq_true] at h
    rw [reread, legible, length_allReread, h.1, Pattern.legibleBranches_reread branches h.2,
      Bool.and_self]
  | .concat _ items, h => by
    rw [wellRead, Bool.and_eq_true] at h
    rw [reread, legible, length_allReread, h.1, Pattern.legibleItems_reread items h.2,
      Bool.and_self]

theorem Pattern.legibleItems_reread {verbose : Bool} : (ps : List Pattern) →
    Pattern.wellReadItems true verbose ps = true →
      Pattern.legibleItems verbose (Pattern.allReread ps) = true
  | [], _ => rfl
  | p :: ps, h => by
    obtain ⟨hitem, _, _, hbehind⟩ := p.shape_reread
    rw [Pattern.wellReadItems, Bool.and_eq_true, Bool.and_eq_true] at h
    rw [Pattern.allReread, Pattern.legibleItems, hitem, hbehind, h.1.1, p.legible_reread h.1.2,
      Pattern.legibleItems_reread ps h.2]
    rfl

theorem Pattern.legibleBranches_reread {verbose : Bool} : (ps : List Pattern) →
    Pattern.wellReadBranches true verbose ps = true →
      Pattern.legibleBranches verbose (Pattern.allReread ps) = true
  | [], _ => rfl
  | p :: ps, h => by
    obtain ⟨_, hbranch, _, _⟩ := p.shape_reread
    rw [Pattern.wellReadBranches, Bool.and_eq_true, Bool.and_eq_true] at h
    rw [Pattern.allReread, Pattern.legibleBranches, hbranch,
      Pattern.verboseBehindAll_reread h.1.1, h.1.1, p.legible_reread h.1.2,
      Pattern.legibleBranches_reread ps h.2]
    rfl

end

end StatefulLexer.Regex
