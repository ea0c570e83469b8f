/-
What a pattern opens.

The names, the numbers and the flags of a pattern are all told by what it opens, from left to
right: its groups, and its changes of flags. A pattern whose groups are numbered in the order
in which they are opened is itself when it is numbered again.

Main statements: `Pattern.names_eq_opened`, `Pattern.unplaced_eq_numbered`.
-/
import StatefulLexer.Proofs.Regex.Reading.Body

set_option autoImplicit false

namespace StatefulLexer.Regex

/-! ## Openings -/

/-- The numbers of the groups of a kind: there is one if it captures. -/
def GroupKind.indices : GroupKind → List Nat
  | .capture index => [index]
  | .named index _ _ => [index]
  | .flags _ => []

theorem GroupKind.length_indices (kind : GroupKind) : kind.indices.length = kind.count := by
  cases kind <;> rfl

mutual

/-- **What a pattern opens,** from left to right: its groups, and its changes of flags. -/
def Pattern.opened : Pattern → List GroupKind
  | .setFlags _ flags => [.flags flags]
  | .repetition _ _ _ sub => sub.opened
  | .group _ kind sub => kind :: sub.opened
  | .alternation _ branches => Pattern.allOpened branches
  | .concat _ items => Pattern.allOpened items
  | _ => []

/-- What patterns open that follow each other. -/
def Pattern.allOpened : List Pattern → List GroupKind
  | [] => []
  | p :: patterns => p.opened ++ Pattern.allOpened patterns

end

namespace Pattern

theorem allOpened_append (as bs : List Pattern) :
    allOpened (as ++ bs) = allOpened as ++ allOpened bs := by
  induction as with
  | nil => rfl
  | cons p as ih => rw [List.cons_append, allOpened, allOpened, ih, List.append_assoc]

theorem opened_concatOf (region : Region) (items : List Pattern) :
    (concatOf region items).opened = allOpened items := by
  unfold concatOf
  split
  · rfl
  · exact (List.append_nil _).symm
  · rw [opened]

theorem opened_bodyOf (region : Region) (branches : List Pattern) :
    (bodyOf region branches).opened = allOpened branches := by
  unfold bodyOf
  split
  · exact (List.append_nil _).symm
  · rw [opened]

/-- The numbers of the groups of a pattern, in the order in which they are opened. -/
def numbers (p : Pattern) : List Nat := p.opened.flatMap GroupKind.indices

/-- The numbers of the groups of several patterns. -/
def allNumbers (ps : List Pattern) : List Nat := (allOpened ps).flatMap GroupKind.indices

theorem allNumbers_cons (p : Pattern) (ps : List Pattern) :
    allNumbers (p :: ps) = p.numbers ++ allNumbers ps := List.flatMap_append

end Pattern

mutual

/-- The names of a pattern are those of what it opens. -/
theorem Pattern.names_eq_opened : (p : Pattern) → p.names = p.opened.flatMap GroupKind.names
  | .empty _ => rfl
  | .setFlags _ _ => rfl
  | .literal _ => rfl
  | .dot _ => rfl
  | .assertion _ _ => rfl
  | .property _ _ _ => rfl
  | .short _ _ _ => rfl
  | .bracketed _ _ _ => rfl
  | .repetition _ _ _ sub => sub.names_eq_opened
  | .group _ kind sub => by
    rw [names, opened, List.flatMap_cons, sub.names_eq_opened]
  | .alternation _ branches => Pattern.allNames_eq_opened branches
  | .concat _ items => Pattern.allNames_eq_opened items

theorem Pattern.allNames_eq_opened : (ps : List Pattern) →
    Pattern.allNames ps = (Pattern.allOpened ps).flatMap GroupKind.names
  | [] => rfl
  | p :: ps => by
    rw [Pattern.allNames, Pattern.allOpened, List.flatMap_append, p.names_eq_opened,
      Pattern.allNames_eq_opened]

end

mutual

/-- There is a number for each capture group. -/
theorem Pattern.length_numbers : (p : Pattern) → p.numbers.length = p.groupCount
  | .empty _ => rfl
  | .setFlags _ _ => rfl
  | .literal _ => rfl
  | .dot _ => rfl
  | .assertion _ _ => rfl
  | .property _ _ _ => rfl
  | .short _ _ _ => rfl
  | .bracketed _ _ _ => rfl
  | .repetition _ _ _ sub => sub.length_numbers
  | .group _ kind sub => by
    have hsub := sub.length_numbers
    rw [numbers] at hsub
    rw [numbers, opened, List.flatMap_cons, List.length_append, hsub, kind.length_indices, groupCount]
  | .alternation _ branches => Pattern.length_allNumbers branches
  | .concat _ items => Pattern.length_allNumbers items

theorem Pattern.length_allNumbers : (ps : List Pattern) →
    (Pattern.allNumbers ps).length = Pattern.totalGroups ps
  | [] => rfl
  | p :: ps => by
    rw [Pattern.allNumbers_cons, List.length_append, p.length_numbers, Pattern.length_allNumbers,
      Pattern.totalGroups]

end

/-! ## Numbers in order -/

/-- The numbers are those behind `n`, in order. -/
def InOrder (n : Nat) (numbers : List Nat) : Prop := numbers = List.range' (n + 1) numbers.length

/-- **Numbers in order** are so in front and further on. -/
theorem inOrder_append {n : Nat} {as bs : List Nat} :
    InOrder n (as ++ bs) ↔ InOrder n as ∧ InOrder (n + as.length) bs := by
  unfold InOrder
  rw [List.length_append, ← List.range'_append_1]
  constructor
  · intro h
    obtain ⟨ha, hb⟩ := List.append_inj h (by rw [List.length_range'])
    refine ⟨ha, hb.trans (congrArg (List.range' · _) (by omega))⟩
  · rintro ⟨ha, hb⟩
    rw [← ha]
    exact congrArg (as ++ ·) (hb.trans (congrArg (List.range' · _) (by omega)))

theorem GroupKind.numbered_of_inOrder {n : Nat} {kind : GroupKind} (h : InOrder n kind.indices) :
    kind.numbered n = kind := by
  cases kind with
  | capture index => rw [numbered, ← List.head_eq_of_cons_eq h]
  | named index letterP name => rw [numbered, ← List.head_eq_of_cons_eq h]
  | flags l => rfl

mutual

/-- **A pattern whose groups are numbered in order** is what it is when it is numbered again. -/
theorem Pattern.unplaced_eq_numbered (n : Nat) : (p : Pattern) → InOrder n p.numbers →
    p.unplaced = p.numbered n
  | .empty _, _ => rfl
  | .setFlags _ _, _ => rfl
  | .literal _, _ => rfl
  | .dot _, _ => rfl
  | .assertion _ _, _ => rfl
  | .property _ _ _, _ => rfl
  | .short _ _ _, _ => rfl
  | .bracketed _ _ _, _ => rfl
  | .repetition _ op greedy sub, h => by
    rw [unplaced, numbered, sub.unplaced_eq_numbered n h]
  | .group _ kind sub, h => by
    rw [numbers, opened, List.flatMap_cons, inOrder_append, kind.length_indices] at h
    rw [unplaced, numbered, GroupKind.numbered_of_inOrder h.1, sub.unplaced_eq_numbered _ h.2]
  | .alternation _ branches, h => by
    rw [unplaced, numbered, Pattern.allUnplaced_eq_allNumbered n branches h]
  | .concat _ items, h => by
    rw [unplaced, numbered, Pattern.allUnplaced_eq_allNumbered n items h]

theorem Pattern.allUnplaced_eq_allNumbered (n : Nat) : (ps : List Pattern) →
    InOrder n (Pattern.allNumbers ps) → Pattern.allUnplaced ps = Pattern.allNumbered n ps
  | [], _ => rfl
  | p :: ps, h => by
    rw [Pattern.allNumbers_cons, inOrder_append, p.length_numbers] at h
    rw [Pattern.allUnplaced, Pattern.allNumbered, p.unplaced_eq_numbered n h.1,
      Pattern.allUnplaced_eq_allNumbered _ ps h.2]

end

end StatefulLexer.Regex
