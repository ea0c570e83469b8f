/-
Legible classes.

A class is legible if every item is one that is read back where it stands, the head of the
class takes no more than it should, and no class in it can be taken for one with a name. What
the head takes are characters that stand for themselves only because they come first.

Main statements: `ClassRest.from_head`, `ClassSet.render_head`.
-/
import Mathlib.Data.List.TakeWhile
import StatefulLexer.Proofs.Regex.Reading.Class

set_option autoImplicit false

namespace StatefulLexer.Regex

/-! ## Legible classes -/

/-- The set is a hyphen that stands for itself. -/
def ClassSet.isHyphen : ClassSet → Bool
  | .literal l => l.isBare '-'
  | _ => false

/-- The set is a closing bracket that stands for itself. -/
def ClassSet.isBracket : ClassSet → Bool
  | .literal l => l.isBare ']'
  | _ => false

/-- The set is a single item of a class. -/
def ClassSet.isItem : ClassSet → Bool
  | .empty _ => false
  | .union _ _ => false
  | .combine _ _ _ _ => false
  | _ => true

/-- The set stands between operators. -/
def ClassSet.isOperand : ClassSet → Bool
  | .combine _ _ _ _ => false
  | _ => true

/-- Sets with operators between them lean to the left, so a class set is an operand, or a
class set with an operator and an operand behind it. -/
@[elab_as_elim]
theorem ClassSet.chain_induction {motive : ClassSet → Prop}
    (operand : ∀ s : ClassSet, s.isOperand = true → motive s)
    (combine : ∀ (place : Region) (op : ClassOp) (left right : ClassSet), motive left →
      motive (.combine place op left right)) : (s : ClassSet) → motive s
  | .combine place op left right =>
    combine place op left right (chain_induction operand combine left)
  | .empty _ => operand _ rfl
  | .union _ _ => operand _ rfl
  | .literal _ => operand _ rfl
  | .range _ _ _ => operand _ rfl
  | .named _ _ _ => operand _ rfl
  | .property _ _ _ => operand _ rfl
  | .short _ _ _ => operand _ rfl
  | .bracketed _ _ _ => operand _ rfl

/-- The items that a class begins with, up to an operator. -/
def ClassSet.firstItems : ClassSet → List ClassSet
  | .combine _ _ left _ => left.firstItems
  | .empty _ => []
  | .union _ sets => sets
  | s => [s]

/-- The number of items that belong to the head of a class: a closing bracket, or all
hyphens. -/
def headCount (items : List ClassSet) : Nat :=
  if items.head?.any ClassSet.isBracket then 1 else (items.takeWhile ClassSet.isHyphen).length

/-- The text of a class set behind the items that belong to the head. -/
def ClassSet.renderFrom (heads : Nat) : ClassSet → List Char
  | .combine _ op left right => left.renderFrom heads ++ (op.render.toList ++ right.render)
  | s => ClassSet.renderAll (s.firstItems.drop heads)

/-- The head of a class ends where the items begin that do not belong to it. -/
def ClassSet.endsHead (negated : Bool) (set : ClassSet) : Bool :=
  let behind := set.renderFrom (headCount set.firstItems) ++ [']']
  (negated || (set.render ++ [']']).head? != some '^') &&
    (set.firstItems.head?.any ClassSet.isBracket || behind.head? != some '-') &&
    (headCount set.firstItems != 0 || behind.head? != some ']')

mutual

/-- **A class set that is read back** in front of `rest`. The first items may belong to the
head of the class, which takes them as they are. -/
def ClassSet.legible (verbose : Bool) (heads : Nat) : ClassSet → List Char → Bool
  | .empty _, _ => true
  | .literal l, rest =>
    decide (0 < heads) || (l.readable verbose && !l.isBare '[' && !l.isBare ']' &&
      !beginsWithOp (l.render ++ rest) && !beginsRange rest)
  | .range _ first last, _ =>
    first.readable verbose && last.readable verbose && !first.isBare '[' && !first.isBare ']' &&
      !first.isBare '-' && !last.isBare ']' && !last.isBare '-' && decide (first.char ≤ last.char)
  | .named _ _ _, _ => true
  | .property _ _ query, rest => query.legible verbose && !beginsRange rest
  | .short _ _ _, rest => !beginsRange rest
  | .bracketed _ negated set, _ =>
    set.endsHead negated && !beginsNamed (inBrackets negated set.render) &&
      set.legible verbose (headCount set.firstItems) [']']
  | .union _ sets, rest => decide (2 ≤ sets.length) && ClassSet.legibleItems verbose heads sets rest
  | .combine _ op left right, rest =>
    left.legible verbose heads (op.render.toList ++ (right.render ++ rest)) && right.isOperand &&
      right.legible verbose 0 rest

/-- Items that are read back, one behind the other. -/
def ClassSet.legibleItems (verbose : Bool) (heads : Nat) : List ClassSet → List Char → Bool
  | [], _ => true
  | s :: sets, rest =>
    s.isItem && s.legible verbose heads (ClassSet.renderAll sets ++ rest) &&
      ClassSet.legibleItems verbose (heads - 1) sets rest

end

/-- What follows an item: it goes up to the end of the class, and nothing is skipped in front
of it, or behind a hyphen it begins with. -/
structure ClassRest (verbose : Bool) (rest : List Char) : Prop where
  closes : rest.getLast? = some ']'
  visible : Visible verbose rest
  hyphen : ∀ tail, rest = '-' :: tail → Visible verbose tail

namespace ClassRest

variable {verbose : Bool} {rest : List Char}

theorem bracket (verbose : Bool) : ClassRest verbose [']'] where
  closes := rfl
  visible := visible_cons.2 (isSkipped_of_seen (by decide) (by decide))
  hyphen := nofun

theorem ne_nil (h : ClassRest verbose rest) : rest ≠ [] := by
  rintro rfl
  cases h.closes

/-- There is more behind a hyphen. -/
theorem exists_of_hyphen {tail : List Char} (h : ClassRest verbose ('-' :: tail)) :
    ∃ c tail', tail = c :: tail' := by
  cases tail with
  | nil => cases h.closes
  | cons c tail => exact ⟨c, tail, rfl⟩

theorem visible_append (h : ClassRest verbose rest) (more : List Char) :
    Visible verbose (rest ++ more) := by
  obtain ⟨c, tail, rfl⟩ := List.exists_cons_of_ne_nil h.ne_nil
  exact h.visible

theorem hyphen_append (h : ClassRest verbose rest) (more : List Char) (c : Char)
    (tail : List Char) (heq : rest ++ more = c :: tail) (hc : c = '-') : Visible verbose tail := by
  obtain ⟨d, tail', rfl⟩ := List.exists_cons_of_ne_nil h.ne_nil
  obtain ⟨rfl, rfl⟩ := List.cons.inj heq
  subst hc
  obtain ⟨e, tail'', rfl⟩ := h.exists_of_hyphen
  exact visible_cons.2 (visible_cons.1 (h.hyphen _ rfl))

/-- What lies behind the class does not matter for a range. -/
theorem beginsRange_append (h : ClassRest verbose rest) (more : List Char) :
    beginsRange (rest ++ more) = beginsRange rest := by
  obtain ⟨c, tail, rfl⟩ := List.exists_cons_of_ne_nil h.ne_nil
  by_cases hc : c = '-'
  · subst hc
    obtain ⟨d, tail', rfl⟩ := h.exists_of_hyphen
    rfl
  · unfold beginsRange
    split
    · rename_i heq
      exact absurd (List.cons.inj heq).1 hc
    · split
      · rename_i heq
        exact absurd (List.cons.inj heq).1 hc
      · rfl

/-- Nor for an operator. -/
theorem beginsWithOp_append (h : ClassRest verbose rest) {text : List Char} (htext : text ≠ [])
    (more : List Char) : beginsWithOp (text ++ (rest ++ more)) = beginsWithOp (text ++ rest) := by
  obtain ⟨c, tail, rfl⟩ := List.exists_cons_of_ne_nil h.ne_nil
  obtain ⟨d, text', rfl⟩ := List.exists_cons_of_ne_nil htext
  cases text' <;> rfl

end ClassRest

/-! ## Items in their place -/

theorem Literal.render_ne_nil (l : Literal) : l.render ≠ [] := by
  obtain ⟨place, c, spelling⟩ := l
  cases spelling <;> exact List.cons_ne_nil _ _

/-- An item has a text. -/
theorem ClassSet.render_ne_nil {s : ClassSet} (hitem : s.isItem = true) : s.render ≠ [] := by
  cases s with
  | empty place => cases hitem
  | union place sets => cases hitem
  | combine place op left right => cases hitem
  | literal l => exact l.render_ne_nil
  | range place first last => exact List.append_ne_nil_of_left_ne_nil first.render_ne_nil _
  | named place negated kind => rw [render, NamedClass.render_eq]; exact List.cons_ne_nil _ _
  | property place negated query => cases query <;> exact List.cons_ne_nil _ _
  | short place negated kind => exact List.cons_ne_nil _ _
  | bracketed place negated set => exact List.cons_ne_nil _ _

/-- The parts of a literal that is legible as an item. -/
theorem legible_literal {verbose : Bool} {l : Literal} {rest : List Char}
    (h : (ClassSet.literal l).legible verbose 0 rest = true) :
    l.readable verbose = true ∧ l.isBare '[' = false ∧ l.isBare ']' = false ∧
      beginsWithOp (l.render ++ rest) = false ∧ beginsRange rest = false := by
  simpa only [ClassSet.legible, Nat.lt_irrefl, decide_false, Bool.false_or, Bool.and_eq_true,
    Bool.not_eq_true', and_assoc] using h

/-- The parts of a range that is legible. -/
theorem legible_range {verbose : Bool} {place : Region} {first last : Literal} {rest : List Char}
    (h : (ClassSet.range place first last).legible verbose 0 rest = true) :
    first.readable verbose = true ∧ last.readable verbose = true ∧ first.isBare '[' = false ∧
      first.isBare ']' = false ∧ first.isBare '-' = false ∧ last.isBare ']' = false ∧
        last.isBare '-' = false ∧ first.char ≤ last.char := by
  simpa only [ClassSet.legible, Bool.and_eq_true, Bool.not_eq_true', decide_eq_true_eq,
    and_assoc] using h

/-- A readable literal begins with a backslash, or is bare. -/
theorem Literal.render_cases {verbose : Bool} {l : Literal} (h : l.readable verbose = true) :
    (∃ c tail, l.render = '\\' :: c :: tail) ∨ l.render = [l.char] ∧ ∀ c, l.isBare c = (l.char == c) := by
  refine (Literal.readable_cases h).imp (fun hl => ?_) fun ⟨htext, hplain, _, _⟩ => ⟨htext, ?_⟩
  · have hatom : (Atom.literal l).escapes verbose = true := hl
    exact (Atom.literal l).render_of_escapes hatom
  · intro c
    rw [isBare, hplain, beq_self_eq_true, Bool.true_and]

/-- Nothing is skipped in front of an item, or behind a hyphen it begins with. -/
theorem ClassRest.item {verbose : Bool} {s : ClassSet} {rest : List Char} (hitem : s.isItem = true)
    (hs : s.legible verbose 0 rest = true) (h : ClassRest verbose rest) :
    ClassRest verbose (s.render ++ rest) := by
  have hcloses : (s.render ++ rest).getLast? = some ']' := by
    rw [List.getLast?_append, h.closes]
    rfl
  -- Only a literal begins with a hyphen.
  have seen {text : List Char} {c : Char} (htext : s.render ++ rest = c :: text)
      (hc : (0x21 ≤ c.toNat ∧ c.toNat ≤ 0x7E) ∧ c ≠ '#' ∧ c ≠ '-') :
      ClassRest verbose (s.render ++ rest) := by
    refine ⟨hcloses, ?_, fun tail htail => ?_⟩
    · rw [htext]
      exact visible_cons.2 (isSkipped_of_seen hc.1 hc.2.1)
    · rw [htext] at htail
      exact absurd (List.cons.inj htail).1 hc.2.2
  cases s with
  | empty place => cases hitem
  | union place sets => cases hitem
  | combine place op left right => cases hitem
  | literal l =>
    obtain ⟨hread, _⟩ := legible_literal hs
    rcases Literal.render_cases hread with ⟨c, tail, htext⟩ | ⟨htext, _⟩
    · have hrender : (ClassSet.literal l).render = '\\' :: c :: tail := htext
      exact seen (by rw [hrender]; rfl) (by decide)
    · have hrender : (ClassSet.literal l).render = [l.char] := htext
      refine ⟨hcloses, (Atom.literal l).visible_of_readable hread rest, fun tail htail => ?_⟩
      rw [hrender] at htail
      rw [← (List.cons.inj htail).2]
      exact h.visible
  | range place first last =>
    obtain ⟨hread, _, _, _, hhyphen, _⟩ := legible_range hs
    rcases Literal.render_cases hread with ⟨c, tail, htext⟩ | ⟨htext, hbare⟩
    · have hrender : (ClassSet.range place first last).render
          = '\\' :: c :: (tail ++ '-' :: last.render) := by rw [ClassSet.render, htext]; rfl
      exact seen (by rw [hrender]; rfl) (by decide)
    · have hrender : (ClassSet.range place first last).render
          = first.char :: '-' :: last.render := by rw [ClassSet.render, htext]; rfl
      refine ⟨hcloses, ?_, fun tail htail => ?_⟩
      · rw [hrender]
        have hvisible := (Atom.literal first).visible_of_readable hread ('-' :: last.render)
        have hatom : (Atom.literal first).render = [first.char] := htext
        rw [hatom] at hvisible
        exact visible_cons.2 (visible_cons.1 hvisible)
      · rw [hrender] at htail
        rw [hbare, beq_eq_false_iff_ne] at hhyphen
        exact absurd (List.cons.inj htail).1 hhyphen
  | named place negated kind =>
    exact seen (by rw [ClassSet.render, NamedClass.render_eq]; rfl) (by decide)
  | property place negated query =>
    cases query with
    | letter c => exact seen (by rw [ClassSet.render, PropertyQuery.render]; rfl) (by decide)
    | named name => exact seen (by rw [ClassSet.render, PropertyQuery.render]; rfl) (by decide)
    | valued sign property value =>
      exact seen (by rw [ClassSet.render, PropertyQuery.render]; rfl) (by decide)
  | short place negated kind =>
    cases kind <;> exact seen (by rw [ClassSet.render]; rfl) (by decide)
  | bracketed place negated set => exact seen (by rw [ClassSet.render, inBrackets]; rfl) (by decide)

/-- Nor is it in front of several items. -/
theorem ClassRest.items {verbose : Bool} {sets : List ClassSet} {rest : List Char}
    (hs : ClassSet.legibleItems verbose 0 sets rest = true) (h : ClassRest verbose rest) :
    ClassRest verbose (ClassSet.renderAll sets ++ rest) := by
  induction sets with
  | nil => exact h
  | cons s sets ih =>
    rw [ClassSet.legibleItems, Bool.and_eq_true, Bool.and_eq_true] at hs
    rw [ClassSet.renderAll, List.append_assoc]
    exact .item hs.1.1 hs.1.2 (ih hs.2)

/-- Nor in front of an operator. -/
theorem ClassRest.op {verbose : Bool} (op : ClassOp) {rest : List Char} (h : ClassRest verbose rest) :
    ClassRest verbose (op.render.toList ++ rest) := by
  have hcloses : (op.render.toList ++ rest).getLast? = some ']' := by
    rw [List.getLast?_append, h.closes]
    rfl
  have seen (c : Char) (hc : (0x21 ≤ c.toNat ∧ c.toNat ≤ 0x7E) ∧ c ≠ '#')
      (htext : op.render.toList = [c, c]) : ClassRest verbose (op.render.toList ++ rest) := by
    refine ⟨hcloses, ?_, fun tail htail => ?_⟩
    · rw [htext]
      exact visible_cons.2 (isSkipped_of_seen hc.1 hc.2)
    · rw [htext] at htail
      rw [← (List.cons.inj htail).2]
      exact visible_cons.2 (isSkipped_of_seen hc.1 hc.2)
  cases op with
  | inter => exact seen '&' (by decide) rfl
  | diff => exact seen '-' (by decide) rfl
  | symmDiff => exact seen '~' (by decide) rfl

/-- Items that do not belong to the head are legible by themselves. -/
theorem legibleItems_drop {verbose : Bool} {heads : Nat} {sets : List ClassSet} {rest : List Char}
    (h : ClassSet.legibleItems verbose heads sets rest = true) :
    ClassSet.legibleItems verbose 0 (sets.drop heads) rest = true := by
  induction sets generalizing heads with
  | nil => rw [List.drop_nil]; rfl
  | cons s sets ih =>
    cases heads with
    | zero => exact h
    | succ heads =>
      rw [ClassSet.legibleItems, Bool.and_eq_true] at h
      exact ih h.2

/-- So are those of an operand. -/
theorem legibleItems_of_operand {verbose : Bool} {heads : Nat} {s : ClassSet} {rest : List Char}
    (hs : s.isOperand = true) (h : s.legible verbose heads rest = true) :
    ClassSet.legibleItems verbose 0 (s.firstItems.drop heads) rest = true := by
  have single (hitem : s.isItem = true) (hfirst : s.firstItems = [s]) :
      ClassSet.legibleItems verbose 0 (s.firstItems.drop heads) rest = true := by
    rw [hfirst]
    cases heads with
    | succ heads => rw [List.drop_succ_cons, List.drop_nil]; rfl
    | zero =>
      rw [List.drop_zero, ClassSet.legibleItems, ClassSet.renderAll, List.nil_append, hitem, h]
      rfl
  cases s with
  | empty place =>
    rw [ClassSet.firstItems, List.drop_nil]
    rfl
  | union place sets =>
    rw [ClassSet.legible, Bool.and_eq_true] at h
    exact legibleItems_drop h.2
  | combine place op left right => cases hs
  | literal l => exact single rfl rfl
  | range place first last => exact single rfl rfl
  | named place negated kind => exact single rfl rfl
  | property place negated query => exact single rfl rfl
  | short place negated kind => exact single rfl rfl
  | bracketed place negated set => exact single rfl rfl

/-- The text of an operand is that of its items. -/
theorem render_operand {s : ClassSet} (hs : s.isOperand = true) :
    s.render = ClassSet.renderAll s.firstItems := by
  cases s with
  | combine place op left right => cases hs
  | empty place => rfl
  | union place sets => rfl
  | literal l => exact (List.append_nil _).symm
  | range place first last => exact (List.append_nil _).symm
  | named place negated kind => exact (List.append_nil _).symm
  | property place negated query => exact (List.append_nil _).symm
  | short place negated kind => exact (List.append_nil _).symm
  | bracketed place negated set => exact (List.append_nil _).symm

theorem renderAll_append (as bs : List ClassSet) :
    ClassSet.renderAll (as ++ bs) = ClassSet.renderAll as ++ ClassSet.renderAll bs := by
  induction as with
  | nil => rfl
  | cons s as ih => rw [List.cons_append, ClassSet.renderAll, ih, ClassSet.renderAll, List.append_assoc]

/-- The text of an operand behind the items of the head. -/
theorem renderFrom_operand {s : ClassSet} (hs : s.isOperand = true) (heads : Nat) :
    s.renderFrom heads = ClassSet.renderAll (s.firstItems.drop heads) := by
  cases s with
  | combine place op left right => cases hs
  | _ => rfl

/-- The text of a class set is that of the items of the head, and what is behind them. -/
theorem ClassSet.render_head (heads : Nat) (s : ClassSet) :
    s.render = ClassSet.renderAll (s.firstItems.take heads) ++ s.renderFrom heads := by
  induction s using ClassSet.chain_induction with
  | operand s hs =>
    rw [render_operand hs, renderFrom_operand hs, ← renderAll_append, List.take_append_drop]
  | combine place op left right ih =>
    rw [render, renderFrom, firstItems, ih, List.append_assoc, List.append_assoc]

/-- Nothing is skipped in front of what the head of a class leaves. -/
theorem ClassRest.from_head {verbose : Bool} {heads : Nat} {s : ClassSet} {rest : List Char}
    (hs : s.legible verbose heads rest = true) (h : ClassRest verbose rest) :
    ClassRest verbose (s.renderFrom heads ++ rest) := by
  induction s using ClassSet.chain_induction generalizing rest with
  | operand s hoperand =>
    rw [renderFrom_operand hoperand]
    exact .items (legibleItems_of_operand hoperand hs) h
  | combine place op left right ih =>
    rw [ClassSet.legible, Bool.and_eq_true, Bool.and_eq_true] at hs
    obtain ⟨⟨hleft, hoperand⟩, hright⟩ := hs
    have hbehind : ClassRest verbose (right.render ++ rest) := by
      rw [render_operand hoperand]
      exact .items (legibleItems_of_operand hoperand hright) h
    rw [ClassSet.renderFrom, List.append_assoc, List.append_assoc]
    exact ih hleft (.op op hbehind)

end StatefulLexer.Regex
