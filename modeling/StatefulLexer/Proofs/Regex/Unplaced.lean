/-
Trees without places.

A tree that was read notes down where everything stood, and numbers the capture groups from
the start of the text. Neither is part of what was written: a pattern that stands behind
others is read with other places and other numbers. Trees are compared here without the
places, and with their groups numbered from a given one on.

Main statements: `Pattern.meaning_unplaced`, `Pattern.tooDeep?_eq_none_iff`.
-/
import StatefulLexer.Proofs.Except
import StatefulLexer.Regex.Meaning

set_option autoImplicit false

namespace StatefulLexer.Regex

/-! ## Without places -/

/-- A stretch for what has no place. -/
def Region.nowhere : Region := .point {}

/-- The literal without its place. -/
def Literal.unplaced (l : Literal) : Literal := { l with region := .nowhere }

mutual

/-- **A class set without its places.** -/
def ClassSet.unplaced : ClassSet → ClassSet
  | .empty _ => .empty .nowhere
  | .literal l => .literal l.unplaced
  | .range _ first last => .range .nowhere first.unplaced last.unplaced
  | .named _ negated kind => .named .nowhere negated kind
  | .property _ negated query => .property .nowhere negated query
  | .short _ negated kind => .short .nowhere negated kind
  | .bracketed _ negated set => .bracketed .nowhere negated set.unplaced
  | .union _ sets => .union .nowhere (ClassSet.allUnplaced sets)
  | .combine _ op left right => .combine .nowhere op left.unplaced right.unplaced

/-- Class sets without their places. -/
def ClassSet.allUnplaced : List ClassSet → List ClassSet
  | [] => []
  | s :: sets => s.unplaced :: ClassSet.allUnplaced sets

end

mutual

/-- **A pattern without its places.** -/
def Pattern.unplaced : Pattern → Pattern
  | .empty _ => .empty .nowhere
  | .setFlags _ flags => .setFlags .nowhere flags
  | .literal l => .literal l.unplaced
  | .dot _ => .dot .nowhere
  | .assertion _ kind => .assertion .nowhere kind
  | .property _ negated query => .property .nowhere negated query
  | .short _ negated kind => .short .nowhere negated kind
  | .bracketed _ negated set => .bracketed .nowhere negated set.unplaced
  | .repetition _ op greedy sub => .repetition .nowhere op greedy sub.unplaced
  | .group _ kind sub => .group .nowhere kind sub.unplaced
  | .alternation _ branches => .alternation .nowhere (Pattern.allUnplaced branches)
  | .concat _ items => .concat .nowhere (Pattern.allUnplaced items)

/-- Patterns without their places. -/
def Pattern.allUnplaced : List Pattern → List Pattern
  | [] => []
  | p :: patterns => p.unplaced :: Pattern.allUnplaced patterns

end

theorem ClassSet.allUnplaced_eq_map (sets : List ClassSet) :
    ClassSet.allUnplaced sets = sets.map ClassSet.unplaced := by
  induction sets with
  | nil => rfl
  | cons s sets ih => rw [ClassSet.allUnplaced, ih, List.map_cons]

theorem Pattern.allUnplaced_eq_map (patterns : List Pattern) :
    Pattern.allUnplaced patterns = patterns.map Pattern.unplaced := by
  induction patterns with
  | nil => rfl
  | cons p patterns ih => rw [Pattern.allUnplaced, ih, List.map_cons]

/-! ## Numbers -/

/-- The number of groups that a group of the kind captures. -/
def GroupKind.count : GroupKind → Nat
  | .flags _ => 0
  | _ => 1

/-- The kind of a group that is opened when `n` groups have been. -/
def GroupKind.numbered (n : Nat) : GroupKind → GroupKind
  | .capture _ => .capture (n + 1)
  | .named _ letterP name => .named (n + 1) letterP name
  | .flags l => .flags l

mutual

/-- The number of capture groups of a pattern. -/
def Pattern.groupCount : Pattern → Nat
  | .repetition _ _ _ sub => sub.groupCount
  | .group _ kind sub => kind.count + sub.groupCount
  | .alternation _ branches => Pattern.totalGroups branches
  | .concat _ items => Pattern.totalGroups items
  | _ => 0

/-- The number of capture groups of several patterns. -/
def Pattern.totalGroups : List Pattern → Nat
  | [] => 0
  | p :: patterns => p.groupCount + Pattern.totalGroups patterns

end

mutual

/-- **A pattern without its places, its groups numbered** as they are where `n` groups stand
before it. -/
def Pattern.numbered (n : Nat) : Pattern → Pattern
  | .repetition _ op greedy sub => .repetition .nowhere op greedy (sub.numbered n)
  | .group _ kind sub => .group .nowhere (kind.numbered n) (sub.numbered (n + kind.count))
  | .alternation _ branches => .alternation .nowhere (Pattern.allNumbered n branches)
  | .concat _ items => .concat .nowhere (Pattern.allNumbered n items)
  | p => p.unplaced

/-- Patterns that follow each other, numbered. -/
def Pattern.allNumbered (n : Nat) : List Pattern → List Pattern
  | [] => []
  | p :: patterns => p.numbered n :: Pattern.allNumbered (n + p.groupCount) patterns

end

mutual

theorem Pattern.groupCount_unplaced : (p : Pattern) → p.unplaced.groupCount = p.groupCount
  | .empty _ => rfl
  | .setFlags _ _ => rfl
  | .literal _ => rfl
  | .dot _ => rfl
  | .assertion _ _ => rfl
  | .property _ _ _ => rfl
  | .short _ _ _ => rfl
  | .bracketed _ _ _ => rfl
  | .repetition _ _ _ sub => sub.groupCount_unplaced
  | .group _ kind sub => congrArg (kind.count + ·) sub.groupCount_unplaced
  | .alternation _ branches => Pattern.totalGroups_unplaced branches
  | .concat _ items => Pattern.totalGroups_unplaced items

theorem Pattern.totalGroups_unplaced : (patterns : List Pattern) →
    Pattern.totalGroups (Pattern.allUnplaced patterns) = Pattern.totalGroups patterns
  | [] => rfl
  | p :: patterns => by
    rw [Pattern.allUnplaced, Pattern.totalGroups, Pattern.totalGroups, p.groupCount_unplaced,
      Pattern.totalGroups_unplaced]

end

theorem GroupKind.count_numbered (n : Nat) (kind : GroupKind) :
    (kind.numbered n).count = kind.count := by
  cases kind <;> rfl

mutual

theorem Pattern.groupCount_numbered (n : Nat) : (p : Pattern) →
    (p.numbered n).groupCount = p.groupCount
  | .empty _ => rfl
  | .setFlags _ _ => rfl
  | .literal _ => rfl
  | .dot _ => rfl
  | .assertion _ _ => rfl
  | .property _ _ _ => rfl
  | .short _ _ _ => rfl
  | .bracketed _ _ _ => rfl
  | .repetition _ _ _ sub => sub.groupCount_numbered n
  | .group _ kind sub => by
    rw [numbered, groupCount, groupCount, kind.count_numbered, sub.groupCount_numbered]
  | .alternation _ branches => Pattern.totalGroups_numbered n branches
  | .concat _ items => Pattern.totalGroups_numbered n items

theorem Pattern.totalGroups_numbered (n : Nat) : (patterns : List Pattern) →
    Pattern.totalGroups (Pattern.allNumbered n patterns) = Pattern.totalGroups patterns
  | [] => rfl
  | p :: patterns => by
    rw [Pattern.allNumbered, Pattern.totalGroups, Pattern.totalGroups, p.groupCount_numbered,
      Pattern.totalGroups_numbered]

end

theorem Pattern.totalGroups_append (as bs : List Pattern) :
    Pattern.totalGroups (as ++ bs) = Pattern.totalGroups as + Pattern.totalGroups bs := by
  induction as with
  | nil => rw [List.nil_append, Pattern.totalGroups, Nat.zero_add]
  | cons p as ih => rw [List.cons_append, Pattern.totalGroups, Pattern.totalGroups, ih, Nat.add_assoc]

theorem Pattern.allNumbered_append (n : Nat) (as bs : List Pattern) :
    Pattern.allNumbered n (as ++ bs)
      = Pattern.allNumbered n as ++ Pattern.allNumbered (n + Pattern.totalGroups as) bs := by
  induction as generalizing n with
  | nil => rfl
  | cons p as ih =>
    rw [List.cons_append, Pattern.allNumbered, ih, Pattern.allNumbered, Pattern.totalGroups,
      List.cons_append, Nat.add_assoc]

/-! ## Names -/

/-- The name of a group, if it has one. -/
def GroupKind.names : GroupKind → List (List Char)
  | .named _ _ name => [name]
  | _ => []

mutual

/-- The names of the groups of a pattern, in the order in which they are opened. -/
def Pattern.names : Pattern → List (List Char)
  | .repetition _ _ _ sub => sub.names
  | .group _ kind sub => kind.names ++ sub.names
  | .alternation _ branches => Pattern.allNames branches
  | .concat _ items => Pattern.allNames items
  | _ => []

/-- The names of the groups of several patterns. -/
def Pattern.allNames : List Pattern → List (List Char)
  | [] => []
  | p :: patterns => p.names ++ Pattern.allNames patterns

end

/-! ## Meanings -/

/-- Of a computation in two steps, the result is known from the results of the steps. -/
theorem toOption_bind {ε α β : Type} (x : Except ε α) (g : α → Except ε β) :
    (x >>= g).toOption = x.toOption.bind fun a => (g a).toOption := by
  cases x <;> rfl

theorem Literal.inClass_unplaced (f : Flags) (l : Literal) :
    (l.unplaced.inClass f).toOption = (l.inClass f).toOption := by
  have hbyte : l.unplaced.isBareByte f = l.isBareByte f := rfl
  rw [inClass, inClass, hbyte]
  split
  · rfl
  · split
    · rename_i h
      have h : (!f.unicode && decide (0x7F < l.char.toNat)) = true := h
      rw [if_pos h]
      rfl
    · rename_i h
      have h : ¬(!f.unicode && decide (0x7F < l.char.toNat)) = true := h
      rw [if_neg h]
      rfl

theorem Literal.meaning_unplaced (f : Flags) (l : Literal) :
    (l.unplaced.meaning f).toOption = (l.meaning f).toOption := by
  have hbyte : l.unplaced.isBareByte f = l.isBareByte f := rfl
  rw [meaning, meaning, hbyte]
  split
  · rfl
  · have hchar : l.unplaced.char = l.char := rfl
    rw [hchar]

theorem Flags.negate_unplaced (f : Flags) (region region' : Region) (negated : Bool) (s : CharSet) :
    (f.negate region negated s).toOption = (f.negate region' negated s).toOption := by
  rw [negate, negate]
  split
  · split <;> rfl
  · rfl

theorem propertySet_unplaced (f : Flags) (region region' : Region) (negated : Bool)
    (q : PropertyQuery) :
    (propertySet f region negated q).toOption = (propertySet f region' negated q).toOption := by
  rw [propertySet, propertySet]
  split
  · rfl
  · split
    · rfl
    · rfl
    · exact f.negate_unplaced region region' _ _

theorem dotMeaning_unplaced (f : Flags) (region region' : Region) :
    (dotMeaning f region).toOption = (dotMeaning f region').toOption := by
  rw [dotMeaning, dotMeaning]
  split <;> rfl

mutual

/-- **The characters of a class set do not depend on places,** nor does it whether there
are any. -/
theorem ClassSet.meaning_unplaced (f : Flags) : (s : ClassSet) →
    (s.unplaced.meaning f).toOption = (s.meaning f).toOption
  | .empty _ => rfl
  | .literal l => by
    rw [unplaced, meaning, meaning, toOption_bind, toOption_bind, l.inClass_unplaced]
  | .range _ first last => by
    rw [unplaced, meaning, meaning, toOption_bind, toOption_bind, first.inClass_unplaced]
    refine congrArg (Option.bind _) (funext fun a => ?_)
    rw [toOption_bind, toOption_bind, last.inClass_unplaced]
  | .named _ _ _ => f.negate_unplaced _ _ _ _
  | .property _ _ _ => propertySet_unplaced f _ _ _ _
  | .short _ _ _ => f.negate_unplaced _ _ _ _
  | .bracketed region negated set => by
    rw [unplaced, meaning, meaning, toOption_bind, toOption_bind, set.meaning_unplaced]
    refine congrArg (Option.bind _) (funext fun s => ?_)
    rw [toOption_bind, toOption_bind, f.negate_unplaced .nowhere region]
  | .union _ sets => by
    rw [unplaced, meaning, meaning, toOption_bind, toOption_bind, ClassSet.meanings_unplaced]
  | .combine _ op left right => by
    rw [unplaced, meaning, meaning, toOption_bind, toOption_bind, left.meaning_unplaced]
    refine congrArg (Option.bind _) (funext fun s => ?_)
    rw [toOption_bind, toOption_bind, right.meaning_unplaced]

theorem ClassSet.meanings_unplaced (f : Flags) : (sets : List ClassSet) →
    (ClassSet.meanings f (ClassSet.allUnplaced sets)).toOption
      = (ClassSet.meanings f sets).toOption
  | [] => rfl
  | s :: sets => by
    rw [ClassSet.allUnplaced, ClassSet.meanings, ClassSet.meanings, toOption_bind, toOption_bind,
      s.meaning_unplaced]
    refine congrArg (Option.bind _) (funext fun s => ?_)
    rw [toOption_bind, toOption_bind, ClassSet.meanings_unplaced]

end

mutual

/-- **The expression of a pattern does not depend on places,** nor does it whether there is
one. -/
theorem Pattern.meaning_unplaced (f : Flags) : (p : Pattern) →
    (p.unplaced.meaning f).toOption = (p.meaning f).toOption
  | .empty _ => rfl
  | .setFlags _ _ => rfl
  | .literal l => by
    rw [unplaced, meaning, meaning, toOption_bind, toOption_bind, l.meaning_unplaced]
  | .dot region => by
    rw [unplaced, meaning, meaning, toOption_bind, toOption_bind,
      dotMeaning_unplaced f .nowhere region]
  | .assertion _ _ => rfl
  | .property region negated query => by
    rw [unplaced, meaning, meaning, toOption_bind, toOption_bind,
      propertySet_unplaced f .nowhere region]
  | .short region negated kind => by
    rw [unplaced, meaning, meaning, toOption_bind, toOption_bind,
      f.negate_unplaced .nowhere region]
  | .bracketed region negated set => by
    rw [unplaced, meaning, meaning, toOption_bind, toOption_bind, set.meaning_unplaced]
    refine congrArg (Option.bind _) (funext fun s => ?_)
    rw [toOption_bind, toOption_bind, f.negate_unplaced .nowhere region]
  | .repetition _ op greedy sub => by
    rw [unplaced, meaning, meaning, toOption_bind, toOption_bind, sub.meaning_unplaced]
  | .group _ kind sub => by
    rw [unplaced, meaning, meaning, toOption_bind, toOption_bind, sub.meaning_unplaced]
  | .alternation _ branches => by
    rw [unplaced, meaning, meaning, toOption_bind, toOption_bind, Pattern.meanings_unplaced]
  | .concat _ items => by
    rw [unplaced, meaning, meaning, toOption_bind, toOption_bind, Pattern.meanings_unplaced]

theorem Pattern.meanings_unplaced (f : Flags) : (patterns : List Pattern) →
    (Pattern.meanings f (Pattern.allUnplaced patterns)).toOption
      = (Pattern.meanings f patterns).toOption
  | [] => rfl
  | p :: patterns => by
    rw [Pattern.allUnplaced, Pattern.meanings, Pattern.meanings, toOption_bind, toOption_bind,
      p.meaning_unplaced]
    refine congrArg (Option.bind _) (funext fun ⟨e, f⟩ => ?_)
    dsimp only
    rw [toOption_bind, toOption_bind, Pattern.meanings_unplaced]

end

/-! ## Heights -/

mutual

/-- How deep the nodes of a class set are nested that must not be nested too deep. -/
def ClassSet.height : ClassSet → Nat
  | .bracketed _ _ set => set.height + 1
  | .union _ sets => ClassSet.greatestHeight sets + 1
  | .combine _ _ left right => max left.height right.height + 1
  | _ => 0

/-- The greatest height of class sets. -/
def ClassSet.greatestHeight : List ClassSet → Nat
  | [] => 0
  | s :: sets => max s.height (ClassSet.greatestHeight sets)

end

mutual

/-- How deep the nodes of a pattern are nested that must not be nested too deep. -/
def Pattern.height : Pattern → Nat
  | .bracketed _ _ set => set.height + 1
  | .repetition _ _ _ sub => sub.height + 1
  | .group _ _ sub => sub.height + 1
  | .alternation _ branches => Pattern.greatestHeight branches + 1
  | .concat _ items => Pattern.greatestHeight items + 1
  | _ => 0

/-- The greatest height of patterns. -/
def Pattern.greatestHeight : List Pattern → Nat
  | [] => 0
  | p :: patterns => max p.height (Pattern.greatestHeight patterns)

end

theorem orElseFault_eq_none {first second : Option Fault} :
    orElseFault first second = none ↔ first = none ∧ second = none := by
  cases first with
  | none => exact (and_iff_right rfl).symm
  | some f => exact iff_of_false nofun fun h => nomatch h.1

theorem tooDeep?_eq_none_iff (depth : Nat) (region : Region) :
    tooDeep? depth region = none ↔ depth < nestingLimit := by
  rw [tooDeep?]
  split
  · rename_i h
    exact iff_of_false nofun (Nat.not_lt_of_le h)
  · rename_i h
    exact iff_of_true rfl (Nat.lt_of_not_le h)

/-- There is room for nodes of a height at a depth. -/
def HasRoom (depth height : Nat) : Prop := height = 0 ∨ depth + height ≤ nestingLimit

/-- There is room for a node around something if there is room for both. -/
theorem hasRoom_succ {depth height : Nat} :
    HasRoom depth (height + 1) ↔ depth < nestingLimit ∧ HasRoom (depth + 1) height := by
  unfold HasRoom
  omega

/-- There is room for two things if there is room for the higher one. -/
theorem hasRoom_max {depth height height' : Nat} :
    HasRoom depth (max height height') ↔ HasRoom depth height ∧ HasRoom depth height' := by
  unfold HasRoom
  omega

theorem HasRoom.mono {depth height depth' height' : Nat} (h : HasRoom depth height)
    (hdepth : depth' ≤ depth) (hheight : height' ≤ height) : HasRoom depth' height' := by
  unfold HasRoom at h ⊢
  omega

mutual

theorem ClassSet.tooDeep?_eq_none_iff (depth : Nat) : (s : ClassSet) →
    (s.tooDeep? depth = none ↔ HasRoom depth s.height)
  | .empty _ => iff_of_true rfl (.inl rfl)
  | .literal _ => iff_of_true rfl (.inl rfl)
  | .range _ _ _ => iff_of_true rfl (.inl rfl)
  | .named _ _ _ => iff_of_true rfl (.inl rfl)
  | .property _ _ _ => iff_of_true rfl (.inl rfl)
  | .short _ _ _ => iff_of_true rfl (.inl rfl)
  | .bracketed region _ set => by
    rw [tooDeep?, height, orElseFault_eq_none, Regex.tooDeep?_eq_none_iff,
      set.tooDeep?_eq_none_iff, hasRoom_succ]
  | .union region sets => by
    rw [tooDeep?, height, orElseFault_eq_none, Regex.tooDeep?_eq_none_iff,
      ClassSet.anyTooDeep?_eq_none_iff, hasRoom_succ]
  | .combine region _ left right => by
    rw [tooDeep?, height, orElseFault_eq_none, orElseFault_eq_none, Regex.tooDeep?_eq_none_iff,
      left.tooDeep?_eq_none_iff, right.tooDeep?_eq_none_iff, hasRoom_succ, hasRoom_max]

theorem ClassSet.anyTooDeep?_eq_none_iff (depth : Nat) : (sets : List ClassSet) →
    (ClassSet.anyTooDeep? depth sets = none ↔ HasRoom depth (ClassSet.greatestHeight sets))
  | [] => iff_of_true rfl (.inl rfl)
  | s :: sets => by
    rw [ClassSet.anyTooDeep?, ClassSet.greatestHeight, orElseFault_eq_none,
      s.tooDeep?_eq_none_iff, ClassSet.anyTooDeep?_eq_none_iff, hasRoom_max]

end

mutual

/-- **A pattern is not nested too deep** if there is room for its height. -/
theorem Pattern.tooDeep?_eq_none_iff (depth : Nat) : (p : Pattern) →
    (p.tooDeep? depth = none ↔ HasRoom depth p.height)
  | .empty _ => iff_of_true rfl (.inl rfl)
  | .setFlags _ _ => iff_of_true rfl (.inl rfl)
  | .literal _ => iff_of_true rfl (.inl rfl)
  | .dot _ => iff_of_true rfl (.inl rfl)
  | .assertion _ _ => iff_of_true rfl (.inl rfl)
  | .property _ _ _ => iff_of_true rfl (.inl rfl)
  | .short _ _ _ => iff_of_true rfl (.inl rfl)
  | .bracketed region _ set => by
    rw [tooDeep?, height, orElseFault_eq_none, Regex.tooDeep?_eq_none_iff,
      set.tooDeep?_eq_none_iff, hasRoom_succ]
  | .repetition region _ _ sub => by
    rw [tooDeep?, height, orElseFault_eq_none, Regex.tooDeep?_eq_none_iff,
      sub.tooDeep?_eq_none_iff, hasRoom_succ]
  | .group region _ sub => by
    rw [tooDeep?, height, orElseFault_eq_none, Regex.tooDeep?_eq_none_iff,
      sub.tooDeep?_eq_none_iff, hasRoom_succ]
  | .alternation region branches => by
    rw [tooDeep?, height, orElseFault_eq_none, Regex.tooDeep?_eq_none_iff,
      Pattern.anyTooDeep?_eq_none_iff, hasRoom_succ]
  | .concat region items => by
    rw [tooDeep?, height, orElseFault_eq_none, Regex.tooDeep?_eq_none_iff,
      Pattern.anyTooDeep?_eq_none_iff, hasRoom_succ]

theorem Pattern.anyTooDeep?_eq_none_iff (depth : Nat) : (patterns : List Pattern) →
    (Pattern.anyTooDeep? depth patterns = none ↔ HasRoom depth (Pattern.greatestHeight patterns))
  | [] => iff_of_true rfl (.inl rfl)
  | p :: patterns => by
    rw [Pattern.anyTooDeep?, Pattern.greatestHeight, orElseFault_eq_none,
      p.tooDeep?_eq_none_iff, Pattern.anyTooDeep?_eq_none_iff, hasRoom_max]

end

mutual

theorem ClassSet.height_unplaced : (s : ClassSet) → s.unplaced.height = s.height
  | .empty _ => rfl
  | .literal _ => rfl
  | .range _ _ _ => rfl
  | .named _ _ _ => rfl
  | .property _ _ _ => rfl
  | .short _ _ _ => rfl
  | .bracketed _ _ set => by rw [unplaced, height, height, set.height_unplaced]
  | .union _ sets => by rw [unplaced, height, height, ClassSet.greatestHeight_unplaced]
  | .combine _ _ left right => by
    rw [unplaced, height, height, left.height_unplaced, right.height_unplaced]

theorem ClassSet.greatestHeight_unplaced : (sets : List ClassSet) →
    ClassSet.greatestHeight (ClassSet.allUnplaced sets) = ClassSet.greatestHeight sets
  | [] => rfl
  | s :: sets => by
    rw [ClassSet.allUnplaced, ClassSet.greatestHeight, ClassSet.greatestHeight,
      s.height_unplaced, ClassSet.greatestHeight_unplaced]

end

mutual

/-- The height does not depend on places. -/
theorem Pattern.height_unplaced : (p : Pattern) → p.unplaced.height = p.height
  | .empty _ => rfl
  | .setFlags _ _ => rfl
  | .literal _ => rfl
  | .dot _ => rfl
  | .assertion _ _ => rfl
  | .property _ _ _ => rfl
  | .short _ _ _ => rfl
  | .bracketed _ _ set => by rw [unplaced, height, height, set.height_unplaced]
  | .repetition _ _ _ sub => by rw [unplaced, height, height, sub.height_unplaced]
  | .group _ _ sub => by rw [unplaced, height, height, sub.height_unplaced]
  | .alternation _ branches => by
    rw [unplaced, height, height, Pattern.greatestHeight_unplaced]
  | .concat _ items => by rw [unplaced, height, height, Pattern.greatestHeight_unplaced]

theorem Pattern.greatestHeight_unplaced : (patterns : List Pattern) →
    Pattern.greatestHeight (Pattern.allUnplaced patterns) = Pattern.greatestHeight patterns
  | [] => rfl
  | p :: patterns => by
    rw [Pattern.allUnplaced, Pattern.greatestHeight, Pattern.greatestHeight,
      p.height_unplaced, Pattern.greatestHeight_unplaced]

end

mutual

/-- Nor does it depend on the numbers of groups. -/
theorem Pattern.height_numbered (n : Nat) : (p : Pattern) → (p.numbered n).height = p.height
  | .empty _ => rfl
  | .setFlags _ _ => rfl
  | .literal _ => rfl
  | .dot _ => rfl
  | .assertion _ _ => rfl
  | .property _ _ _ => rfl
  | .short _ _ _ => rfl
  | .bracketed _ _ set => by
    rw [numbered, unplaced, height, height, set.height_unplaced]
    all_goals nofun
  | .repetition _ _ _ sub => by rw [numbered, height, height, sub.height_numbered]
  | .group _ _ sub => by rw [numbered, height, height, sub.height_numbered]
  | .alternation _ branches => by rw [numbered, height, height, Pattern.greatestHeight_numbered]
  | .concat _ items => by rw [numbered, height, height, Pattern.greatestHeight_numbered]

theorem Pattern.greatestHeight_numbered (n : Nat) : (patterns : List Pattern) →
    Pattern.greatestHeight (Pattern.allNumbered n patterns) = Pattern.greatestHeight patterns
  | [] => rfl
  | p :: patterns => by
    rw [Pattern.allNumbered, Pattern.greatestHeight, Pattern.greatestHeight,
      p.height_numbered, Pattern.greatestHeight_numbered]

end

end StatefulLexer.Regex
