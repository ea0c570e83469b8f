/-
Reading bracketed classes.

A class is read round by round, and each round gathers one item. Since a class may stand in a
class, what a round reads back is told first for the items of a class, and from that for the
class itself.

Main statements: `ClassSet.read_item`, `bracketedClass_read`.
-/
import StatefulLexer.Proofs.Regex.Reading.LegibleClass

set_option autoImplicit false

namespace StatefulLexer.Regex

/-! ## Gathering items -/

/-- Items pushed one after the other. -/
def Gathered.pushAll (g : Gathered) (sets : List ClassSet) : Gathered := sets.foldl .push g

theorem Gathered.items_pushAll (g : Gathered) (sets : List ClassSet) :
    (g.pushAll sets).items = sets.reverse ++ g.items := by
  induction sets generalizing g with
  | nil => rfl
  | cons s sets ih =>
    show ((g.push s).pushAll sets).items = _
    rw [ih, List.reverse_cons, List.append_assoc]
    rfl

/-- **Items as an operand:** what was gathered is the operand whose items it is. -/
theorem unplaced_toSet {g : Gathered} {s : ClassSet} {verbose : Bool} {heads : Nat}
    {rest : List Char} (hs : s.isOperand = true) (hlegible : s.legible verbose heads rest = true)
    (hitems : g.items.map ClassSet.unplaced = (s.firstItems.map ClassSet.unplaced).reverse) :
    g.toSet.unplaced = s.unplaced := by
  have single (hfirst : s.firstItems = [s]) : g.toSet.unplaced = s.unplaced := by
    rw [hfirst] at hitems
    obtain ⟨item, hg, hitem⟩ : ∃ item, g.items = [item] ∧ item.unplaced = s.unplaced := by
      cases hg : g.items with
      | nil => rw [hg] at hitems; cases hitems
      | cons item items =>
        rw [hg] at hitems
        obtain ⟨hitem, htail⟩ := List.cons.inj hitems
        rw [List.map_eq_nil_iff.1 htail]
        exact ⟨item, rfl, hitem⟩
    rw [Gathered.toSet, hg]
    exact hitem
  cases s with
  | combine place op left right => cases hs
  | empty place =>
    have hg : g.items = [] := List.map_eq_nil_iff.1 hitems
    rw [Gathered.toSet, hg]
    rfl
  | union place sets =>
    rw [ClassSet.legible, Bool.and_eq_true, decide_eq_true_eq] at hlegible
    have hlength := congrArg List.length hitems
    rw [List.length_map, List.length_reverse, List.length_map, ClassSet.firstItems] at hlength
    obtain ⟨a, b, items, hg⟩ : ∃ a b items, g.items = a :: b :: items := by
      cases hg : g.items with
      | nil => rw [hg, List.length_nil] at hlength; omega
      | cons a items =>
        cases items with
        | nil => rw [hg, List.length_singleton] at hlength; omega
        | cons b items => exact ⟨a, b, items, rfl⟩
    have hset : g.toSet = .union g.region g.items.reverse := by
      rw [Gathered.toSet, hg]
    rw [hset, ClassSet.unplaced, ClassSet.unplaced, ClassSet.allUnplaced_eq_map,
      ClassSet.allUnplaced_eq_map, List.map_reverse, hitems, List.reverse_reverse]
    rfl
  | literal l => exact single rfl
  | range place first last => exact single rfl
  | named place negated kind => exact single rfl
  | property place negated query => exact single rfl
  | short place negated kind => exact single rfl
  | bracketed place negated set => exact single rfl

/-! ## The head -/

/-- Hyphens at the beginning of a class are read back. -/
theorem leadingHyphens_read {hyphens : List ClassSet}
    (hall : ∀ s ∈ hyphens, ClassSet.isHyphen s = true) {r : Reader} {verbose : Bool}
    {rest : List Char} (h : r.At verbose (ClassSet.renderAll hyphens ++ rest))
    (hvisible : Visible verbose rest) (hne : rest ≠ []) (hend : rest.head? ≠ some '-')
    (start : Place) (g : Gathered) :
    ∃ g', leadingHyphens start r g = .ok (g', r.behind (ClassSet.renderAll hyphens).length) ∧
      g'.items.map ClassSet.unplaced
        = (hyphens.map ClassSet.unplaced).reverse ++ g.items.map ClassSet.unplaced := by
  induction hyphens generalizing r g with
  | nil =>
    have hrest := h.rest
    refine ⟨g, ?_, rfl⟩
    rw [leadingHyphens]
    split
    · rename_i hnil
      rw [hnil] at hrest
      exact absurd hrest.symm hne
    · rename_i c p tail hcons
      rw [hcons] at hrest
      have hc : c ≠ '-' := by
        rintro rfl
        exact hend (by rw [← List.nil_append rest]; exact congrArg List.head? hrest.symm)
      dsimp only
      rw [if_neg hc]
      rfl
  | cons s hyphens ih =>
    obtain ⟨hs, hmore⟩ := List.forall_mem_cons.1 hall
    obtain ⟨l, rfl, hplain, hchar⟩ : ∃ l, s = .literal l ∧ l.spelling = .plain ∧ l.char = '-' := by
      cases s with
      | literal l =>
        rw [ClassSet.isHyphen, Literal.isBare, Bool.and_eq_true, beq_iff_eq, beq_iff_eq] at hs
        exact ⟨l, rfl, hs⟩
      | _ => cases hs
    have htext : ClassSet.renderAll (.literal l :: hyphens) = '-' :: ClassSet.renderAll hyphens := by
      rw [ClassSet.renderAll, ClassSet.render, Literal.render, hplain, hchar]
      rfl
    have hbehind : Visible verbose (ClassSet.renderAll hyphens ++ rest) := by
      cases hyphens with
      | nil => exact hvisible
      | cons t hyphens =>
        have ht := hmore t List.mem_cons_self
        cases t with
        | literal l' =>
          rw [ClassSet.isHyphen, Literal.isBare, Bool.and_eq_true, beq_iff_eq, beq_iff_eq] at ht
          rw [ClassSet.renderAll, ClassSet.render, Literal.render, ht.1, ht.2]
          exact visible_cons.2 (isSkipped_of_seen (by decide) (by decide))
        | _ => cases ht
    rw [htext] at h ⊢
    obtain ⟨g', hread, hitems⟩ := ih hmore h.next
      (g.push (.literal ⟨r.charRegion, '-', .plain⟩))
    have hrest := h.rest
    refine ⟨g', ?_, ?_⟩
    · rw [leadingHyphens]
      split
      · rename_i hnil
        rw [hnil] at hrest
        cases hrest
      · rename_i c p tail hcons
        rw [hcons] at hrest
        dsimp only
        rw [if_pos (List.cons.inj hrest).1, h.advanceSkip hbehind, hread, Reader.behind_behind,
          List.length_cons, Nat.add_comm 1]
    · rw [hitems, List.map_cons, List.reverse_cons, List.append_assoc]
      refine congrArg (List.append _) ?_
      show ClassSet.literal _ :: _ = ClassSet.literal l.unplaced :: _
      rw [Literal.unplaced, Literal.unplaced, hplain, hchar]
      rfl

/-- What the head of a class takes: a closing bracket, or hyphens. -/
theorem headCount_cases (items : List ClassSet) :
    (items.head?.any ClassSet.isBracket = true ∧ headCount items = 1) ∨
      (items.head?.any ClassSet.isBracket = false ∧
        ∀ s ∈ items.take (headCount items), s.isHyphen = true) := by
  rw [headCount]
  cases hbracket : items.head?.any ClassSet.isBracket with
  | true => exact .inl ⟨rfl, rfl⟩
  | false =>
    refine .inr ⟨rfl, fun s hs => ?_⟩
    have htake : items.take (items.takeWhile ClassSet.isHyphen).length
        = items.takeWhile ClassSet.isHyphen :=
      (List.prefix_iff_eq_take.1 (List.takeWhile_prefix _)).symm
    rw [if_neg Bool.false_ne_true, htake] at hs
    exact List.mem_takeWhile_imp hs

/-- A closing bracket by itself. -/
theorem ClassSet.eq_of_isBracket {s : ClassSet} (h : s.isBracket = true) :
    s.render = [']'] ∧ s.unplaced = .literal ⟨.nowhere, ']', .plain⟩ := by
  cases s with
  | literal l =>
    rw [isBracket, Literal.isBare, Bool.and_eq_true, beq_iff_eq, beq_iff_eq] at h
    rw [render, Literal.render, unplaced, Literal.unplaced, h.1, h.2]
    exact ⟨rfl, rfl⟩
  | _ => cases h

/-- Behind the bracket that opens a class and the caret that negates it, the items of the head
are read. -/
theorem classHead_start {r : Reader} {verbose negated : Bool} {text : List Char}
    (h : r.At verbose ('[' :: ((if negated then ['^'] else []) ++ text)))
    (htext : Visible verbose text) (hcaret : negated = true ∨ text.head? ≠ some '^') :
    ∃ n, (r.behind n).At verbose text ∧ n = (if negated then 2 else 1) ∧
      classHead r =
        (leadingHyphens r.place (r.behind n) (.startAt (r.behind n).place) >>= fun (g, r₁) =>
          if g.items.isEmpty ∧ r₁.peek? = some ']' then
            if r₁.advanceSkip.peek?.isNone then fault .classUnclosed ⟨r.place, r₁.advanceSkip.place⟩
            else .ok (⟨negated, g.push (.literal ⟨r₁.charRegion, ']', .plain⟩),
              ⟨r.place, r₁.advanceSkip.place⟩⟩, r₁.advanceSkip)
          else .ok (⟨negated, g, ⟨r.place, r₁.place⟩⟩, r₁)) := by
  cases negated with
  | true =>
    have hskip := h.advanceSkip (visible_cons.2 (isSkipped_of_seen (by decide) (by decide)))
    have hskip' : (r.behind 1).advanceSkip = r.behind 2 := by
      rw [h.next.advanceSkip htext, Reader.behind_behind]
    have hpeek : ((r.behind 1).peek? == some '^') = true := beq_iff_eq.2 h.next.peek?
    refine ⟨2, h.behind 2, rfl, ?_⟩
    rw [classHead]
    dsimp only
    rw [hskip, hpeek, if_pos rfl, hskip']
  | false =>
    have hskip := h.advanceSkip htext
    have hpeek : ((r.behind 1).peek? == some '^') = false := by
      rw [h.next.peek?]
      exact beq_false_of_ne (hcaret.resolve_left Bool.false_ne_true)
    refine ⟨1, h.next, rfl, ?_⟩
    rw [classHead]
    dsimp only
    rw [hskip, hpeek, if_neg Bool.false_ne_true]

/-- **The head of a class is read back.** It takes the items that belong to it, and leaves
the rest. -/
theorem classHead_read {set : ClassSet} {verbose negated : Bool}
    (hends : set.endsHead negated = true)
    (hset : set.legible verbose (headCount set.firstItems) [']'] = true) {r : Reader}
    {rest : List Char} (h : r.At verbose (inBrackets negated set.render ++ rest)) :
    ∃ (head : ClassHead) (n : Nat), classHead r = .ok (head, r.behind n) ∧ head.negated = negated ∧
      head.gathered.items.map ClassSet.unplaced
        = ((set.firstItems.take (headCount set.firstItems)).map ClassSet.unplaced).reverse ∧
      (r.behind n).At verbose (set.renderFrom (headCount set.firstItems) ++ ']' :: rest) ∧
      n + (set.renderFrom (headCount set.firstItems)).length + 1
        = (inBrackets negated set.render).length ∧ 0 < n := by
  have hfrom := ClassRest.from_head hset (.bracket verbose)
  have hrender := set.render_head (headCount set.firstItems)
  rw [ClassSet.endsHead, Bool.and_eq_true, Bool.and_eq_true, Bool.or_eq_true, Bool.or_eq_true,
    Bool.or_eq_true, bne_iff_ne, bne_iff_ne, bne_iff_ne, bne_iff_ne] at hends
  obtain ⟨⟨hcaret, hhyphen⟩, hbracket⟩ := hends
  generalize set.renderFrom (headCount set.firstItems) = behind at *
  have hbehind : Visible verbose (behind ++ ']' :: rest) := by
    rw [List.append_cons]
    exact hfrom.visible_append rest
  have hne : behind ++ ']' :: rest ≠ [] := List.append_ne_nil_of_right_ne_nil _ (List.cons_ne_nil _ _)
  have hfirst : (behind ++ ']' :: rest).head? = (behind ++ [']']).head? := by
    cases behind <;> rfl
  -- What stands behind the bracket and the caret, taken apart.
  have htext : inBrackets negated set.render ++ rest
      = '[' :: ((if negated then ['^'] else []) ++ (set.render ++ ']' :: rest)) := by
    rw [inBrackets]
    simp only [List.cons_append, List.append_assoc, List.nil_append]
  have hcaret' : negated = true ∨ (set.render ++ ']' :: rest).head? ≠ some '^' := by
    refine hcaret.imp_right fun hne => ?_
    cases hcases : set.render with
    | nil => exact fun heq => absurd (Option.some.inj heq) (by decide)
    | cons c tail => rw [hcases] at hne; exact hne
  have hlength : (inBrackets negated set.render).length
      = (if negated then 2 else 1) + set.render.length + 1 := by
    rw [inBrackets]
    cases negated <;> simp only [List.length_cons, List.length_append, List.length_nil, if_true,
      if_false, Bool.false_eq_true]
  have hpos : 0 < if negated then 2 else 1 := by cases negated <;> decide
  rw [htext] at h
  rcases headCount_cases set.firstItems with ⟨hany, hcount⟩ | ⟨hany, hhyphens⟩
  · -- A closing bracket comes first.
    obtain ⟨s, items, hitems, hs⟩ : ∃ s items, set.firstItems = s :: items ∧ s.isBracket = true := by
      cases hitems : set.firstItems with
      | nil => rw [hitems] at hany; cases hany
      | cons s items => rw [hitems] at hany; exact ⟨s, items, rfl, hany⟩
    obtain ⟨hstext, hsplaced⟩ := ClassSet.eq_of_isBracket hs
    have hset' : set.render = ']' :: behind := by
      rw [hrender, hcount, hitems]
      show ClassSet.renderAll [s] ++ behind = _
      rw [ClassSet.renderAll, hstext]
      rfl
    rw [hset'] at h hcaret'
    obtain ⟨n, hn, hnum, hstart⟩ := classHead_start h
      (visible_cons.2 (isSkipped_of_seen (by decide) (by decide))) hcaret'
    obtain ⟨g, hread, hg⟩ := leadingHyphens_read (List.forall_mem_nil _) hn
      (visible_cons.2 (isSkipped_of_seen (by decide) (by decide))) (List.cons_ne_nil _ _)
      (fun heq => absurd (Option.some.inj heq) (by decide)) r.place (.startAt (r.behind n).place)
    have hempty : g.items = [] := List.map_eq_nil_iff.1 hg
    have hpeek : (r.behind n).peek? = some ']' := hn.peek?
    have hsome : (r.behind (n + 1)).peek?.isNone = false := by
      rw [← Reader.behind_behind, hn.next.peek?]
      cases behind <;> rfl
    have hread : leadingHyphens r.place (r.behind n) (.startAt (r.behind n).place)
        = .ok (g, r.behind n) := hread
    refine ⟨⟨negated, g.push (.literal ⟨(r.behind n).charRegion, ']', .plain⟩),
      ⟨r.place, (r.behind (n + 1)).place⟩⟩, n + 1, ?_, rfl, ?_, ?_, ?_, by omega⟩
    · rw [hstart, hread]
      show (if g.items.isEmpty = true ∧ (r.behind n).peek? = some ']' then _ else _) = _
      rw [if_pos ⟨by rw [hempty]; rfl, hpeek⟩, hn.advanceSkip hbehind, Reader.behind_behind, hsome,
        if_neg Bool.false_ne_true]
    · rw [hcount, hitems, Gathered.push, hempty]
      show [ClassSet.literal _] = [s.unplaced]
      rw [hsplaced]
      rfl
    · rw [← Reader.behind_behind]
      exact hn.next
    · rw [hlength, hset', hnum, List.length_cons]
      omega
  · -- Hyphens come first, if anything belongs to the head at all.
    generalize htake : set.firstItems.take (headCount set.firstItems) = hyphens at *
    have hend : (behind ++ ']' :: rest).head? ≠ some '-' := by
      rw [hfirst]
      exact hhyphen.resolve_left (by rw [hany]; exact Bool.false_ne_true)
    have hvisible : Visible verbose (set.render ++ ']' :: rest) := by
      rw [hrender, List.append_assoc]
      cases hyphens with
      | nil => exact hbehind
      | cons s hyphens =>
        have hs := hhyphens s List.mem_cons_self
        cases s with
        | literal l =>
          rw [ClassSet.isHyphen, Literal.isBare, Bool.and_eq_true, beq_iff_eq, beq_iff_eq] at hs
          rw [ClassSet.renderAll, ClassSet.render, Literal.render, hs.1, hs.2]
          exact visible_cons.2 (isSkipped_of_seen (by decide) (by decide))
        | _ => cases hs
    obtain ⟨n, hn, hnum, hstart⟩ := classHead_start h hvisible hcaret'
    rw [hrender, List.append_assoc] at hn
    obtain ⟨g, hread, hg⟩ := leadingHyphens_read hhyphens hn hbehind hne hend r.place
      (.startAt (r.behind n).place)
    have hat := hn.past
    rw [Reader.behind_behind] at hread hat
    have hnot : ¬(g.items.isEmpty = true ∧
        (r.behind (n + (ClassSet.renderAll hyphens).length)).peek? = some ']') := by
      rintro ⟨hempty, hpeek⟩
      rw [List.isEmpty_iff.1 hempty] at hg
      have hnil : hyphens = [] :=
        List.map_eq_nil_iff.1 (List.reverse_eq_nil_iff.1 (List.append_eq_nil_iff.1 hg.symm).1)
      have hzero : headCount set.firstItems = 0 := by
        have hle : headCount set.firstItems ≤ set.firstItems.length := by
          rw [headCount, hany, if_neg Bool.false_ne_true]
          exact (List.takeWhile_prefix _).length_le
        have hlen := congrArg List.length htake
        rw [List.length_take, hnil, List.length_nil] at hlen
        omega
      rw [hat.peek?, hfirst] at hpeek
      exact hbracket.elim (fun hne => hne hzero) fun hne => hne hpeek
    refine ⟨⟨negated, g, ⟨r.place, (r.behind (n + (ClassSet.renderAll hyphens).length)).place⟩⟩,
      n + (ClassSet.renderAll hyphens).length, ?_, rfl, ?_, hat, ?_, by omega⟩
    · rw [hstart, hread]
      show (if g.items.isEmpty = true ∧ _ then _ else _) = _
      rw [if_neg hnot]
    · rw [hg]
      exact List.append_nil _
    · rw [hlength, hrender, hnum, List.length_append]
      omega

/-! ## The body -/

/-- A round of a class that reads an item or a range. -/
theorem classBody_item {r : Reader} {verbose : Bool} {c : Char} {text : List Char}
    (h : r.At verbose (c :: text)) (hvisible : isSkipped verbose c = false)
    (hc : c ≠ '[' ∧ c ≠ ']') (hop : beginsWithOp (c :: text) = false) {head : Region}
    {s : ClassSet} {r' : Reader} (hitem : classItem head r = .ok (s, r')) (rounds : Nat)
    (g : Gathered) (waiting : Option (ClassOp × ClassSet)) :
    classBody head (rounds + 1) r g waiting = classBody head rounds r' (g.push s) waiting := by
  have hpeek : r.peek? = some c := h.peek?
  rw [classBody, h.skip (visible_cons.2 hvisible), hpeek]
  dsimp only
  split
  · rename_i heq
    cases heq
  · rename_i heq
    exact absurd (Option.some.inj heq) hc.1
  · rename_i heq
    exact absurd (Option.some.inj heq) hc.2
  · rw [classOp?_eq_none h hop]
    dsimp only
    rw [hitem]
    rfl

/-- A round of a class that reads a class with a name. -/
theorem classBody_named {r : Reader} {verbose : Bool} {text : List Char}
    (h : r.At verbose ('[' :: text)) {s : ClassSet} {r' : Reader}
    (hnamed : namedClass? r = some (s, r')) (head : Region) (rounds : Nat) (g : Gathered)
    (waiting : Option (ClassOp × ClassSet)) :
    classBody head (rounds + 1) r g waiting = classBody head rounds r' (g.push s) waiting := by
  have hpeek : r.peek? = some '[' := h.peek?
  rw [classBody, h.skip (visible_cons.2 (isSkipped_of_seen (by decide) (by decide))), hpeek]
  dsimp only
  rw [hnamed]
  rfl

/-- A round of a class that reads a class in it. -/
theorem classBody_bracketed {r : Reader} {verbose : Bool} {text : List Char}
    (h : r.At verbose ('[' :: text)) (hnamed : namedClass? r = none) {inner : ClassHead}
    {r₁ r₂ : Reader} (hhead : classHead r = .ok (inner, r₁)) {rounds : Nat} {set : ClassSet}
    (hset : classBody inner.region rounds r₁ inner.gathered none = .ok (set, r₂)) (head : Region)
    (g : Gathered) (waiting : Option (ClassOp × ClassSet)) :
    classBody head (rounds + 1) r g waiting = classBody head rounds r₂.advance
      (g.push (.bracketed ⟨r.place, r₂.advance.place⟩ inner.negated set)) waiting := by
  have hpeek : r.peek? = some '[' := h.peek?
  rw [classBody, h.skip (visible_cons.2 (isSkipped_of_seen (by decide) (by decide))), hpeek]
  dsimp only
  rw [hnamed]
  dsimp only
  rw [hhead]
  show (classBody inner.region rounds r₁ inner.gathered none >>= _) = _
  rw [hset]
  rfl

/-- A round of a class that reads an operator. -/
theorem classBody_op {r : Reader} {verbose : Bool} {op : ClassOp} {text : List Char}
    (h : r.At verbose (op.render.toList ++ text)) (head : Region) (rounds : Nat) (g : Gathered)
    (waiting : Option (ClassOp × ClassSet)) :
    classBody head (rounds + 1) r g waiting = classBody head rounds (r.behind 2)
      (.startAt (r.behind 2).place) (some (op, combineWith waiting g.toSet)) := by
  obtain ⟨c, hc, hrender⟩ : ∃ c, (c ≠ '[' ∧ c ≠ ']' ∧ (0x21 ≤ c.toNat ∧ c.toNat ≤ 0x7E) ∧ c ≠ '#') ∧
      op.render.toList = [c, c] := by
    cases op
    · exact ⟨'&', by decide, rfl⟩
    · exact ⟨'-', by decide, rfl⟩
    · exact ⟨'~', by decide, rfl⟩
  have hat : r.At verbose (c :: c :: text) := by
    rw [hrender] at h
    exact h
  have hpeek : r.peek? = some c := hat.peek?
  rw [classBody, hat.skip (visible_cons.2 (isSkipped_of_seen hc.2.2.1 hc.2.2.2)), hpeek]
  dsimp only
  split
  · rename_i heq
    cases heq
  · rename_i heq
    exact absurd (Option.some.inj heq) hc.1
  · rename_i heq
    exact absurd (Option.some.inj heq) hc.2.1
  · rw [classOp?_read h]

/-- The closing bracket ends a class. -/
theorem classBody_close {r : Reader} {verbose : Bool} {text : List Char}
    (h : r.At verbose (']' :: text)) (head : Region) (rounds : Nat) (g : Gathered)
    (waiting : Option (ClassOp × ClassSet)) :
    classBody head (rounds + 1) r g waiting = .ok (combineWith waiting g.toSet, r) := by
  have hpeek : r.peek? = some ']' := h.peek?
  rw [classBody, h.skip (visible_cons.2 (isSkipped_of_seen (by decide) (by decide))), hpeek]
  rfl

/-! ## Items -/

/-- **An item is read back** in one round of a class, wherever it is legible. -/
def ClassSet.IsRead (verbose : Bool) (s : ClassSet) : Prop :=
  ∀ {r : Reader} {rest more : List Char}, s.isItem = true → s.legible verbose 0 rest = true →
    ClassRest verbose rest → r.At verbose (s.render ++ (rest ++ more)) → ∀ head : Region,
      ∃ s' : ClassSet, s'.unplaced = s.unplaced ∧
        ∀ (rounds : Nat) (g : Gathered) (waiting : Option (ClassOp × ClassSet)),
          s.render.length ≤ rounds → classBody head rounds r g waiting
            = classBody head (rounds - 1) (r.behind s.render.length) (g.push s') waiting

/-- The items of a class set, those of all its operands. -/
def ClassSet.parts : ClassSet → List ClassSet
  | .combine _ _ left right => left.parts ++ right.firstItems
  | s => s.firstItems

/-- The items of an operand are parts. -/
theorem ClassSet.parts_operand {s : ClassSet} (hs : s.isOperand = true) : s.parts = s.firstItems := by
  cases s with
  | combine place op left right => cases hs
  | _ => rfl

/-- Items are no larger than the class set. -/
theorem ClassSet.sizeOf_firstItem_le {s x : ClassSet} (hx : x ∈ s.firstItems) :
    sizeOf x ≤ sizeOf s := by
  induction s using ClassSet.chain_induction with
  | operand s hs =>
    cases s with
    | combine place op left right => cases hs
    | empty place => cases hx
    | union place sets =>
      have hlt : sizeOf x < sizeOf sets := List.sizeOf_lt_of_mem hx
      rw [ClassSet.union.sizeOf_spec]
      omega
    | literal l => rw [List.mem_singleton.1 hx]
    | range place first last => rw [List.mem_singleton.1 hx]
    | named place negated kind => rw [List.mem_singleton.1 hx]
    | property place negated query => rw [List.mem_singleton.1 hx]
    | short place negated kind => rw [List.mem_singleton.1 hx]
    | bracketed place negated set => rw [List.mem_singleton.1 hx]
  | combine place op left right ih =>
    have hle := ih hx
    rw [ClassSet.combine.sizeOf_spec]
    omega

theorem ClassSet.sizeOf_part_le {s x : ClassSet} (hx : x ∈ s.parts) : sizeOf x ≤ sizeOf s := by
  induction s using ClassSet.chain_induction with
  | operand s hs =>
    rw [parts_operand hs] at hx
    exact sizeOf_firstItem_le hx
  | combine place op left right ih =>
    rw [ClassSet.combine.sizeOf_spec]
    rcases List.mem_append.1 hx with hx | hx
    · have hle := ih hx
      omega
    · have hle := sizeOf_firstItem_le hx
      omega

/-- Several items are read back, one round for each. -/
theorem classBody_items {verbose : Bool} {sets : List ClassSet} {rest more : List Char}
    (hread : ∀ s ∈ sets, s.IsRead verbose)
    (hs : ClassSet.legibleItems verbose 0 sets rest = true) (hrest : ClassRest verbose rest)
    {r : Reader} (h : r.At verbose (ClassSet.renderAll sets ++ (rest ++ more))) (head : Region) :
    ∃ sets' : List ClassSet, sets'.map ClassSet.unplaced = sets.map ClassSet.unplaced ∧
      sets.length ≤ (ClassSet.renderAll sets).length ∧
      ∀ (rounds : Nat) (g : Gathered) (waiting : Option (ClassOp × ClassSet)),
        (ClassSet.renderAll sets).length ≤ rounds → classBody head rounds r g waiting
          = classBody head (rounds - sets.length) (r.behind (ClassSet.renderAll sets).length)
            (g.pushAll sets') waiting := by
  induction sets generalizing r with
  | nil => exact ⟨[], rfl, Nat.le_refl _, fun rounds g waiting _ => rfl⟩
  | cons s sets ih =>
    rw [ClassSet.legibleItems, Bool.and_eq_true, Bool.and_eq_true] at hs
    obtain ⟨⟨hitem, hlegible⟩, hmore⟩ := hs
    obtain ⟨hhead, htail⟩ := List.forall_mem_cons.1 hread
    have hbehind := ClassRest.items hmore hrest
    rw [ClassSet.renderAll, List.append_assoc] at h
    rw [← List.append_assoc (ClassSet.renderAll sets)] at h
    obtain ⟨s', hs', hround⟩ := hhead hitem hlegible hbehind h head
    rw [List.append_assoc] at h
    obtain ⟨sets', hsets', hlength, hrounds⟩ := ih htail hmore h.past
    have hpos : 0 < s.render.length := List.length_pos_iff.2 (s.render_ne_nil hitem)
    refine ⟨s' :: sets', by rw [List.map_cons, List.map_cons, hs', hsets'], ?_,
      fun rounds g waiting hle => ?_⟩
    · rw [ClassSet.renderAll, List.length_cons, List.length_append]
      omega
    · rw [ClassSet.renderAll, List.length_append] at hle
      rw [hround rounds g waiting (by omega), hrounds (rounds - 1) _ waiting (by omega),
        Reader.behind_behind, ClassSet.renderAll, List.length_append, List.length_cons,
        Nat.sub_sub, Nat.add_comm 1]
      rfl

/-- An operand is read back, whatever waits on its left. -/
theorem classBody_operand {verbose : Bool} {heads : Nat} {s : ClassSet} {rest more : List Char}
    (hread : ∀ x ∈ s.firstItems, x.IsRead verbose) (hoperand : s.isOperand = true)
    (hs : s.legible verbose heads rest = true) (hrest : ClassRest verbose rest) {r : Reader}
    (h : r.At verbose (s.renderFrom heads ++ (rest ++ more))) (head : Region) (g : Gathered)
    (hg : g.items.map ClassSet.unplaced
      = ((s.firstItems.take heads).map ClassSet.unplaced).reverse) :
    ∃ (used : Nat) (g' : Gathered), used ≤ (s.renderFrom heads).length ∧
      g'.toSet.unplaced = s.unplaced ∧
      ∀ (rounds : Nat) (waiting : Option (ClassOp × ClassSet)),
        (s.renderFrom heads).length ≤ rounds → classBody head rounds r g waiting
          = classBody head (rounds - used) (r.behind (s.renderFrom heads).length) g' waiting := by
  have hitems := legibleItems_of_operand hoperand hs
  rw [renderFrom_operand hoperand] at h ⊢
  obtain ⟨sets', hsets', hlength, hrounds⟩ :=
    classBody_items (fun x hx => hread x (List.mem_of_mem_drop hx)) hitems hrest h head
  refine ⟨(s.firstItems.drop heads).length, g.pushAll sets', hlength, ?_,
    fun rounds waiting hle => hrounds rounds g waiting hle⟩
  refine unplaced_toSet hoperand hs ?_
  rw [Gathered.items_pushAll, List.map_append, List.map_reverse, hsets', hg, ← List.reverse_append,
    ← List.map_append, List.take_append_drop]

/-- **A class set is read back** behind the items of the head. -/
theorem classBody_set {verbose : Bool} {heads : Nat} {s : ClassSet} {rest more : List Char}
    (hread : ∀ x ∈ s.parts, x.IsRead verbose) (hs : s.legible verbose heads rest = true)
    (hrest : ClassRest verbose rest) {r : Reader}
    (h : r.At verbose (s.renderFrom heads ++ (rest ++ more))) (head : Region) (g : Gathered)
    (hg : g.items.map ClassSet.unplaced
      = ((s.firstItems.take heads).map ClassSet.unplaced).reverse) :
    ∃ (used : Nat) (g' : Gathered) (waiting : Option (ClassOp × ClassSet)),
      used ≤ (s.renderFrom heads).length ∧
      (combineWith waiting g'.toSet).unplaced = s.unplaced ∧
      ∀ rounds : Nat, (s.renderFrom heads).length ≤ rounds → classBody head rounds r g none
        = classBody head (rounds - used) (r.behind (s.renderFrom heads).length) g' waiting := by
  induction s using ClassSet.chain_induction generalizing rest more r with
  | operand s hoperand =>
    rw [ClassSet.parts_operand hoperand] at hread
    obtain ⟨used, g', hused, hset, hrounds⟩ :=
      classBody_operand hread hoperand hs hrest h head g hg
    exact ⟨used, g', none, hused, hset, fun rounds hle => hrounds rounds none hle⟩
  | combine place op left right ih =>
    rw [ClassSet.legible, Bool.and_eq_true, Bool.and_eq_true] at hs
    obtain ⟨⟨hleft, hoperand⟩, hright⟩ := hs
    rw [ClassSet.parts] at hread
    obtain ⟨hreadLeft, hreadRight⟩ := List.forall_mem_append.1 hread
    have hbehind : ClassRest verbose (right.render ++ rest) := by
      rw [render_operand hoperand]
      exact .items (legibleItems_of_operand hoperand hright) hrest
    have hat : r.At verbose (left.renderFrom heads ++
        (op.render.toList ++ (right.render ++ rest) ++ more)) := by
      rw [ClassSet.renderFrom] at h
      simpa only [List.append_assoc] using h
    obtain ⟨used, g₁, waiting, hused, hset, hrounds⟩ := ih hreadLeft hleft (.op op hbehind) hat hg
    have hop : (r.behind (left.renderFrom heads).length).At verbose
        (op.render.toList ++ ((right.render ++ rest) ++ more)) := by
      have hpast := hat.past
      rwa [List.append_assoc] at hpast
    have htwo : op.render.toList.length = 2 := by cases op <;> rfl
    have hright' : (r.behind ((left.renderFrom heads).length + 2)).At verbose
        (right.renderFrom 0 ++ (rest ++ more)) := by
      have hpast := hop.past
      rw [htwo, Reader.behind_behind, List.append_assoc] at hpast
      rw [renderFrom_operand hoperand, List.drop_zero, ← render_operand hoperand]
      exact hpast
    obtain ⟨used', g₂, hused', hset', hrounds'⟩ := classBody_operand hreadRight hoperand hright
      hrest hright' head (.startAt (r.behind ((left.renderFrom heads).length + 2)).place) rfl
    have htext : (ClassSet.combine place op left right).renderFrom heads
        = left.renderFrom heads ++ (op.render.toList ++ right.renderFrom 0) := by
      rw [ClassSet.renderFrom, renderFrom_operand hoperand, List.drop_zero,
        ← render_operand hoperand]
    have hlength : ((ClassSet.combine place op left right).renderFrom heads).length
        = (left.renderFrom heads).length + 2 + (right.renderFrom 0).length := by
      rw [htext, List.length_append, List.length_append, htwo, Nat.add_assoc]
    refine ⟨used + 1 + used', g₂, some (op, combineWith waiting g₁.toSet), ?_, ?_,
      fun rounds hle => ?_⟩
    · rw [hlength]
      omega
    · rw [combineWith, ClassSet.unplaced, ClassSet.unplaced, hset, hset']
    · rw [hlength] at hle ⊢
      -- One round is for the operator between the two sets.
      obtain ⟨rounds', hrounds'', hsub⟩ : ∃ rounds', rounds - used = rounds' + 1 ∧
          rounds - (used + 1 + used') = rounds' - used' := ⟨rounds - used - 1, by omega, by omega⟩
      rw [hrounds rounds (by omega), hrounds'', classBody_op hop, Reader.behind_behind,
        hrounds' rounds' _ (by omega), Reader.behind_behind, hsub]

/-! ## Classes -/

/-- **A class is read back,** from its head to the bracket that closes it, in fewer rounds
than its text is long. -/
theorem classBody_read {set : ClassSet} {verbose negated : Bool}
    (hread : ∀ x ∈ set.parts, x.IsRead verbose) (hends : set.endsHead negated = true)
    (hset : set.legible verbose (headCount set.firstItems) [']'] = true) {r : Reader}
    {rest : List Char} (h : r.At verbose (inBrackets negated set.render ++ rest)) :
    ∃ (head : ClassHead) (r₁ : Reader) (set' : ClassSet) (need : Nat),
      classHead r = .ok (head, r₁) ∧ head.negated = negated ∧ set'.unplaced = set.unplaced ∧
      need < (inBrackets negated set.render).length ∧ need ≤ r₁.rest.length ∧
      ∀ rounds : Nat, need ≤ rounds → classBody head.region rounds r₁ head.gathered none
        = .ok (set', r.behind ((inBrackets negated set.render).length - 1)) := by
  obtain ⟨head, n, hhead, hnegated, hgathered, hat, hlength, hpos⟩ := classHead_read hends hset h
  obtain ⟨used, g, waiting, hused, hsame, hrounds⟩ :=
    classBody_set hread hset (.bracket verbose) hat head.region head.gathered hgathered
  have hclose := hat.past
  have hleft := congrArg List.length hat.rest
  rw [List.length_map, List.length_append, List.length_cons] at hleft
  rw [Reader.behind_behind] at hclose hrounds
  refine ⟨head, r.behind n, combineWith waiting g.toSet,
    (set.renderFrom (headCount set.firstItems)).length + 1, hhead, hnegated, hsame, by omega,
    by omega, fun rounds hle => ?_⟩
  obtain ⟨k, hk⟩ : ∃ k, rounds - used = k + 1 := ⟨rounds - used - 1, by omega⟩
  rw [hrounds rounds (by omega), hk, classBody_close hclose]
  exact congrArg (fun n => Except.ok (_, r.behind n)) (by omega)

/-- A class in a class is not taken for one with a name. -/
theorem namedClass?_eq_none {verbose negated : Bool} {set : List Char}
    (hnamed : beginsNamed (inBrackets negated set) = false) {r : Reader} {rest : List Char}
    (h : r.At verbose (inBrackets negated set ++ rest)) : namedClass? r = none := by
  cases hfound : namedClass? r with
  | none => rfl
  | some found =>
    obtain ⟨k, negated', hprefix⟩ := namedClass?_sound h hfound
    exfalso
    -- The closing bracket of a class with a name is its last character.
    have hlast : ']' ∉ (k.render negated').dropLast := by
      cases k <;> cases negated' <;> decide
    rcases Nat.lt_or_ge (inBrackets negated set).length (k.render negated').length with hlt | hge
    · have hbracket : inBrackets negated set <+: k.render negated' :=
        List.prefix_of_prefix_length_le (List.prefix_append _ rest) hprefix (Nat.le_of_lt hlt)
      have hwithin : inBrackets negated set <+: (k.render negated').dropLast := by
        rw [List.dropLast_eq_take]
        exact List.prefix_take_iff.2 ⟨hbracket, by omega⟩
      refine hlast (hwithin.subset ?_)
      rw [inBrackets]
      exact List.mem_append_right _ List.mem_cons_self
    · have hprefix' : k.render negated' <+: inBrackets negated set :=
        List.prefix_of_prefix_length_le hprefix (List.prefix_append _ rest) hge
      rw [beginsNamed, List.any_eq_false] at hnamed
      have hk := hnamed k (by cases k <;> decide)
      rw [Bool.or_eq_true, List.isPrefixOf_iff_prefix, List.isPrefixOf_iff_prefix] at hk
      cases negated' with
      | true => exact hk (.inr hprefix')
      | false => exact hk (.inl hprefix')

/-- An item that is an atom is read back in one round. -/
theorem ClassSet.isRead_atom {verbose : Bool} {a : Atom} {s : ClassSet} {rest more : List Char}
    (hrender : s.render = a.render) (ha : a.readable verbose = true)
    (hset : ∀ a' : Atom, a'.unplaced = a.unplaced →
      ∃ s', a'.toClassSet = .ok s' ∧ s'.unplaced = s.unplaced)
    {c : Char} {tail : List Char} (htext : a.render = c :: tail) (hc : c ≠ '[' ∧ c ≠ ']')
    (hop : beginsWithOp (a.render ++ rest) = false) (hrange : beginsRange rest = false)
    (hrest : ClassRest verbose rest) {r : Reader}
    (h : r.At verbose (s.render ++ (rest ++ more))) (head : Region) :
    ∃ s' : ClassSet, s'.unplaced = s.unplaced ∧
      ∀ (rounds : Nat) (g : Gathered) (waiting : Option (ClassOp × ClassSet)),
        s.render.length ≤ rounds → classBody head rounds r g waiting
          = classBody head (rounds - 1) (r.behind s.render.length) (g.push s') waiting := by
  rw [hrender] at h ⊢
  have hne : rest ++ more ≠ [] := List.append_ne_nil_of_left_ne_nil hrest.ne_nil more
  obtain ⟨s', hread, hsame⟩ := classItem_atom ha hset h (hrest.visible_append more) hne
    (by rw [hrest.beginsRange_append]; exact hrange) (hrest.hyphen_append more) head
  have hseen : isSkipped verbose c = false := by
    have hvisible := a.visible_of_readable ha []
    rw [htext] at hvisible
    exact visible_cons.1 hvisible
  have hop' : beginsWithOp (a.render ++ (rest ++ more)) = false := by
    rw [hrest.beginsWithOp_append (by rw [htext]; exact List.cons_ne_nil _ _)]
    exact hop
  rw [htext, List.cons_append] at hop' h
  refine ⟨s', hsame, fun rounds g waiting hle => ?_⟩
  obtain ⟨k, rfl⟩ : ∃ k, rounds = k + 1 := by
    rw [htext, List.length_cons] at hle
    exact ⟨rounds - 1, by omega⟩
  exact classBody_item h hseen hc hop' hread k g waiting

/-- A backslash begins no operator. -/
theorem beginsWithOp_backslash (text : List Char) : beginsWithOp ('\\' :: text) = false := by
  cases text with
  | nil => rfl
  | cons c text => rw [beginsWithOp, Bool.and_eq_false_iff]; exact .inr rfl

/-- **Every item is read back.** -/
theorem ClassSet.read_item (verbose : Bool) (s : ClassSet) : s.IsRead verbose := by
  intro r rest more hitem hs hrest h head
  match s with
  | .empty place => cases hitem
  | .union place sets => cases hitem
  | .combine place op left right => cases hitem
  | .literal l =>
    obtain ⟨hread, hopen, hclose, hop, hrange⟩ := legible_literal hs
    have hatom : (Atom.literal l).readable verbose = true := hread
    have hset : ∀ a' : Atom, a'.unplaced = (Atom.literal l).unplaced →
        ∃ s', a'.toClassSet = .ok s' ∧ s'.unplaced = (ClassSet.literal l).unplaced := by
      intro a' hsame
      cases a' with
      | literal l' => exact ⟨.literal l', rfl, congrArg ClassSet.literal (Atom.literal.inj hsame)⟩
      | _ => cases hsame
    rcases Literal.render_cases hread with ⟨c, tail, htext⟩ | ⟨htext, hbare⟩
    · exact isRead_atom rfl hatom hset htext (by decide) hop hrange hrest h head
    · rw [hbare, beq_eq_false_iff_ne] at hopen hclose
      exact isRead_atom rfl hatom hset htext ⟨hopen, hclose⟩ hop hrange hrest h head
  | .property place negated query =>
    rw [legible, Bool.and_eq_true, Bool.not_eq_true'] at hs
    have hatom : (Atom.property place negated query).readable verbose = true := hs.1
    have hset : ∀ a' : Atom, a'.unplaced = (Atom.property place negated query).unplaced →
        ∃ s', a'.toClassSet = .ok s' ∧
          s'.unplaced = (ClassSet.property place negated query).unplaced := by
      intro a' hsame
      cases a' with
      | property place' negated' query' =>
        obtain ⟨_, rfl, rfl⟩ := Atom.property.inj hsame
        exact ⟨_, rfl, rfl⟩
      | _ => cases hsame
    obtain ⟨c, tail, htext⟩ := (Atom.property place negated query).render_of_escapes hatom
    refine isRead_atom rfl hatom hset htext (by decide) ?_ hs.2 hrest h head
    rw [htext]
    exact beginsWithOp_backslash _
  | .short place negated kind =>
    rw [legible, Bool.not_eq_true'] at hs
    have hatom : (Atom.short place negated kind).escapes verbose = true := rfl
    have hset : ∀ a' : Atom, a'.unplaced = (Atom.short place negated kind).unplaced →
        ∃ s', a'.toClassSet = .ok s' ∧
          s'.unplaced = (ClassSet.short place negated kind).unplaced := by
      intro a' hsame
      cases a' with
      | short place' negated' kind' =>
        obtain ⟨_, rfl, rfl⟩ := Atom.short.inj hsame
        exact ⟨_, rfl, rfl⟩
      | _ => cases hsame
    obtain ⟨c, tail, htext⟩ := (Atom.short place negated kind).render_of_escapes hatom
    refine isRead_atom (a := .short place negated kind) rfl hatom hset htext (by decide) ?_ hs
      hrest h head
    rw [htext]
    exact beginsWithOp_backslash _
  | .range place first last =>
    obtain ⟨hfirst, hlast, hopen, hclose, hhyphen, hend, hend', hle⟩ := legible_range hs
    have hat : r.At verbose (first.render ++ '-' :: (last.render ++ (rest ++ more))) := by
      rw [render] at h
      simpa only [List.append_assoc, List.cons_append] using h
    obtain ⟨s', hread, hsame⟩ := classItem_range hfirst hlast hle ⟨hend, hend'⟩ hat
      (hrest.visible_append more) head place
    have hseen := (Atom.literal first).visible_of_readable hfirst []
    -- The first literal begins with a backslash, or is none of the signs.
    obtain ⟨c, tail, htext, hc, hop⟩ : ∃ c tail, first.render = c :: tail ∧ (c ≠ '[' ∧ c ≠ ']') ∧
        beginsWithOp (first.render ++ '-' :: (last.render ++ (rest ++ more))) = false := by
      rcases Literal.render_cases hfirst with ⟨c, tail, htext⟩ | ⟨htext, hbare⟩
      · refine ⟨_, _, htext, by decide, ?_⟩
        rw [htext]
        exact beginsWithOp_backslash _
      · rw [hbare, beq_eq_false_iff_ne] at hopen hclose hhyphen
        refine ⟨_, _, htext, ⟨hopen, hclose⟩, ?_⟩
        rw [htext]
        show (first.char == '-' && _) = false
        rw [beq_false_of_ne hhyphen, Bool.false_and]
    have hatom : (Atom.literal first).render = c :: tail := htext
    rw [hatom] at hseen
    rw [htext, List.cons_append] at hat hop
    refine ⟨s', hsame, fun rounds g waiting hle => ?_⟩
    obtain ⟨k, rfl⟩ : ∃ k, rounds = k + 1 := by
      rw [render, htext, List.cons_append, List.length_cons] at hle
      exact ⟨rounds - 1, by omega⟩
    exact classBody_item hat (visible_cons.1 hseen) hc hop hread k g waiting
  | .named place negated kind =>
    obtain ⟨region, hread⟩ := kind.read h
    have hat : r.At verbose ('[' :: ((kind.render negated ++ (rest ++ more)).tail)) := by
      rw [render, NamedClass.render_eq] at h
      rw [NamedClass.render_eq]
      exact h
    refine ⟨.named region negated kind, rfl, fun rounds g waiting hle => ?_⟩
    obtain ⟨k, rfl⟩ : ∃ k, rounds = k + 1 := by
      rw [render, NamedClass.render_eq, List.length_cons] at hle
      exact ⟨rounds - 1, by omega⟩
    exact classBody_named hat hread head k g waiting
  | .bracketed place negated set =>
    rw [legible, Bool.and_eq_true, Bool.and_eq_true, Bool.not_eq_true'] at hs
    obtain ⟨⟨hends, hnamed⟩, hset⟩ := hs
    have hread : ∀ x ∈ set.parts, x.IsRead verbose := fun x hx => read_item verbose x
    obtain ⟨inner, r₁, set', need, hhead, hnegated, hsame, hneed, _, hbody⟩ :=
      classBody_read hread hends hset h
    have hat : r.At verbose ('[' :: (inBrackets negated set.render ++ (rest ++ more)).tail) := h
    have hlast : (r.behind ((inBrackets negated set.render).length - 1)).advance
        = r.behind (inBrackets negated set.render).length := by
      rw [Reader.advance_eq, Reader.behind_behind]
      exact congrArg r.behind (by omega)
    refine ⟨.bracketed ⟨r.place, (r.behind (inBrackets negated set.render).length).place⟩ negated
      set', ?_, fun rounds g waiting hle => ?_⟩
    · rw [unplaced, unplaced, hsame]
    · have hle : (inBrackets negated set.render).length ≤ rounds := hle
      obtain ⟨k, rfl⟩ : ∃ k, rounds = k + 1 := ⟨rounds - 1, by omega⟩
      rw [classBody_bracketed hat (namedClass?_eq_none hnamed h) hhead (hbody k (by omega)) head g
        waiting, hlast, hnegated]
      rfl
termination_by sizeOf s
decreasing_by
  have hle := sizeOf_part_le hx
  rw [ClassSet.bracketed.sizeOf_spec]
  omega

/-- **A bracketed class is read back.** -/
theorem bracketedClass_read {set : ClassSet} {verbose negated : Bool}
    (hends : set.endsHead negated = true)
    (hset : set.legible verbose (headCount set.firstItems) [']'] = true) {r : Reader}
    {rest : List Char} (h : r.At verbose (inBrackets negated set.render ++ rest)) :
    ∃ (region : Region) (set' : ClassSet), set'.unplaced = set.unplaced ∧
      bracketedClass r = .ok (.bracketed region negated set',
        r.behind (inBrackets negated set.render).length) := by
  obtain ⟨head, r₁, set', need, hhead, hnegated, hsame, hneed, hleft, hbody⟩ :=
    classBody_read (fun x _ => x.read_item verbose) hends hset h
  have hlast : (r.behind ((inBrackets negated set.render).length - 1)).advance
      = r.behind (inBrackets negated set.render).length := by
    rw [Reader.advance_eq, Reader.behind_behind]
    exact congrArg r.behind (by omega)
  refine ⟨⟨r.place, (r.behind (inBrackets negated set.render).length).place⟩, set', hsame, ?_⟩
  rw [bracketedClass, hhead]
  show (classBody head.region (r₁.rest.length + 1) r₁ head.gathered none >>= _) = _
  rw [hbody _ (by omega)]
  show Except.ok (Pattern.bracketed ⟨r.place, (Reader.advance _).place⟩ head.negated set',
    Reader.advance _) = _
  rw [hlast, hnegated]

end StatefulLexer.Regex
