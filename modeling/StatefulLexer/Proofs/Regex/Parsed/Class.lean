/-
What was read of a class.

A class that was read is written as it was read, up to the first backslash, unless something in
it was skipped. So whatever decided how an item was read decides it again: the character behind
it, and the one behind that where the first is a hyphen. Where nothing is skipped, every class
that was read is legible.

Where blanks are skipped that can fail. A hyphen and what it applies to, or the two signs of an
operator, come to stand side by side although they did not before.

Main statements: `classBody_reads`, `bracketedClass_reads`.
-/
import StatefulLexer.Proofs.Regex.Parsed.Atom
import StatefulLexer.Proofs.Regex.Reading.ClassBody

set_option autoImplicit false

namespace StatefulLexer.Regex

open Reader

variable {r r' r₁ : Reader}

/-! ## How texts start -/

/-- **Two texts start alike** if their first characters are the same, and also the second ones if
the first is a hyphen. That is all an item depends on that comes before. -/
structure StartsAlike (a b : List Char) : Prop where
  first : a.head? = b.head?
  second : a.head? = some '-' → a.tail.head? = b.tail.head?

namespace StartsAlike

variable {a b : List Char}

/-- In front of texts that start alike, what is spelled the same starts alike. -/
theorem append {piece text : List Char} (h : upToBack piece = upToBack text)
    (hrest : StartsAlike a b) : StartsAlike (piece ++ a) (text ++ b) := by
  cases piece with
  | nil =>
    have htext : text = [] := by
      rw [← List.head?_eq_none_iff, ← head?_upToBack, ← h]
      rfl
    rw [htext]
    exact hrest
  | cons c piece =>
    obtain ⟨tail, rfl⟩ := List.head?_eq_some_iff.1 ((head?_upToBack text).symm.trans
      ((congrArg List.head? h).symm.trans (head?_upToBack (c :: piece))))
    refine ⟨rfl, ?_⟩
    intro hhyphen
    obtain rfl : c = '-' := Option.some.inj hhyphen
    -- A hyphen is no backslash, so the next characters are spelled the same too.
    have hsame := (List.cons.inj h).2
    have hheads := (head?_upToBack piece).symm.trans
      ((congrArg List.head? hsame).trans (head?_upToBack tail))
    simp only [List.cons_append, List.tail_cons, List.head?_append, hheads, hrest.first]

theorem beginsRange (h : StartsAlike a b) : Regex.beginsRange a = Regex.beginsRange b := by
  obtain ⟨hfirst, hsecond⟩ := h
  cases a with
  | nil => rw [List.head?_eq_none_iff.1 hfirst.symm]
  | cons c a =>
    obtain ⟨tail, rfl⟩ := List.head?_eq_some_iff.1 hfirst.symm
    by_cases hc : c = '-'
    · subst hc
      have hsame : a.head? = tail.head? := hsecond rfl
      simp only [Regex.beginsRange, hsame]
    · unfold Regex.beginsRange
      split
      · rename_i heq
        exact absurd (List.cons.inj heq).1 hc
      · split
        · rename_i heq
          exact absurd (List.cons.inj heq).1 hc
        · rfl

theorem beginsWithOp (h : StartsAlike a b) (c : Char) :
    Regex.beginsWithOp (c :: a) = Regex.beginsWithOp (c :: b) := by
  cases a with
  | nil => rw [List.head?_eq_none_iff.1 h.first.symm]
  | cons d a =>
    obtain ⟨tail, rfl⟩ := List.head?_eq_some_iff.1 h.first.symm
    rfl

end StartsAlike

/-- There is an operator at a reader whose text begins with one. -/
theorem beginsWithOp_of_classOp? (h : classOp? r = none) : beginsWithOp r.text = false := by
  rw [classOp?, r.at_text.peek?, r.at_text.peekSecond?] at h
  cases htext : r.text with
  | nil => rfl
  | cons c tail =>
    cases tail with
    | nil => rfl
    | cons d tail =>
      rw [htext] at h
      simp only [beginsWithOp, Bool.and_eq_false_iff, beq_eq_false_iff_ne, Bool.or_eq_false_iff]
      by_cases hcd : c = d
      · subst hcd
        right
        refine ⟨⟨?_, ?_⟩, ?_⟩ <;>
        · rintro rfl
          cases h
      · exact .inl hcd

theorem classOp?_reads {op : ClassOp} (h : classOp? r = some (op, r')) :
    r.Reads op.render.toList r' := by
  have two {c : Char} (hfirst : r.peek? = some c) (hsecond : r.peekSecond? = some c) :
      r.Reads [c, c] r.advance.advance := by
    refine (Reads.advance hfirst).trans (.advance ?_)
    rw [peekSecond?] at hsecond
    exact hsecond
  unfold classOp? at h
  split at h <;> cases h
  · rename_i hfirst hsecond
    exact two hfirst hsecond
  · rename_i hfirst hsecond
    exact two hfirst hsecond
  · rename_i hfirst hsecond
    exact two hfirst hsecond

/-! ## Items -/

/-- **An item was read:** its piece spells it, and where nothing is skipped it is legible in front
of whatever starts like what is left. -/
structure ReadsItem (r : Reader) (s : ClassSet) (r' : Reader) : Prop where
  isItem : s.isItem = true
  reads : ∃ piece, r.Reads piece r' ∧ Spells r.verbose piece s.render
  legible : r.verbose = false → ∀ rest, StartsAlike r'.text rest → s.legible false 0 rest = true

theorem namedClass?_reads {s : ClassSet} (h : namedClass? r = some (s, r')) : ReadsItem r s r' := by
  unfold namedClass? at h
  obtain ⟨r₁, hopen, h⟩ := Option.bind_eq_some_iff.1 h
  obtain ⟨r₂, hclose, h⟩ := Option.bind_eq_some_iff.1 h
  obtain ⟨kind, hkind, h⟩ := Option.bind_eq_some_iff.1 h
  cases h
  have hname := NamedClass.name_of_ofName? hkind
  rw [← hname] at hclose
  refine ⟨rfl, ⟨_, ?_, .refl _ _⟩, fun _ _ _ => rfl⟩
  have hopen := Reads.after? hopen
  rw [ClassSet.render, NamedClass.render_eq]
  by_cases hcaret : r₁.peek? = some '^'
  · simp only [hcaret, beq_self_eq_true, if_true] at hclose ⊢
    exact (hopen.trans (.advance hcaret)).trans (.after? hclose)
  · simp only [beq_false_of_ne hcaret, Bool.false_eq_true, if_false] at hclose ⊢
    exact hopen.trans (.after? hclose)

/-- What begins like what was read begins no operator if that does not. -/
theorem IsReadAs.beginsWithOp {verbose : Bool} {c : Char} {piece : List Char} {a : Atom}
    (h : IsReadAs verbose c piece a) {rest : List Char}
    (hop : piece = [] → Regex.beginsWithOp (c :: rest) = false) :
    Regex.beginsWithOp (a.render ++ rest) = false := by
  rcases h with ⟨_, ha⟩ | ⟨_, rfl, region, rfl⟩
  · obtain ⟨d, tail, htext⟩ := a.render_of_escapes ha
    rw [htext]
    exact beginsWithOp_backslash _
  · exact hop rfl

/-- **An atom that was read as an item** is one, and legible in front of neither the sign of a
range nor that of an operator. -/
theorem IsReadAs.toClassSet {verbose : Bool} {c : Char} {piece : List Char} {a : Atom}
    {s : ClassSet} (h : IsReadAs verbose c piece a) (hs : a.toClassSet = .ok s) (hopen : c ≠ '[')
    (hclose : c ≠ ']') :
    s.isItem = true ∧ s.render = a.render ∧ (verbose = false → ∀ rest, beginsRange rest = false →
      (piece = [] → Regex.beginsWithOp (c :: rest) = false) →
      s.legible false 0 rest = true) := by
  cases a with
  | literal l =>
    cases hs
    obtain ⟨hreadable, hbare⟩ := h.literal
    refine ⟨rfl, rfl, ?_⟩
    intro _ rest hrange hop
    have hop : Regex.beginsWithOp (l.render ++ rest) = false := h.beginsWithOp hop
    simp [ClassSet.legible, hreadable, hbare _ hopen, hbare _ hclose, hop, hrange]
  | property region negated query =>
    cases hs
    refine ⟨rfl, rfl, ?_⟩
    intro hverbose rest hrange _
    rcases h with ⟨_, ha⟩ | ⟨_, _, _, heq⟩
    · have hquery : query.legible false = true := hverbose ▸ ha
      simp [ClassSet.legible, hquery, hrange]
    · cases heq
  | short region negated kind =>
    cases hs
    refine ⟨rfl, rfl, ?_⟩
    intro _ rest hrange _
    simp [ClassSet.legible, hrange]
  | dot region => cases hs
  | assertion region kind => cases hs

/-- Two literals that were read as a range are legible as one. -/
theorem IsReadAs.legible_range {verbose : Bool} {c d : Char} {piece piece' : List Char}
    {low high : Literal} (hlow : IsReadAs verbose c piece (.literal low))
    (hhigh : IsReadAs verbose d piece' (.literal high)) (hopen : c ≠ '[') (hclose : c ≠ ']')
    (hhyphen : piece = [] → c ≠ '-') (hbracket : d ≠ ']') (hhyphen' : d ≠ '-')
    (hle : low.char ≤ high.char) (region : Region) (rest : List Char) :
    (ClassSet.range region low high).legible false 0 rest = true := by
  obtain ⟨hlowRead, hlowBare⟩ := hlow.literal
  obtain ⟨hhighRead, hhighBare⟩ := hhigh.literal
  have hlowHyphen : low.isBare '-' = false := by
    rcases hlow with ⟨rfl, _⟩ | ⟨_, hnil, _⟩
    · exact hlowBare _ (by decide)
    · exact hlowBare _ (hhyphen hnil)
  simp [ClassSet.legible, hlowRead, hhighRead, hlowBare _ hopen, hlowBare _ hclose, hlowHyphen,
    hhighBare _ hbracket, hhighBare _ hhyphen', hle]

/-- The character that decides whether a hyphen is the sign of a range is the one behind it, where
nothing is skipped. -/
theorem peekBehind?_of_not_verbose (h : r.verbose = false) : r.peekBehind? = r.text.tail.head? := by
  simp [peekBehind?, h, text]

theorem beginsRange_eq_false {c : Char} (hpeek : r.peek? = some c) (hverbose : r.verbose = false)
    (h : c ≠ '-' ∨ r.peekBehind? = some ']' ∨ r.peekBehind? = some '-') :
    beginsRange r.text = false := by
  rw [peek?_eq, List.head?_eq_some_iff] at hpeek
  obtain ⟨tail, htail⟩ := hpeek
  rw [peekBehind?_of_not_verbose hverbose, htail, List.tail_cons] at h
  rw [htail]
  unfold beginsRange
  split
  · rename_i heq
    obtain ⟨rfl, rfl⟩ := List.cons.inj heq
    rcases h with h | h | h
    · exact absurd rfl h
    · simp [h]
    · simp [h]
  · rfl

/-- **An item or a range that was read.** Neither an operator nor a bracket comes first, or it
would have been read as that. -/
theorem classItem_reads {head : Region} {s : ClassSet} {c : Char} (hpeek : r.peek? = some c)
    (hopen : c ≠ '[') (hclose : c ≠ ']') (hop : classOp? r = none)
    (h : classItem head r = .ok (s, r')) : ReadsItem r s r' := by
  have hop := beginsWithOp_of_classOp? hop
  unfold classItem at h
  obtain ⟨⟨first, r₁⟩, hfirst, h⟩ := bind_eq_ok.1 h
  obtain ⟨c', piece, hpiece, hfirst⟩ := classAtom_reads hfirst
  obtain rfl : c' = c := by
    rw [peek?_eq, hpiece.text] at hpeek
    exact Option.some.inj hpeek
  obtain ⟨blanks, hblanks, hnone⟩ := r₁.exists_reads_skip
  have hread := hpiece.trans hblanks
  rw [hpiece.verbose] at hnone
  -- Where nothing is skipped, what is left behind the first atom comes right behind it.
  have hbehind (hverbose : r.verbose = false) (hnil : piece = []) :
      beginsWithOp (c' :: r₁.skip.text) = false := by
    rwa [hread.text, hnone hverbose, hnil] at hop
  dsimp only at h
  split at h
  · cases h
  · rename_i d hd
    split at h
    · rename_i hsingle
      obtain ⟨s', hs, h⟩ := bind_eq_ok.1 h
      cases h
      rcases hfirst with hfirst | ⟨region, kind, rfl⟩
      · obtain ⟨hitem, hrender, hlegible⟩ := hfirst.toClassSet hs hopen hclose
        refine ⟨hitem, ⟨_, hread, ?_⟩, ?_⟩
        · rw [hrender]
          exact (hfirst.spells _).blanks hnone
        · intro hverbose rest hrest
          apply hlegible hverbose
          · rw [← hrest.beginsRange]
            exact beginsRange_eq_false hd (hread.verbose.trans hverbose) hsingle
          · intro hnil
            rw [← hrest.beginsWithOp]
            exact hbehind hverbose hnil
      · cases hs
    · rename_i hrange
      simp only [not_or, ne_eq, not_not] at hrange
      obtain ⟨rfl, hbracket, hhyphen⟩ := hrange
      obtain ⟨blanks', hblanks', hnone'⟩ := exists_reads_advanceSkip hd
      rw [hread.verbose] at hnone'
      split at h
      · cases h
      · obtain ⟨⟨last, r₂⟩, hlast, h⟩ := bind_eq_ok.1 h
        obtain ⟨e, piece', hpiece', hlast⟩ := classAtom_reads hlast
        obtain ⟨low, hlow, h⟩ := bind_eq_ok.1 h
        obtain ⟨high, hhigh, h⟩ := bind_eq_ok.1 h
        split at h
        · rename_i hle
          simp only [Except.ok.injEq, Prod.mk.injEq] at h
          obtain ⟨rfl, rfl⟩ := h
          have isLiteral {a : Atom} {l : Literal} {v : Bool} {c : Char} {piece : List Char}
              (ha : IsReadAs v c piece a ∨ ∃ region kind, a = .assertion region kind)
              (hl : a.toBoundary = .ok l) : IsReadAs v c piece (.literal l) := by
            cases a with
            | literal l' =>
              cases hl
              rcases ha with ha | ⟨_, _, heq⟩
              · exact ha
              · cases heq
            | _ => cases hl
          have hlow := isLiteral hfirst hlow
          have hhigh := isLiteral hlast hhigh
          refine ⟨rfl, ⟨_, (hread.trans hblanks').trans hpiece', ?_⟩, ?_⟩
          · have hspells := ((hlow.spells r.verbose).blanks hnone).append
              (((Spells.refl _ ['-']).blanks hnone').append (hhigh.spells _))
            rw [List.append_assoc]
            exact hspells
          · intro hverbose rest _
            have hseconds : r₁.skip.text.tail.head? = some e := by
              rw [hblanks'.text, hpiece'.text, hnone' hverbose]
              rfl
            rw [peekBehind?_of_not_verbose (hread.verbose.trans hverbose), hseconds,
              Option.some.injEq] at hbracket hhyphen
            refine hlow.legible_range hhigh hopen hclose ?_ hbracket hhyphen hle _ rest
            rintro hnil rfl
            have hcontra := hbehind hverbose hnil
            rw [hblanks'.text] at hcontra
            cases hcontra
        · cases h

/-! ## The head of a class -/

/-- **The head of a class was read:** hyphens, or a closing bracket. What comes next could not
have been a part of it. -/
structure ReadsHead (r : Reader) (head : ClassHead) (r' : Reader) : Prop where
  reads : ∃ piece, r.Reads piece r' ∧ Spells r.verbose piece
    ('[' :: (if head.negated then ['^'] else []) ++
      ClassSet.renderAll head.gathered.items.reverse)
  items : (∃ s, head.gathered.items = [s] ∧ s.isBracket = true) ∨
    (∀ s ∈ head.gathered.items, s.isHyphen = true) ∧ r'.peek? ≠ some '-' ∧
      (head.gathered.items = [] → r'.peek? ≠ some ']' ∧
        (head.negated = false → r'.peek? ≠ some '^'))

theorem leadingHyphens_reads {start : Place} {g g' : Gathered}
    (h : leadingHyphens start r g = .ok (g', r')) :
    ∃ hyphens : List ClassSet, g'.items = hyphens.reverse ++ g.items ∧
      (∀ s ∈ hyphens, s.isHyphen = true) ∧ r'.peek? ≠ some '-' ∧ (hyphens = [] → r' = r) ∧
      ∃ piece, r.Reads piece r' ∧ Spells r.verbose piece (ClassSet.renderAll hyphens) := by
  fun_induction leadingHyphens start r g with
  | case1 => cases h
  | case2 r g p rest hrest _ ih =>
    have hpeek : r.peek? = some '-' := by simp [peek?, hrest]
    obtain ⟨blanks, hblanks, hnone⟩ := exists_reads_advanceSkip hpeek
    obtain ⟨hyphens, hitems, hall, hend, _, piece, hpiece, hspells⟩ := ih h
    rw [hblanks.verbose] at hspells
    refine ⟨.literal ⟨r.charRegion, '-', .plain⟩ :: hyphens, ?_, ?_, hend,
      fun hnil => absurd hnil (List.cons_ne_nil _ _), _,
      hblanks.trans hpiece, ((Spells.refl _ ['-']).blanks hnone).append hspells⟩
    · rw [hitems, List.reverse_cons, List.append_assoc]
      rfl
    · intro s hs
      rcases List.mem_cons.1 hs with rfl | hs
      · rfl
      · exact hall s hs
  | case3 r g c p rest hrest _ hc =>
    simp only [Except.ok.injEq, Prod.mk.injEq] at h
    obtain ⟨rfl, rfl⟩ := h
    refine ⟨[], rfl, List.forall_mem_nil _, ?_, fun _ => rfl, [], .refl r, .refl _ _⟩
    simpa [peek?, hrest] using hc

theorem classHead_reads {head : ClassHead} (hpeek : r.peek? = some '[')
    (h : classHead r = .ok (head, r')) : ReadsHead r head r' := by
  obtain ⟨blanks, hblanks, hnone⟩ := exists_reads_advanceSkip hpeek
  unfold classHead at h
  obtain ⟨⟨g, r₂⟩, hhyphens, h⟩ := bind_eq_ok.1 h
  -- A caret is read if there is one.
  obtain ⟨r₁, negated, caret, hr₁, hnegated, hcaret, hspells, hsign⟩ :
      ∃ (r₁ : Reader) (negated : Bool) (caret : List Char),
        (if r.advanceSkip.peek? == some '^' then r.advanceSkip.advanceSkip else r.advanceSkip)
          = r₁ ∧ (r.advanceSkip.peek? == some '^') = negated ∧ r.Reads caret r₁ ∧
        Spells r.verbose caret ('[' :: if negated then ['^'] else []) ∧
        (negated = false → r₁.peek? ≠ some '^') := by
    by_cases hcaret : r.advanceSkip.peek? = some '^'
    · obtain ⟨blanks', hblanks', hnone'⟩ := exists_reads_advanceSkip hcaret
      rw [hblanks.verbose] at hnone'
      refine ⟨_, true, _, if_pos (beq_iff_eq.2 hcaret), beq_iff_eq.2 hcaret,
        hblanks.trans hblanks', ?_, nofun⟩
      exact ((Spells.refl _ ['[']).blanks hnone).append ((Spells.refl _ ['^']).blanks hnone')
    · refine ⟨_, false, _, if_neg (fun h => hcaret (beq_iff_eq.1 h)), beq_false_of_ne hcaret,
        hblanks, (Spells.refl _ ['[']).blanks hnone, fun _ => hcaret⟩
  dsimp only at hhyphens h
  rw [hr₁] at hhyphens
  obtain ⟨hyphens, hitems, hall, hend, hsame, piece, hpiece, hspells'⟩ :=
    leadingHyphens_reads hhyphens
  rw [hcaret.verbose] at hspells'
  have hread := hcaret.trans hpiece
  have hboth := hspells.append hspells'
  have hitems : g.items = hyphens.reverse := hitems.trans (List.append_nil _)
  split at h
  · rename_i hbracket
    obtain ⟨hempty, hclose⟩ := hbracket
    obtain ⟨blanks', hblanks', hnone'⟩ := exists_reads_advanceSkip hclose
    rw [hread.verbose] at hnone'
    have hnil : hyphens = [] := by simpa [hitems] using hempty
    split at h
    · cases h
    · simp only [Except.ok.injEq, Prod.mk.injEq] at h
      obtain ⟨rfl, rfl⟩ := h
      have hpush : (g.push (.literal ⟨r₂.charRegion, ']', .plain⟩)).items
          = [.literal ⟨r₂.charRegion, ']', .plain⟩] := by
        rw [Gathered.push, hitems, hnil]
        rfl
      refine ⟨⟨_, hread.trans hblanks', ?_⟩, .inl ⟨_, hpush, rfl⟩⟩
      rw [hpush, hnegated]
      rw [hnil, ClassSet.renderAll, List.append_nil] at hboth
      exact hboth.append ((Spells.refl _ [']']).blanks hnone')
  · rename_i hbracket
    simp only [Except.ok.injEq, Prod.mk.injEq] at h
    obtain ⟨rfl, rfl⟩ := h
    refine ⟨⟨_, hread, ?_⟩, .inr ⟨?_, hend, ?_⟩⟩
    · rw [hitems, hnegated, List.reverse_reverse]
      exact hboth
    · intro s hs
      rw [hitems, List.mem_reverse] at hs
      exact hall s hs
    · intro hnil
      have hnil' : hyphens = [] := by simpa [hitems] using hnil
      constructor
      · intro hclose
        exact hbracket ⟨by rw [hitems, hnil']; rfl, hclose⟩
      · intro hpos
        rw [hsame hnil']
        exact hsign (hnegated.symm.trans hpos)

/-! ## Sets that grow -/

theorem Gathered.isOperand_toSet {g : Gathered} (hitems : ∀ s ∈ g.items, s.isItem = true) :
    g.toSet.isOperand = true := by
  unfold toSet
  split
  · rfl
  · rename_i item heq
    have hitem := hitems item (by simp [heq])
    cases item with
    | combine => cases hitem
    | _ => rfl
  · rfl

theorem ClassSet.firstItems_of_isItem {s : ClassSet} (h : s.isItem = true) :
    s.firstItems = [s] := by
  cases s with
  | empty => cases h
  | union => cases h
  | combine => cases h
  | _ => rfl

theorem Gathered.firstItems_toSet {g : Gathered} (hitems : ∀ s ∈ g.items, s.isItem = true) :
    g.toSet.firstItems = g.items.reverse := by
  unfold toSet
  split
  · rename_i heq
    rw [heq]
    rfl
  · rename_i item heq
    rw [heq, ClassSet.firstItems_of_isItem (hitems item (by simp [heq]))]
    rfl
  · rfl

theorem Gathered.render_toSet {g : Gathered} (hitems : ∀ s ∈ g.items, s.isItem = true) :
    g.toSet.render = ClassSet.renderAll g.items.reverse := by
  rw [render_operand (isOperand_toSet hitems), firstItems_toSet hitems]

theorem Gathered.legible_toSet {g : Gathered} (hitems : ∀ s ∈ g.items, s.isItem = true)
    (heads : Nat) (rest : List Char) : g.toSet.legible false heads rest
      = ClassSet.legibleItems false heads g.items.reverse rest := by
  unfold toSet
  split
  · rename_i heq
    rw [heq]
    rfl
  · rename_i item heq
    rw [heq, List.reverse_singleton, ClassSet.legibleItems, ClassSet.legibleItems,
      ClassSet.renderAll, List.nil_append, hitems item (by simp [heq]), Bool.true_and,
      Bool.and_true]
  · rename_i hnil hone
    have hlength : 2 ≤ g.items.reverse.length := by
      rw [List.length_reverse]
      cases hcases : g.items with
      | nil => exact absurd hcases hnil
      | cons a as =>
        cases as with
        | nil => exact absurd hcases (hone a)
        | cons b bs => simp
    rw [ClassSet.legible, decide_eq_true hlength, Bool.true_and]

/-- An item that is legible by itself is legible where items may belong to the head. -/
theorem ClassSet.legible_mono {s : ClassSet} (hitem : s.isItem = true) {heads : Nat}
    {rest : List Char} (h : s.legible false 0 rest = true) : s.legible false heads rest = true := by
  cases s with
  | empty => cases hitem
  | union => cases hitem
  | combine => cases hitem
  | literal l =>
    simp only [legible, Nat.lt_irrefl, decide_false, Bool.false_or] at h
    rw [legible, h, Bool.or_true]
  | _ => exact h

theorem legibleItems_concat {heads : Nat} {items : List ClassSet} {s : ClassSet}
    {rest : List Char} (hitem : s.isItem = true) (hs : s.legible false 0 rest = true)
    (h : ClassSet.legibleItems false heads items (s.render ++ rest) = true) :
    ClassSet.legibleItems false heads (items ++ [s]) rest = true := by
  induction items generalizing heads with
  | nil =>
    rw [List.nil_append, ClassSet.legibleItems, ClassSet.legibleItems, ClassSet.renderAll,
      List.nil_append, hitem, ClassSet.legible_mono hitem hs]
    rfl
  | cons x items ih =>
    rw [ClassSet.legibleItems, Bool.and_eq_true] at h
    rw [List.cons_append, ClassSet.legibleItems, ih h.2, renderAll_append, ClassSet.renderAll,
      ClassSet.renderAll, List.append_nil, List.append_assoc, h.1]
    rfl

/-- Items of the head are legible whatever follows. -/
theorem legibleItems_head {heads : Nat} {items : List ClassSet} {rest : List Char}
    (h : ∀ s ∈ items, ∃ l, s = .literal l) (hle : items.length ≤ heads) :
    ClassSet.legibleItems false heads items rest = true := by
  induction items generalizing heads with
  | nil => rfl
  | cons s items ih =>
    obtain ⟨hs, hitems⟩ := List.forall_mem_cons.1 h
    obtain ⟨l, rfl⟩ := hs
    rw [List.length_cons] at hle
    rw [ClassSet.legibleItems, ih hitems (by omega), ClassSet.legible,
      decide_eq_true (show 0 < heads by omega)]
    rfl

/-- What a class is so far, and what one more item adds to it. -/
theorem combineWith_push (waiting : Option (ClassOp × ClassSet)) {g : Gathered} {s : ClassSet}
    (hitems : ∀ x ∈ g.items, x.isItem = true) (hitem : s.isItem = true) :
    (combineWith waiting (g.push s).toSet).render
        = (combineWith waiting g.toSet).render ++ s.render ∧
      (combineWith waiting g.toSet).firstItems <+: (combineWith waiting (g.push s).toSet).firstItems
      ∧ ∀ heads rest, s.legible false 0 rest = true →
        (combineWith waiting g.toSet).legible false heads (s.render ++ rest) = true →
        (combineWith waiting (g.push s).toSet).legible false heads rest = true := by
  have hpushed : ∀ x ∈ (g.push s).items, x.isItem = true := List.forall_mem_cons.2 ⟨hitem, hitems⟩
  have hreverse : (g.push s).items.reverse = g.items.reverse ++ [s] := List.reverse_cons
  have hrender : (g.push s).toSet.render = g.toSet.render ++ s.render := by
    rw [Gathered.render_toSet hpushed, hreverse, renderAll_append, Gathered.render_toSet hitems,
      ClassSet.renderAll, ClassSet.renderAll, List.append_nil]
  cases waiting with
  | none =>
    refine ⟨hrender, ?_, ?_⟩
    · simp only [combineWith]
      rw [Gathered.firstItems_toSet hpushed, hreverse, Gathered.firstItems_toSet hitems]
      exact List.prefix_append _ _
    · intro heads rest hs h
      simp only [combineWith] at h ⊢
      rw [Gathered.legible_toSet hitems] at h
      rw [Gathered.legible_toSet hpushed, hreverse]
      exact legibleItems_concat hitem hs h
  | some q =>
    obtain ⟨op, left⟩ := q
    refine ⟨?_, List.prefix_refl _, ?_⟩
    · simp only [combineWith, ClassSet.render, hrender, List.append_assoc]
    · intro heads rest hs h
      simp only [combineWith, ClassSet.legible, hrender, List.append_assoc, Bool.and_eq_true,
        Gathered.isOperand_toSet hitems, Gathered.isOperand_toSet hpushed, and_true] at h ⊢
      refine ⟨h.1, ?_⟩
      rw [Gathered.legible_toSet hitems] at h
      rw [Gathered.legible_toSet hpushed, hreverse]
      exact legibleItems_concat hitem hs h.2

/-- What an operator adds to a class. -/
theorem combineWith_op (op : ClassOp) (p : Place) (before : ClassSet) :
    (combineWith (some (op, before)) (Gathered.startAt p).toSet).render
        = before.render ++ op.render.toList ∧
      (combineWith (some (op, before)) (Gathered.startAt p).toSet).firstItems = before.firstItems
      ∧ ∀ heads rest, before.legible false heads (op.render.toList ++ rest) = true →
        (combineWith (some (op, before)) (Gathered.startAt p).toSet).legible false heads rest
          = true := by
  refine ⟨?_, rfl, ?_⟩
  · simp [combineWith, Gathered.startAt, Gathered.toSet, ClassSet.render]
  · intro heads rest h
    simp [combineWith, Gathered.startAt, Gathered.toSet, ClassSet.render, ClassSet.legible,
      ClassSet.isOperand, h]

/-! ## Bodies of classes -/

/-- **The rest of a class was read,** up to its end, behind what was read `before`: its piece
spells what was added, and where nothing is skipped the class is legible if it was so far. -/
structure ReadsSet (r : Reader) (before set : ClassSet) (r' : Reader) : Prop where
  closes : r'.peek? = some ']'
  firstItems : before.firstItems <+: set.firstItems
  reads : ∃ piece more, r.Reads piece r' ∧ Spells r.verbose piece more ∧
    set.render = before.render ++ more
  legible : r.verbose = false → ∀ heads,
    (∀ rest, StartsAlike r.text rest → before.legible false heads rest = true) →
    ∀ rest, StartsAlike r'.text rest → set.legible false heads rest = true

/-- **One more piece** in front of what was read. -/
theorem ReadsSet.step {before between set : ClassSet} {piece text : List Char}
    (hread : r.Reads piece r₁) (hspells : Spells r.verbose piece text)
    (hrender : between.render = before.render ++ text)
    (hfirst : before.firstItems <+: between.firstItems)
    (hlegible : r.verbose = false → ∀ heads rest, StartsAlike r₁.text rest →
      before.legible false heads (text ++ rest) = true → between.legible false heads rest = true)
    (h : ReadsSet r₁ between set r') : ReadsSet r before set r' := by
  obtain ⟨piece', more, hread', hspells', hset⟩ := h.reads
  rw [hread.verbose] at hspells'
  refine ⟨h.closes, hfirst.trans h.firstItems, ⟨_, _, hread.trans hread', hspells.append hspells',
    ?_⟩, ?_⟩
  · rw [hset, hrender, List.append_assoc]
  · intro hverbose heads hbefore
    apply h.legible (hread.verbose.trans hverbose) heads
    intro rest hrest
    apply hlegible hverbose heads rest hrest
    apply hbefore
    rw [hread.text]
    exact hrest.append (hspells hverbose)

/-- Blanks in front of it. -/
theorem ReadsSet.skip {before set : ClassSet} (h : ReadsSet r.skip before set r') :
    ReadsSet r before set r' := by
  obtain ⟨blanks, hblanks, hnone⟩ := r.exists_reads_skip
  refine .step hblanks ?_ (List.append_nil _).symm (List.prefix_refl _) ?_ h
  · intro hverbose
    rw [hnone hverbose]
  · intro _ heads rest _ hbefore
    exact hbefore

/-- One more item in front of it. -/
theorem ReadsSet.push {waiting : Option (ClassOp × ClassSet)} {g : Gathered} {s set : ClassSet}
    (hitems : ∀ x ∈ g.items, x.isItem = true) (hs : ReadsItem r s r₁)
    (h : ReadsSet r₁ (combineWith waiting (g.push s).toSet) set r') :
    ReadsSet r (combineWith waiting g.toSet) set r' := by
  obtain ⟨piece, hread, hspells⟩ := hs.reads
  obtain ⟨hrender, hfirst, hlegible⟩ := combineWith_push waiting hitems hs.isItem
  refine .step hread hspells hrender hfirst ?_ h
  intro hverbose heads rest hrest hbefore
  exact hlegible heads rest (hs.legible hverbose rest hrest) hbefore

/-- A hyphen by itself. -/
theorem ClassSet.render_of_isHyphen {s : ClassSet} (h : s.isHyphen = true) : s.render = ['-'] := by
  cases s with
  | literal l =>
    rw [isHyphen, Literal.isBare, Bool.and_eq_true, beq_iff_eq, beq_iff_eq] at h
    rw [render, Literal.render, h.1, h.2]
  | _ => cases h

/-- What is behind the items of the head begins with the first item that is not of it. -/
theorem ClassSet.renderFrom_start (heads : Nat) (s : ClassSet) :
    ∃ tail, s.renderFrom heads = ClassSet.renderAll (s.firstItems.drop heads) ++ tail := by
  induction s using ClassSet.chain_induction with
  | operand s hs => exact ⟨[], by rw [renderFrom_operand hs, List.append_nil]⟩
  | combine place op left right ih =>
    obtain ⟨tail, htail⟩ := ih
    refine ⟨tail ++ (op.render.toList ++ right.render), ?_⟩
    rw [renderFrom, htail, firstItems, List.append_assoc]

/-- **A head ends where it should** if what is written behind it is no part of it. -/
theorem ClassSet.endsHead_of {set : ClassSet} {items : List ClassSet} {negated : Bool}
    (hbegins : items <+: set.firstItems)
    (h : (∃ s, items = [s] ∧ s.isBracket = true) ∨
      (∀ s ∈ items, s.isHyphen = true) ∧
        (set.renderFrom items.length ++ [']']).head? ≠ some '-' ∧
        (items = [] → (set.renderFrom items.length ++ [']']).head? ≠ some ']' ∧
          (negated = false → (set.renderFrom items.length ++ [']']).head? ≠ some '^'))) :
    headCount set.firstItems = items.length ∧ set.endsHead negated = true := by
  obtain ⟨others, hothers⟩ := hbegins
  have hrender := set.render_head items.length
  rw [← hothers, List.take_left] at hrender
  rcases h with ⟨s, rfl, hs⟩ | ⟨hall, hhyphen, hnone⟩
  · have hbracket : set.firstItems.head?.any ClassSet.isBracket = true := by
      rw [← hothers]
      exact hs
    have hcount : headCount set.firstItems = 1 := by rw [headCount, if_pos hbracket]
    refine ⟨hcount, ?_⟩
    rw [ClassSet.renderAll, (ClassSet.eq_of_isBracket hs).1] at hrender
    simp [endsHead, hbracket, hcount, hrender]
  · obtain ⟨tail, htail⟩ := set.renderFrom_start items.length
    rw [← hothers, List.drop_left] at htail
    -- The first item behind the head is the first thing that is written there.
    have hfirst {s : ClassSet} {c : Char} (hs : others.head? = some s) (hc : s.render = [c]) :
        (set.renderFrom items.length ++ [']']).head? = some c := by
      obtain ⟨more, rfl⟩ := List.head?_eq_some_iff.1 hs
      rw [htail, ClassSet.renderAll, hc]
      rfl
    have hbracket : set.firstItems.head?.any ClassSet.isBracket = false := by
      rw [← hothers]
      cases items with
      | cons s items =>
        have hs := hall s List.mem_cons_self
        cases s with
        | literal l =>
          rw [ClassSet.isHyphen, Literal.isBare, Bool.and_eq_true, beq_iff_eq, beq_iff_eq] at hs
          simp [ClassSet.isBracket, Literal.isBare, hs.2]
        | _ => cases hs
      | nil =>
        cases hcases : others.head? with
        | none => rw [List.nil_append, hcases]; rfl
        | some s =>
          rw [List.nil_append, hcases, Option.any_some, Bool.eq_false_iff]
          intro hs
          exact (hnone rfl).1 (hfirst hcases (ClassSet.eq_of_isBracket hs).1)
    have hcount : headCount set.firstItems = items.length := by
      have hzero : others.takeWhile ClassSet.isHyphen = [] := by
        cases others with
        | nil => rfl
        | cons s others =>
          rw [List.takeWhile_cons_of_neg]
          intro hs
          exact hhyphen (hfirst rfl (ClassSet.render_of_isHyphen hs))
      rw [headCount, hbracket, if_neg Bool.false_ne_true, ← hothers,
        List.takeWhile_append_of_pos hall, hzero, List.append_nil]
    refine ⟨hcount, ?_⟩
    have hcaret : negated = true ∨ (set.render ++ [']']).head? ≠ some '^' := by
      cases negated with
      | true => exact .inl rfl
      | false =>
        right
        cases items with
        | nil =>
          rw [hrender]
          exact (hnone rfl).2 rfl
        | cons s items =>
          rw [hrender, ClassSet.renderAll, ClassSet.render_of_isHyphen (hall s List.mem_cons_self)]
          exact fun h => absurd (Option.some.inj h) (by decide)
    have hlast : items.length ≠ 0 ∨ (set.renderFrom items.length ++ [']']).head? ≠ some ']' := by
      cases items with
      | nil => exact .inr (hnone rfl).1
      | cons s items => exact .inl (Nat.succ_ne_zero _)
    simp only [endsHead, hcount, hbracket, Bool.false_or, Bool.and_eq_true, Bool.or_eq_true,
      bne_iff_ne]
    exact ⟨⟨hcaret, hhyphen⟩, hlast⟩

theorem ReadsHead.isItem {head : ClassHead} (h : ReadsHead r head r₁) :
    ∀ s ∈ head.gathered.items, s.isItem = true ∧ ∃ l, s = .literal l := by
  have hliteral {s : ClassSet} (hs : s.isHyphen = true ∨ s.isBracket = true) :
      s.isItem = true ∧ ∃ l, s = .literal l := by
    cases s with
    | literal l => exact ⟨rfl, l, rfl⟩
    | _ => rcases hs with hs | hs <;> cases hs
  intro s hs
  rcases h.items with ⟨s', hitems, hbracket⟩ | ⟨hall, _, _⟩
  · rw [hitems, List.mem_singleton] at hs
    rw [hs]
    exact hliteral (.inr hbracket)
  · exact hliteral (.inl (hall s hs))

/-- **A class was read:** its piece spells what is written for it, and where nothing is skipped it
is legible. -/
theorem ReadsHead.class {head : ClassHead} {set : ClassSet} (hhead : ReadsHead r head r₁)
    (h : ReadsSet r₁ head.gathered.toSet set r') :
    (∃ piece, r.Reads piece r'.advance ∧
      Spells r.verbose piece (inBrackets head.negated set.render)) ∧
    (r.verbose = false → set.endsHead head.negated = true ∧
      set.legible false (headCount set.firstItems) [']'] = true) := by
  obtain ⟨piece, hread, hspells⟩ := hhead.reads
  obtain ⟨piece', more, hread', hspells', hset⟩ := h.reads
  rw [hread.verbose] at hspells'
  have hitems : ∀ s ∈ head.gathered.items, s.isItem = true := fun s hs => (hhead.isItem s hs).1
  rw [Gathered.render_toSet hitems] at hset
  refine ⟨⟨_, (hread.trans hread').trans (.advance h.closes), ?_⟩, ?_⟩
  · have hall := (hspells.append hspells').append (Spells.refl r.verbose [']'])
    rw [inBrackets, hset]
    simpa using hall
  · intro hverbose
    have hbegins := h.firstItems
    rw [Gathered.firstItems_toSet hitems] at hbegins
    -- What is written behind the head is what was read there.
    have hmore : set.renderFrom head.gathered.items.reverse.length = more := by
      have hhead := set.render_head head.gathered.items.reverse.length
      rw [← List.prefix_iff_eq_take.1 hbegins, hset] at hhead
      exact (List.append_cancel_left hhead).symm
    have hclose : StartsAlike r'.text [']'] := by
      rw [text_of_peek? h.closes]
      exact ⟨rfl, fun h => absurd (Option.some.inj h) (by decide)⟩
    have hnext : r₁.peek? = (set.renderFrom head.gathered.items.reverse.length ++ [']']).head? := by
      rw [peek?_eq, hread'.text, hmore]
      exact (hclose.append (hspells' hverbose)).first
    obtain ⟨hcount, hends⟩ : headCount set.firstItems = head.gathered.items.reverse.length ∧
        set.endsHead head.negated = true := by
      apply ClassSet.endsHead_of hbegins
      rw [← hnext]
      rcases hhead.items with ⟨s, hs, hbracket⟩ | ⟨hall, hhyphen, hnone⟩
      · exact .inl ⟨s, by rw [hs]; rfl, hbracket⟩
      · refine .inr ⟨?_, hhyphen, ?_⟩
        · intro s hs
          exact hall s (List.mem_reverse.1 hs)
        · intro hnil
          exact hnone (List.reverse_eq_nil_iff.1 hnil)
    refine ⟨hends, ?_⟩
    apply h.legible (hread.verbose.trans hverbose) _ _ _ hclose
    intro rest _
    rw [Gathered.legible_toSet hitems]
    apply legibleItems_head
    · intro s hs
      exact (hhead.isItem s (List.mem_reverse.1 hs)).2
    · rw [hcount]

/-- **What is written for a class** is not taken for a class with a name if what was read was not. -/
theorem beginsNamed_eq_false {piece text : List Char} (hread : r.Reads piece r')
    (hspells : upToBack piece = upToBack text) (h : namedClass? r = none) :
    beginsNamed text = false := by
  have hback (k : NamedClass) (negated : Bool) : '\\' ∉ k.render negated := by
    cases k <;> cases negated <;> decide
  have hnone (k : NamedClass) (negated : Bool) : ¬k.render negated <+: text := by
    intro hbegins
    obtain ⟨more, hmore⟩ := prefix_of_upToBack (hback k negated) hspells.symm hbegins
    have hat : r.At r.verbose (k.render negated ++ (more ++ r'.text)) := by
      refine ⟨rfl, ?_⟩
      rw [← List.append_assoc, hmore]
      exact hread.text
    obtain ⟨region, hnamed⟩ := NamedClass.read hat
    rw [hnamed] at h
    cases h
  rw [beginsNamed, List.any_eq_false]
  intro k _
  simp only [Bool.or_eq_true, List.isPrefixOf_iff_prefix, not_or]
  exact ⟨hnone k false, hnone k true⟩

/-- **The rest of a class, read** round by round. -/
theorem classBody_reads {rounds : Nat} {head : Region} {g : Gathered}
    {waiting : Option (ClassOp × ClassSet)} {set : ClassSet}
    (hitems : ∀ s ∈ g.items, s.isItem = true)
    (h : classBody head rounds r g waiting = .ok (set, r')) :
    ReadsSet r (combineWith waiting g.toSet) set r' := by
  induction rounds generalizing head r g waiting set r' with
  | zero => cases h
  | succ rounds ih =>
    refine .skip ?_
    rw [classBody] at h
    dsimp only at h
    have hpush {s : ClassSet} (hs : s.isItem = true) : ∀ x ∈ (g.push s).items, x.isItem = true :=
      List.forall_mem_cons.2 ⟨hs, hitems⟩
    split at h
    · cases h
    · rename_i hpeek
      split at h
      · rename_i item r₁ hnamed
        have hitem := namedClass?_reads hnamed
        exact .push hitems hitem (ih (hpush hitem.isItem) h)
      · rename_i hnamed
        obtain ⟨⟨inner, r₁⟩, hinner, h⟩ := bind_eq_ok.1 h
        obtain ⟨⟨sub, r₂⟩, hsub, h⟩ := bind_eq_ok.1 h
        have hhead := classHead_reads hpeek hinner
        have hbody := ih (fun s hs => (hhead.isItem s hs).1) hsub
        obtain ⟨⟨piece, hread, hspells⟩, hlegible⟩ := hhead.class hbody
        refine .push hitems (s := .bracketed ⟨r.skip.place, r₂.advance.place⟩ inner.negated sub)
          ⟨rfl, ⟨piece, hread, hspells⟩, ?_⟩ (ih (hpush rfl) h)
        intro hverbose rest _
        obtain ⟨hends, hset⟩ := hlegible hverbose
        have hname := beginsNamed_eq_false hread (hspells hverbose) hnamed
        simp [ClassSet.legible, hends, hname, hset]
    · rename_i hpeek
      simp only [Except.ok.injEq, Prod.mk.injEq] at h
      obtain ⟨rfl, rfl⟩ := h
      exact ⟨hpeek, List.prefix_refl _, ⟨[], [], .refl _, .refl _ _, (List.append_nil _).symm⟩,
        fun _ _ hbefore => hbefore⟩
    · rename_i c hopen hclose hpeek
      split at h
      · rename_i op r₁ hop
        obtain ⟨hrender, hfirst, hlegible⟩ :=
          combineWith_op op r₁.place (combineWith waiting g.toSet)
        refine .step (classOp?_reads hop) (.refl _ _) hrender ?_ ?_ (ih (List.forall_mem_nil _) h)
        · simp only [hfirst, List.prefix_refl]
        · intro _ heads rest _ hbefore
          exact hlegible heads rest hbefore
      · rename_i hop
        obtain ⟨⟨item, r₁⟩, hitem, h⟩ := bind_eq_ok.1 h
        have hitem := classItem_reads hpeek (fun h => hopen h) (fun h => hclose h) hop hitem
        exact .push hitems hitem (ih (hpush hitem.isItem) h)

/-- **A bracketed class that was read is legible** where nothing is skipped. -/
theorem bracketedClass_reads {item : Pattern} (hpeek : r.peek? = some '[')
    (h : bracketedClass r = .ok (item, r')) :
    (∃ piece, r.Reads piece r') ∧ ∃ region negated set, item = .bracketed region negated set ∧
      (r.verbose = false → set.endsHead negated = true ∧
        set.legible false (headCount set.firstItems) [']'] = true) := by
  unfold bracketedClass at h
  obtain ⟨⟨head, r₁⟩, hhead, h⟩ := bind_eq_ok.1 h
  obtain ⟨⟨set, r₂⟩, hset, h⟩ := bind_eq_ok.1 h
  cases h
  have hhead := classHead_reads hpeek hhead
  have hbody := classBody_reads (fun s hs => (hhead.isItem s hs).1) hset
  obtain ⟨⟨piece, hread, _⟩, hlegible⟩ := hhead.class hbody
  exact ⟨⟨piece, hread⟩, _, _, _, rfl, hlegible⟩

end StatefulLexer.Regex
