/-
Reading the items of a class.

In a class the same characters mean different things at different places. A hyphen is the
sign of a range, of a difference, or a character, so it matters what is written behind an
item, and an opening bracket may begin a class with a name.

Main statements: `classItem_atom`, `classItem_range`, `NamedClass.read`.
-/
import StatefulLexer.Proofs.Regex.Reading.Atom
import StatefulLexer.Regex.Parser.Class

set_option autoImplicit false

namespace StatefulLexer.Regex

/-! ## Literals -/

/-- The literal is the character by itself. -/
def Literal.isBare (l : Literal) (c : Char) : Bool := l.spelling == .plain && l.char == c

/-- A literal that is read back inside of a class, where it is read as one at all. -/
def Literal.readable (verbose : Bool) (l : Literal) : Bool :=
  l.escapes || (l.spelling == .plain && l.char != '\\' && !isSkipped verbose l.char)

/-- An atom that is read back inside of a class. -/
def Atom.readable (verbose : Bool) : Atom → Bool
  | .literal l => l.readable verbose
  | a => a.escapes verbose

/-- A readable literal stands behind a backslash or for itself. -/
theorem Literal.readable_cases {verbose : Bool} {l : Literal} (h : l.readable verbose = true) :
    l.escapes = true ∨ l.render = [l.char] ∧ l.spelling = .plain ∧ l.char ≠ '\\' ∧
      isSkipped verbose l.char = false := by
  rw [readable, Bool.or_eq_true, Bool.and_eq_true, Bool.and_eq_true, beq_iff_eq, bne_iff_ne,
    Bool.not_eq_true'] at h
  refine h.imp_right fun ⟨⟨hplain, hback⟩, hseen⟩ => ⟨?_, hplain, hback, hseen⟩
  rw [render, hplain]

/-- **An atom inside of a class is read back.** -/
theorem Atom.read_inClass {a : Atom} {verbose : Bool} (ha : a.readable verbose = true) {r : Reader}
    {rest : List Char} (h : r.At verbose (a.render ++ rest)) (hrest : Visible verbose rest) :
    ∃ a' : Atom, classAtom r = .ok (a', r.behind a.render.length) ∧ a'.unplaced = a.unplaced := by
  have escaped (ha : a.escapes verbose = true) :
      ∃ a' : Atom, classAtom r = .ok (a', r.behind a.render.length) ∧ a'.unplaced = a.unplaced := by
    obtain ⟨c, tail, htext⟩ := a.render_of_escapes ha
    have hpeek : r.peek? = some '\\' := by
      rw [h.peek?, htext]
      rfl
    obtain ⟨a', hread, hsame⟩ := a.read_escape ha h hrest
    refine ⟨a', ?_, hsame⟩
    rw [classAtom, hpeek]
    exact hread
  cases a with
  | literal l =>
    rcases Literal.readable_cases ha with hl | ⟨htext, hplain, hback, _⟩
    · exact escaped hl
    · have hat : r.At verbose (l.char :: rest) := by
        have hrender : (Atom.literal l).render = [l.char] := htext
        rw [hrender] at h
        exact h
      have hpeek : r.peek? = some l.char := hat.peek?
      refine ⟨.literal ⟨r.charRegion, l.char, .plain⟩, ?_, ?_⟩
      · rw [classAtom, hpeek]
        split
        · rename_i heq
          exact absurd (Option.some.inj heq) hback
        · rename_i heq
          rw [Reader.advance_eq, ← Option.some.inj heq]
          show _ = Except.ok (_, r.behind l.render.length)
          rw [htext]
          rfl
        · rename_i heq
          cases heq
      · rw [Atom.unplaced, Atom.unplaced, Literal.unplaced, Literal.unplaced, hplain]
  | property place negated query => exact escaped ha
  | short place negated kind => exact escaped ha
  | dot place => cases ha
  | assertion place kind => cases ha

/-- What a readable atom begins with is seen. -/
theorem Atom.visible_of_readable {a : Atom} {verbose : Bool} (ha : a.readable verbose = true)
    (rest : List Char) : Visible verbose (a.render ++ rest) := by
  have escaped (ha : a.escapes verbose = true) : Visible verbose (a.render ++ rest) := by
    obtain ⟨c, tail, htext⟩ := a.render_of_escapes ha
    rw [htext]
    exact visible_cons.2 (isSkipped_of_seen (by decide) (by decide))
  cases a with
  | literal l =>
    rcases Literal.readable_cases ha with hl | ⟨htext, _, _, hseen⟩
    · exact escaped hl
    · have hrender : (Atom.literal l).render = [l.char] := htext
      rw [hrender]
      exact visible_cons.2 hseen
  | property place negated query => exact escaped ha
  | short place negated kind => exact escaped ha
  | dot place => cases ha
  | assertion place kind => cases ha

/-! ## Operators and ranges -/

/-- The text begins with an operator between sets. -/
def beginsWithOp : List Char → Bool
  | c :: d :: _ => c == d && (c == '&' || c == '-' || c == '~')
  | _ => false

/-- The text begins with the sign of a range: a hyphen that is neither the last character of
a class nor the sign of a difference. -/
def beginsRange : List Char → Bool
  | '-' :: rest => rest.head? != some ']' && rest.head? != some '-'
  | _ => false

/-- There is no operator at a reader whose text begins with none. -/
theorem classOp?_eq_none {r : Reader} {verbose : Bool} {text : List Char} (h : r.At verbose text)
    (htext : beginsWithOp text = false) : classOp? r = none := by
  rw [classOp?, h.peek?, h.peekSecond?]
  split
  · rename_i hfirst hsecond
    obtain ⟨tail, rfl⟩ := List.head?_eq_some_iff.1 hfirst
    obtain ⟨tail', rfl⟩ := List.head?_eq_some_iff.1 hsecond
    cases htext
  · rename_i hfirst hsecond
    obtain ⟨tail, rfl⟩ := List.head?_eq_some_iff.1 hfirst
    obtain ⟨tail', rfl⟩ := List.head?_eq_some_iff.1 hsecond
    cases htext
  · rename_i hfirst hsecond
    obtain ⟨tail, rfl⟩ := List.head?_eq_some_iff.1 hfirst
    obtain ⟨tail', rfl⟩ := List.head?_eq_some_iff.1 hsecond
    cases htext
  · rfl

/-- An operator is read back. -/
theorem classOp?_read {r : Reader} {verbose : Bool} {op : ClassOp} {rest : List Char}
    (h : r.At verbose (op.render.toList ++ rest)) : classOp? r = some (op, r.behind 2) := by
  have htwo : r.advance.advance = r.behind 2 := by
    rw [Reader.advance_eq, Reader.advance_eq, Reader.behind_behind]
  cases op with
  | inter =>
    have hfirst : r.peek? = some '&' := h.peek?
    have hsecond : r.peekSecond? = some '&' := h.peekSecond?
    rw [classOp?, hfirst, hsecond, htwo]
    rfl
  | diff =>
    have hfirst : r.peek? = some '-' := h.peek?
    have hsecond : r.peekSecond? = some '-' := h.peekSecond?
    rw [classOp?, hfirst, hsecond, htwo]
    rfl
  | symmDiff =>
    have hfirst : r.peek? = some '~' := h.peek?
    have hsecond : r.peekSecond? = some '~' := h.peekSecond?
    rw [classOp?, hfirst, hsecond, htwo]
    rfl

/-- The character behind the next one decides about a hyphen, if nothing is skipped in front
of it. -/
theorem Reader.At.peekBehind? {r : Reader} {verbose : Bool} {c : Char} {text : List Char}
    (h : r.At verbose (c :: text)) (hvisible : Visible verbose text) :
    r.peekBehind? = text.head? := by
  have htail : (r.rest.tail.map Prod.fst).head? = text.head? := by
    rw [List.map_tail, h.rest]
    rfl
  rw [List.head?_map] at htail
  rw [Reader.peekBehind?]
  split
  · rename_i hverbose
    have hv : verbose = true := h.verbose ▸ hverbose
    cases hrest : r.rest.tail with
    | nil =>
      rw [hrest] at htail
      exact htail
    | cons x xs =>
      obtain ⟨d, p⟩ := x
      rw [hrest] at htail
      have hd : isSkipped verbose d = false := hvisible d htail.symm
      rw [isSkipped, hv, Bool.true_and, Bool.or_eq_false_iff] at hd
      rw [Reader.dropToVisible, hd.1, hd.2]
      exact htail
  · exact htail

/-! ## Items -/

/-- An item of one atom is read back, if what follows is not the sign of a range. -/
theorem classItem_atom {a : Atom} {s : ClassSet} {verbose : Bool} (ha : a.readable verbose = true)
    (hset : ∀ a' : Atom, a'.unplaced = a.unplaced →
      ∃ s', a'.toClassSet = .ok s' ∧ s'.unplaced = s.unplaced) {r : Reader} {rest : List Char}
    (h : r.At verbose (a.render ++ rest)) (hrest : Visible verbose rest) (hne : rest ≠ [])
    (hrange : beginsRange rest = false) (hbehind : ∀ c tail, rest = c :: tail → c = '-' →
      Visible verbose tail) (head : Region) :
    ∃ s', classItem head r = .ok (s', r.behind a.render.length) ∧ s'.unplaced = s.unplaced := by
  obtain ⟨a', hread, hsame⟩ := a.read_inClass ha h hrest
  obtain ⟨s', hs', hsame'⟩ := hset a' hsame
  obtain ⟨c, tail, rfl⟩ := List.exists_cons_of_ne_nil hne
  have hat := h.past
  have hpeek : (r.behind a.render.length).peek? = some c := hat.peek?
  refine ⟨s', ?_, hsame'⟩
  rw [classItem, hread, ok_bind]
  dsimp only
  rw [hat.skip hrest, hpeek]
  dsimp only
  -- A hyphen is not the sign of a range here.
  have hcond : c ≠ '-' ∨ (r.behind a.render.length).peekBehind? = some ']' ∨
      (r.behind a.render.length).peekBehind? = some '-' := by
    by_cases hc : c = '-'
    · have hpeekBehind := hat.peekBehind? (hbehind c tail rfl hc)
      rw [hc, beginsRange, Bool.and_eq_false_iff, bne_eq_false_iff_eq, bne_eq_false_iff_eq] at hrange
      rw [hpeekBehind]
      exact .inr hrange
    · exact .inl hc
  rw [if_pos hcond, hs']
  rfl

/-- **A range is read back.** -/
theorem classItem_range {first last : Literal} {verbose : Bool}
    (hfirst : first.readable verbose = true) (hlast : last.readable verbose = true)
    (hle : first.char ≤ last.char)
    (hend : last.isBare ']' = false ∧ last.isBare '-' = false)
    {r : Reader} {rest : List Char}
    (h : r.At verbose (first.render ++ '-' :: (last.render ++ rest))) (hrest : Visible verbose rest)
    (head place : Region) :
    ∃ s', classItem head r = .ok (s', r.behind (first.render ++ '-' :: last.render).length) ∧
      s'.unplaced = (ClassSet.range place first last).unplaced := by
  have hhyphen : Visible verbose ('-' :: (last.render ++ rest)) :=
    visible_cons.2 (isSkipped_of_seen (by decide) (by decide))
  have hvisible : Visible verbose (last.render ++ rest) :=
    (Atom.literal last).visible_of_readable hlast rest
  obtain ⟨a, hread, hsame⟩ := (Atom.literal first).read_inClass hfirst h hhyphen
  have hat := h.past
  have hpeek : (r.behind first.render.length).peek? = some '-' := hat.peek?
  have hpeekBehind := hat.peekBehind? hvisible
  obtain ⟨b, hread', hsame'⟩ := (Atom.literal last).read_inClass hlast hat.next hrest
  -- The atoms are the two literals.
  obtain ⟨first', rfl⟩ : ∃ l, a = .literal l := by cases a <;> first | exact ⟨_, rfl⟩ | cases hsame
  obtain ⟨last', rfl⟩ : ∃ l, b = .literal l := by cases b <;> first | exact ⟨_, rfl⟩ | cases hsame'
  have hfirst' : first'.unplaced = first.unplaced := Atom.literal.inj hsame
  have hlast' : last'.unplaced = last.unplaced := Atom.literal.inj hsame'
  have hchar : first'.unplaced.char = first.unplaced.char := by rw [hfirst']
  have hchar' : last'.unplaced.char = last.unplaced.char := by rw [hlast']
  have hread : classAtom r = .ok (.literal first', r.behind first.render.length) := hread
  have hread' : classAtom ((r.behind first.render.length).behind 1)
      = .ok (.literal last', ((r.behind first.render.length).behind 1).behind last.render.length) :=
    hread'
  -- The end of a range begins with a character that a hyphen does not stand for itself before.
  obtain ⟨d, tail, htext⟩ : ∃ d tail, last.render = d :: tail ∧ d ≠ ']' ∧ d ≠ '-' := by
    rcases Literal.readable_cases hlast with hl | ⟨htext, hplain, _, _⟩
    · have hatom : (Atom.literal last).escapes verbose = true := hl
      obtain ⟨c, tail, htext⟩ := (Atom.literal last).render_of_escapes hatom
      exact ⟨'\\', c :: tail, htext, by decide, by decide⟩
    · rw [Literal.isBare, Literal.isBare, hplain, beq_self_eq_true, Bool.true_and, Bool.true_and,
        beq_eq_false_iff_ne, beq_eq_false_iff_ne] at hend
      exact ⟨last.char, [], htext, hend⟩
  obtain ⟨hlast, hd⟩ := htext
  have hnot : ¬('-' ≠ '-' ∨ (r.behind first.render.length).peekBehind? = some ']' ∨
      (r.behind first.render.length).peekBehind? = some '-') := by
    rw [hpeekBehind, hlast]
    rintro (hne | heq | heq)
    · exact hne rfl
    · exact hd.1 (Option.some.inj heq)
    · exact hd.2 (Option.some.inj heq)
  have hsome : ((r.behind first.render.length).behind 1).peek?.isNone = false := by
    rw [hat.next.peek?, hlast]
    rfl
  have hlength : first.render.length + (1 + last.render.length)
      = (first.render ++ '-' :: last.render).length := by
    rw [List.length_append, List.length_cons]
    omega
  refine ⟨.range ⟨first'.region.start, last'.region.stop⟩ first' last', ?_, ?_⟩
  · rw [classItem, hread, ok_bind]
    dsimp only
    rw [hat.skip hhyphen, hpeek]
    dsimp only
    rw [if_neg hnot, hat.advanceSkip hvisible, hsome, if_neg Bool.false_ne_true, hread']
    show (if first'.char ≤ last'.char then _ else _) = _
    have hle' : first'.char ≤ last'.char := by
      rw [Literal.unplaced, Literal.unplaced] at hchar hchar'
      rw [hchar, hchar']
      exact hle
    rw [if_pos hle', Reader.behind_behind, Reader.behind_behind]
    exact congrArg (fun n => Except.ok (_, r.behind n)) hlength
  · rw [ClassSet.unplaced, ClassSet.unplaced, hfirst', hlast']

/-! ## Classes with a name -/

/-- A name has neither a colon nor a caret in it, and is the name of its class. -/
theorem NamedClass.name_spec (k : NamedClass) :
    (∀ c ∈ k.name.toList, c ≠ ':' ∧ c ≠ '^' ∧ c ≠ ']') ∧ NamedClass.ofName? k.name.toList = some k := by
  have hlower : k.name.toList.all Char.isLower = true := by cases k <;> rfl
  refine ⟨fun c hc => ?_, by cases k <;> rfl⟩
  have hc := List.all_eq_true.1 hlower c hc
  refine ⟨?_, ?_, ?_⟩
  · rintro rfl
    cases hc
  · rintro rfl
    cases hc
  · rintro rfl
    cases hc

/-- The text of a class with a name. -/
theorem NamedClass.render_eq (negated : Bool) (k : NamedClass) : k.render negated
    = '[' :: ':' :: ((if negated then ['^'] else []) ++ (k.name.toList ++ [':', ']'])) := by
  rw [render, List.append_assoc, List.append_assoc]
  rfl

/-- **A class with a name is read back.** -/
theorem NamedClass.read {k : NamedClass} {negated : Bool} {r : Reader} {verbose : Bool}
    {rest : List Char} (h : r.At verbose (k.render negated ++ rest)) :
    ∃ region, namedClass? r
      = some (.named region negated k, r.behind (k.render negated).length) := by
  obtain ⟨hname, hkind⟩ := k.name_spec
  -- What is left behind the colon, and behind the caret if there is one.
  have hbody : r.At verbose ("[:".toList ++ ((if negated then ['^'] else []) ++
      ((k.name.toList ++ [':', ']']) ++ rest))) := by
    rw [NamedClass.render_eq, List.cons_append, List.cons_append, List.append_assoc] at h
    exact h
  have hopen : r.after? ['[', ':'] = some (r.behind 2) := hbody.after?_append
  have h₂ : (r.behind 2).At verbose ((if negated then ['^'] else []) ++
      ((k.name.toList ++ [':', ']']) ++ rest)) := hbody.past
  have hpeek : ((r.behind 2).peek? == some '^') = negated := by
    rw [h₂.peek?]
    cases negated with
    | true => rfl
    | false =>
      cases hcases : k.name.toList with
      | nil => rfl
      | cons c name =>
        have hc := (hname c (hcases ▸ List.mem_cons_self)).2.1
        exact beq_false_of_ne fun heq => hc (Option.some.inj heq)
  have h₃ : (if negated = true then (r.behind 2).advance else r.behind 2).At verbose
      ((k.name.toList ++ [':', ']']) ++ rest) := by
    cases negated with
    | true =>
      rw [if_pos rfl, Reader.advance_eq]
      exact h₂.next
    | false => exact h₂
  have htake : ((if negated = true then (r.behind 2).advance else r.behind 2).rest.map
      Prod.fst).takeWhile (· ≠ ':') = k.name.toList := by
    rw [h₃.rest, List.append_assoc, List.takeWhile_append_of_pos]
    · exact List.append_nil _
    · exact fun c hc => decide_eq_true (hname c hc).1
  refine ⟨⟨r.place, ((if negated = true then (r.behind 2).advance else r.behind 2).behind
    (k.name.toList ++ [':', ']']).length).place⟩, ?_⟩
  rw [namedClass?, hopen]
  dsimp only [Option.bind_eq_bind, Option.bind_some]
  rw [hpeek, htake, h₃.after?_append]
  dsimp only [Option.bind_some]
  rw [hkind]
  dsimp only [Option.bind_some]
  refine congrArg some (Prod.ext rfl ?_)
  have hlength : (k.render negated).length
      = 2 + (if negated then 1 else 0) + (k.name.toList.length + 2) := by
    rw [NamedClass.render_eq]
    cases negated <;> simp only [List.length_cons, List.length_append, List.length_nil, if_true,
      if_false, Bool.false_eq_true] <;> omega
  rw [hlength]
  cases negated with
  | true =>
    dsimp only
    rw [if_pos rfl, Reader.advance_eq, Reader.behind_behind, Reader.behind_behind,
      List.length_append]
    exact congrArg r.behind (by rw [if_pos rfl, List.length_cons, List.length_cons, List.length_nil]; omega)
  | false =>
    dsimp only
    rw [if_neg Bool.false_ne_true, Reader.behind_behind, List.length_append]
    rfl

/-- The text begins with a class with a name. -/
def beginsNamed (text : List Char) : Bool :=
  NamedClass.every.any fun k => (k.render false).isPrefixOf text || (k.render true).isPrefixOf text

/-- The class of a name has that name. -/
theorem NamedClass.name_of_ofName? {name : List Char} {k : NamedClass}
    (h : NamedClass.ofName? name = some k) : k.name.toList = name := by
  have hname := List.find?_some h
  exact beq_iff_eq.1 hname

/-- What is read as a class with a name is one. -/
theorem namedClass?_sound {r : Reader} {verbose : Bool} {text : List Char} (h : r.At verbose text)
    {found : ClassSet × Reader} (hfound : namedClass? r = some found) :
    ∃ (k : NamedClass) (negated : Bool), k.render negated <+: text := by
  rw [namedClass?] at hfound
  obtain ⟨r₁, hopen, hfound⟩ := Option.bind_eq_some_iff.1 hfound
  obtain ⟨r₂, hclose, hfound⟩ := Option.bind_eq_some_iff.1 hfound
  obtain ⟨k, hkind, _⟩ := Option.bind_eq_some_iff.1 hfound
  obtain ⟨hr₁, htext⟩ := h.eq_of_after? hopen
  have hr₁ : r₁ = r.behind 2 := hr₁
  have htext : text = '[' :: ':' :: text.drop 2 := htext
  have h₂ := h.behind 2
  have hname := NamedClass.name_of_ofName? hkind
  rw [hr₁] at hname hclose
  rw [← hname] at hclose
  rw [htext]
  by_cases hcaret : ((r.behind 2).peek? == some '^') = true
  · rw [if_pos hcaret, Reader.advance_eq] at hclose
    obtain ⟨rest, hrest⟩ := List.head?_eq_some_iff.1 (h₂.peek?.symm.trans (beq_iff_eq.1 hcaret))
    rw [hrest] at h₂ ⊢
    refine ⟨k, true, ?_⟩
    rw [(h₂.next.eq_of_after? hclose).2, NamedClass.render_eq]
    exact ⟨_, rfl⟩
  · rw [if_neg hcaret] at hclose
    refine ⟨k, false, ?_⟩
    rw [(h₂.eq_of_after? hclose).2, NamedClass.render_eq]
    exact ⟨_, rfl⟩

end StatefulLexer.Regex
