/-
Reading characters, escapes and assertions.

An atom is read back from its text if the text says what the atom is: the letter behind the
backslash has to be one that is read that way, the code has to fit its digits, and a property
has to be asked for by a name that is not taken apart differently.

Main statements: `Atom.read_escape`, `Assertion.read`.
-/
import StatefulLexer.Proofs.Regex.Reading

set_option autoImplicit false

namespace StatefulLexer.Regex

/-! ## Atoms without places -/

/-- The atom without its place. -/
def Atom.unplaced : Atom → Atom
  | literal l => .literal l.unplaced
  | dot _ => .dot .nowhere
  | assertion _ kind => .assertion .nowhere kind
  | property _ negated query => .property .nowhere negated query
  | short _ negated kind => .short .nowhere negated kind

/-- The text of an atom. -/
def Atom.render : Atom → List Char
  | literal l => l.render
  | dot _ => ['.']
  | assertion _ kind => kind.render.toList
  | property _ negated query => query.render negated
  | short _ negated kind => kind.render negated

/-! ## Backslashes -/

/-- The letter behind a backslash begins neither a number nor a name. -/
def isLoneLetter (c : Char) : Bool :=
  !c.isDigit && (hexLetterOf? c).isNone && c != 'p' && c != 'P'

/-- What a backslash and a lone letter are. -/
theorem escape_lone {r : Reader} {verbose : Bool} {c : Char} {rest : List Char}
    (h : r.At verbose ('\\' :: c :: rest)) (hc : isLoneLetter c = true) :
    escape r =
      let region : Region := ⟨r.place, (r.behind 2).place⟩
      if let some (negated, kind) := shortOf? c then .ok (.short region negated kind, r.behind 2)
      else if isEscapable c then .ok (.literal ⟨region, c, .escaped⟩, r.behind 2)
      else if let some control := controlOf? c then
        .ok (.literal ⟨region, control, .control c⟩, r.behind 2)
      else
        match assertionOf? c with
        | none => fault .escapeUnrecognized region
        | some kind =>
          if c = 'b' ∧ (r.behind 2).peek? = some '{' then do
            match ← namedBoundary? r.place (r.behind 2) with
            | some (named, r') => .ok (.assertion ⟨r.place, r'.place⟩ named, r')
            | none => .ok (.assertion region kind, r.behind 2)
          else .ok (.assertion region kind, r.behind 2) := by
  rw [isLoneLetter, Bool.and_eq_true, Bool.and_eq_true, Bool.and_eq_true, Bool.not_eq_true',
    bne_iff_ne, bne_iff_ne, Option.isNone_iff_eq_none] at hc
  obtain ⟨⟨⟨hdigit, hhex⟩, hp⟩, hP⟩ := hc
  have hpeek : (r.behind 1).peek? = some c := h.next.peek?
  have htwo : (r.behind 1).advance = r.behind 2 := by
    rw [Reader.advance_eq, Reader.behind_behind]
  have hnot : ¬(c = 'p' ∨ c = 'P') := fun h => h.elim hp hP
  rw [escape, Reader.advance_eq]
  dsimp only
  rw [hpeek]
  dsimp only
  rw [htwo, hdigit, if_neg Bool.false_ne_true, hhex]
  dsimp only
  exact if_neg hnot

/-! ## Literals -/

/-- A literal that stands behind a backslash and is read back. -/
def Literal.escapes (l : Literal) : Bool :=
  match l.spelling with
  | .plain => false
  | .escaped => isEscapable l.char
  | .hex letter => decide (l.char.toNat < 16 ^ letter.digits)
  | .hexBraced _ => true
  | .control letter => controlOf? letter == some l.char

/-- What a backslash makes stand for itself is neither a digit nor a letter. -/
theorem lone_of_isEscapable {c : Char} (h : isEscapable c = true) :
    isLoneLetter c = true ∧ shortOf? c = none := by
  have hne {d : Char} (hd : isEscapable d = false) : c ≠ d := by
    rintro rfl
    rw [h] at hd
    cases hd
  have hdigit : c.isDigit = false := by
    rw [isEscapable, Bool.and_eq_true, Bool.and_eq_true, Bool.and_eq_true, Bool.not_eq_true',
      Char.isAlphanum, Bool.or_eq_false_iff] at h
    exact h.1.1.2.2
  have hhex : hexLetterOf? c = none := by
    unfold hexLetterOf?
    split
    · exact absurd rfl (hne (by decide))
    · exact absurd rfl (hne (by decide))
    · exact absurd rfl (hne (by decide))
    · rfl
  refine ⟨?_, ?_⟩
  · rw [isLoneLetter, hdigit, hhex, bne_iff_ne.2 (hne (by decide)), bne_iff_ne.2 (hne (by decide))]
    rfl
  · unfold shortOf?
    split
    · exact absurd rfl (hne (by decide))
    · exact absurd rfl (hne (by decide))
    · exact absurd rfl (hne (by decide))
    · exact absurd rfl (hne (by decide))
    · exact absurd rfl (hne (by decide))
    · exact absurd rfl (hne (by decide))
    · rfl

/-- The letters of their own are lone, and nothing else begins with them. -/
theorem lone_of_controlOf? {c d : Char} (h : controlOf? c = some d) :
    isLoneLetter c = true ∧ shortOf? c = none ∧ isEscapable c = false := by
  unfold controlOf? at h
  split at h
  · decide
  · decide
  · decide
  · decide
  · decide
  · decide
  · cases h

/-- The letters of hexadecimal escapes. -/
theorem hexLetterOf?_char (letter : HexLetter) :
    letter.char.isDigit = false ∧ hexLetterOf? letter.char = some letter := by
  cases letter <;> decide

/-- A backslash and the letter of a hexadecimal escape begin one. -/
theorem escape_hex {r : Reader} {verbose : Bool} {letter : HexLetter} {rest : List Char}
    (h : r.At verbose ('\\' :: letter.char :: rest)) :
    escape r = hexEscape r.place letter (r.behind 1) := by
  obtain ⟨hdigit, hhex⟩ := hexLetterOf?_char letter
  have hpeek : (r.behind 1).peek? = some letter.char := h.next.peek?
  rw [escape, Reader.advance_eq]
  dsimp only
  rw [hpeek]
  dsimp only
  rw [hdigit, if_neg Bool.false_ne_true, hhex]

/-- A code in braces is read back. -/
theorem hexEscape_braced {r : Reader} {verbose : Bool} {letter : HexLetter} {c : Char}
    {rest : List Char}
    (h : r.At verbose (letter.char :: '{' :: (hexDigits 1 c.toNat ++ '}' :: rest)))
    (hrest : Visible verbose rest) (start : Place) :
    ∃ region, hexEscape start letter r = .ok (.literal ⟨region, c, .hexBraced letter⟩,
      r.behind ((hexDigits 1 c.toNat).length + 3)) := by
  obtain ⟨hdigits, htotal⟩ := hexDigits_value 1 c.toNat
  have hne : (hexDigits 1 c.toNat).isEmpty = false := by
    have hpos := Nat.length_toDigits_pos (b := 16) (n := c.toNat)
    cases hcases : hexDigits 1 c.toNat with
    | nil =>
      rw [hexDigits, List.append_eq_nil_iff, List.map_eq_nil_iff] at hcases
      rw [hcases.2] at hpos
      exact absurd hpos (Nat.lt_irrefl 0)
    | cons d digits => rfl
  have hbrace : Visible verbose ('{' :: (hexDigits 1 c.toNat ++ '}' :: rest)) :=
    visible_cons.2 (isSkipped_of_seen (by decide) (by decide))
  have hvisible : Visible verbose (hexDigits 1 c.toNat ++ '}' :: rest) := by
    cases hcases : hexDigits 1 c.toNat with
    | nil => exact visible_cons.2 (isSkipped_of_seen (by decide) (by decide))
    | cons d digits =>
      exact visible_cons.2 (isSkipped_of_hexValue? (hdigits d (hcases ▸ List.mem_cons_self)))
  have h₁ := h.next
  have h₂ := h₁.next
  have hpeek : (r.behind 1).peek? = some '{' := h₁.peek?
  rw [hexEscape, h.advanceSkip hbrace, hpeek]
  dsimp only
  rw [h₁.advanceSkip hvisible, hexBraced_read h₂ hdigits]
  refine ⟨⟨start, (r.behind ((hexDigits 1 c.toNat).length + 3)).place⟩, ?_⟩
  show (if (hexDigits 1 c.toNat).isEmpty = true then _ else _) = _
  have hlast : ((r.behind 1).behind 1 |>.behind (hexDigits 1 c.toNat).length).advanceSkip
      = r.behind ((hexDigits 1 c.toNat).length + 3) := by
    rw [h₂.past.advanceSkip hrest, Reader.behind_behind, Reader.behind_behind,
      Reader.behind_behind]
    exact congrArg r.behind (by omega)
  rw [hne, if_neg Bool.false_ne_true, hlast]
  have hvalue : (hexDigits 1 c.toNat).foldl (fun n c => 16 * n + (hexValue? c).getD 0) 0
      = c.toNat := htotal
  rw [List.nil_append, hvalue, scalar?_toNat]

/-- A code with a fixed number of digits is read back if it has no more. -/
theorem hexEscape_fixed {r : Reader} {verbose : Bool} {letter : HexLetter} {c : Char}
    {rest : List Char} (hc : c.toNat < 16 ^ letter.digits)
    (h : r.At verbose (letter.char :: (hexDigits letter.digits c.toNat ++ rest)))
    (hrest : Visible verbose rest) (start : Place) :
    ∃ region, hexEscape start letter r = .ok (.literal ⟨region, c, .hex letter⟩,
      r.behind ((hexDigits letter.digits c.toNat).length + 1)) := by
  obtain ⟨hdigits, htotal⟩ := hexDigits_value letter.digits c.toNat
  have hpos : 0 < letter.digits := by cases letter <;> decide
  have hlength := length_hexDigits hpos hc
  obtain ⟨d, digits, hcons⟩ := List.exists_cons_of_length_pos (hlength ▸ hpos)
  have hd : (hexValue? d).isSome = true := hdigits d (hcons ▸ List.mem_cons_self)
  have hvisible : Visible verbose (hexDigits letter.digits c.toNat ++ rest) := by
    rw [hcons]
    exact visible_cons.2 (isSkipped_of_hexValue? hd)
  have hpeek : (r.behind 1).peek? = some d := by
    rw [h.next.peek?, hcons]
    rfl
  have hread := hexFixed_read h.next hdigits hrest 0
  rw [hlength, htotal, Reader.behind_behind] at hread
  refine ⟨⟨start, (r.behind ((hexDigits letter.digits c.toNat).length + 1)).place⟩, ?_⟩
  rw [hexEscape, h.advanceSkip hvisible, hpeek]
  dsimp only
  -- A digit is no opening brace.
  split
  · rename_i heq
    cases heq
  · rename_i heq
    rw [Option.some.inj heq] at hd
    exact absurd hd (by decide)
  · rw [hread, ok_bind, hlength]
    dsimp only
    rw [scalar?_toNat, Nat.add_comm 1]

/-- **A literal behind a backslash is read back.** -/
theorem Literal.read_escape {l : Literal} (hl : l.escapes = true) {r : Reader} {verbose : Bool}
    {rest : List Char} (h : r.At verbose (l.render ++ rest)) (hrest : Visible verbose rest) :
    ∃ region, escape r
      = .ok (.literal { l with region }, r.behind l.render.length) := by
  obtain ⟨place, c, spelling⟩ := l
  cases spelling with
  | plain => cases hl
  | escaped =>
    have hc : isEscapable c = true := hl
    obtain ⟨hlone, hshort⟩ := lone_of_isEscapable hc
    refine ⟨⟨r.place, (r.behind 2).place⟩, (escape_lone h hlone).trans ?_⟩
    dsimp only
    rw [hshort]
    dsimp only
    rw [if_pos hc]
    rfl
  | hex letter =>
    have hc : c.toNat < 16 ^ letter.digits := of_decide_eq_true hl
    obtain ⟨region, hescape⟩ := hexEscape_fixed hc h.next hrest r.place
    refine ⟨region, (escape_hex h).trans (hescape.trans ?_)⟩
    rw [Reader.behind_behind, Nat.add_comm 1]
    rfl
  | hexBraced letter =>
    have htext : Literal.render ⟨place, c, .hexBraced letter⟩ ++ rest
        = '\\' :: letter.char :: '{' :: (hexDigits 1 c.toNat ++ '}' :: rest) := by
      rw [Literal.render]
      simp only [List.cons_append, List.append_assoc, List.nil_append]
    rw [htext] at h
    obtain ⟨region, hescape⟩ := hexEscape_braced h.next hrest r.place
    refine ⟨region, (escape_hex h).trans (hescape.trans ?_)⟩
    rw [Reader.behind_behind, Literal.render]
    simp only [List.length_cons, List.length_append, List.length_nil]
    exact congrArg (fun n => Except.ok (Atom.literal _, r.behind n)) (by omega)
  | control letter =>
    have hletter : controlOf? letter = some c := beq_iff_eq.1 hl
    obtain ⟨hlone, hshort, hnot⟩ := lone_of_controlOf? hletter
    refine ⟨⟨r.place, (r.behind 2).place⟩, (escape_lone h hlone).trans ?_⟩
    dsimp only
    rw [hshort, hnot, hletter]
    rfl

/-! ## Properties -/

/-- What a query has between its braces. -/
def PropertyQuery.inner : PropertyQuery → List Char
  | letter c => [c]
  | named name => name
  | valued sign property value => property ++ sign.render.toList ++ value

/-- A query that is read back: what is between its braces is not taken apart differently. -/
def PropertyQuery.legible (verbose : Bool) : PropertyQuery → Bool
  | letter c => c != '{' && c != '\\' && !isSkipped verbose c
  | q => queryOf q.inner == q && q.inner.all fun c => c != '}' && !isSkipped verbose c

/-- The text of a query in braces. -/
theorem PropertyQuery.render_eq (negated : Bool) {q : PropertyQuery} (hq : ∀ c, q ≠ .letter c) :
    q.render negated = '\\' :: (if negated then 'P' else 'p') :: '{' :: (q.inner ++ ['}']) := by
  cases q with
  | letter c => exact absurd rfl (hq c)
  | named name => rfl
  | valued sign property value =>
    rw [render, inner]
    simp only [List.append_assoc, List.cons_append, List.nil_append]

/-- The text up to a closing brace is read back. -/
theorem propertyName_read {r : Reader} {verbose : Bool} {name rest : List Char}
    (h : r.At verbose (name ++ '}' :: rest))
    (hname : ∀ c ∈ name, c ≠ '}' ∧ isSkipped verbose c = false) (before : List Char) :
    propertyName r before = .ok (before ++ name, r.behind name.length) := by
  induction name generalizing r before with
  | nil =>
    have hrest := h.rest
    rw [propertyName]
    split
    · rename_i hnil
      rw [hnil] at hrest
      cases hrest
    · rename_i c p tail hcons
      rw [hcons] at hrest
      dsimp only
      rw [if_pos (List.cons.inj hrest).1, List.append_nil]
      rfl
  | cons c name ih =>
    obtain ⟨hc, hmore⟩ := List.forall_mem_cons.1 hname
    have hvisible : Visible verbose (name ++ '}' :: rest) := by
      cases name with
      | nil => exact visible_cons.2 (isSkipped_of_seen (by decide) (by decide))
      | cons d name => exact visible_cons.2 (hmore d List.mem_cons_self).2
    have hrest := h.rest
    rw [propertyName]
    split
    · rename_i hnil
      rw [hnil] at hrest
      cases hrest
    · rename_i d p tail hcons
      rw [hcons] at hrest
      have hd : d = c := (List.cons.inj hrest).1
      dsimp only
      rw [hd, if_neg hc.1, h.advanceSkip hvisible, ih h.next hmore, Reader.behind_behind,
        List.append_assoc, List.length_cons, Nat.add_comm 1]
      rfl

/-- A backslash and the letter of a property begin one. -/
theorem escape_property {r : Reader} {verbose negated : Bool} {rest : List Char}
    (h : r.At verbose ('\\' :: (if negated then 'P' else 'p') :: rest)) :
    escape r = propertyEscape r.place negated (r.behind 1) := by
  have hpeek : (r.behind 1).peek? = some (if negated then 'P' else 'p') := h.next.peek?
  rw [escape, Reader.advance_eq]
  dsimp only
  rw [hpeek]
  cases negated <;> rfl

/-- **A query is read back.** -/
theorem PropertyQuery.read {q : PropertyQuery} {verbose : Bool} (hq : q.legible verbose = true)
    {negated : Bool} {r : Reader} {rest : List Char} (h : r.At verbose (q.render negated ++ rest))
    (hrest : Visible verbose rest) :
    ∃ region, escape r
      = .ok (.property region negated q, r.behind (q.render negated).length) := by
  by_cases hletter : ∃ c, q = .letter c
  · obtain ⟨c, rfl⟩ := hletter
    rw [legible, Bool.and_eq_true, Bool.and_eq_true, Bool.not_eq_true', bne_iff_ne,
      bne_iff_ne] at hq
    obtain ⟨⟨hbrace, hback⟩, hc⟩ := hq
    have h₁ : (r.behind 1).At verbose ((if negated then 'P' else 'p') :: c :: rest) := h.next
    have hpeek : ((r.behind 1).behind 1).peek? = some c := h₁.next.peek?
    refine ⟨⟨r.place, (r.behind 3).place⟩, (escape_property h).trans ?_⟩
    rw [propertyEscape, h₁.advanceSkip (visible_cons.2 hc), hpeek]
    dsimp only
    split
    · rename_i heq
      cases heq
    · rename_i heq
      exact absurd (Option.some.inj heq) hbrace
    · rename_i heq
      exact absurd (Option.some.inj heq) hback
    · rename_i heq
      rw [h₁.next.advanceSkip hrest, Reader.behind_behind, Reader.behind_behind,
        ← Option.some.inj heq]
      rfl
  · have hq' : ∀ c, q ≠ .letter c := fun c hc => hletter ⟨c, hc⟩
    have hinner : queryOf q.inner = q ∧ ∀ c ∈ q.inner, c ≠ '}' ∧ isSkipped verbose c = false := by
      have hlegible : (queryOf q.inner == q &&
          q.inner.all fun c => c != '}' && !isSkipped verbose c) = true := by
        cases q with
        | letter c => exact absurd rfl (hq' c)
        | named name => exact hq
        | valued sign property value => exact hq
      rw [Bool.and_eq_true, beq_iff_eq, List.all_eq_true] at hlegible
      refine ⟨hlegible.1, fun c hc => ?_⟩
      have hc := hlegible.2 c hc
      rwa [Bool.and_eq_true, bne_iff_ne, Bool.not_eq_true'] at hc
    have hvisible : Visible verbose (q.inner ++ '}' :: rest) := by
      cases hcases : q.inner with
      | nil => exact visible_cons.2 (isSkipped_of_seen (by decide) (by decide))
      | cons d name => exact visible_cons.2 (hinner.2 d (hcases ▸ List.mem_cons_self)).2
    rw [PropertyQuery.render_eq negated hq'] at h ⊢
    have htext : '\\' :: (if negated then 'P' else 'p') :: '{' :: (q.inner ++ ['}']) ++ rest
        = '\\' :: (if negated then 'P' else 'p') :: '{' :: (q.inner ++ '}' :: rest) := by
      simp only [List.cons_append, List.append_assoc, List.nil_append]
    rw [htext] at h
    have h₁ := h.next
    have h₂ := h₁.next
    have hpeek : ((r.behind 1).behind 1).peek? = some '{' := h₂.peek?
    have hname := propertyName_read h₂.next hinner.2 []
    refine ⟨⟨r.place, (r.behind (q.inner.length + 4)).place⟩, (escape_property h).trans ?_⟩
    rw [propertyEscape,
      h₁.advanceSkip (visible_cons.2 (isSkipped_of_seen (by decide) (by decide))), hpeek]
    dsimp only
    rw [h₂.advanceSkip hvisible, hname]
    show Except.ok (Atom.property ⟨r.place, (Reader.advance _).place⟩ negated
      (queryOf ([] ++ q.inner)), Reader.advance _) = _
    rw [List.nil_append, hinner.1, Reader.advance_eq, Reader.behind_behind, Reader.behind_behind,
      Reader.behind_behind, Reader.behind_behind]
    simp only [List.length_cons, List.length_append, List.length_nil]
    have hlength : 1 + (1 + (1 + (q.inner.length + 1))) = q.inner.length + 4 := by omega
    rw [hlength]

/-! ## Short classes -/

/-- **A short class is read back.** -/
theorem ShortClass.read {k : ShortClass} {negated : Bool} {r : Reader} {verbose : Bool}
    {rest : List Char} (h : r.At verbose (k.render negated ++ rest)) :
    ∃ region, escape r = .ok (.short region negated k, r.behind (k.render negated).length) := by
  refine ⟨⟨r.place, (r.behind 2).place⟩, ?_⟩
  cases k <;> cases negated <;> exact escape_lone h (by decide)

/-! ## Escapes -/

/-- The atom stands behind a backslash, and says what it is. -/
def Atom.escapes (verbose : Bool) : Atom → Bool
  | literal l => l.escapes
  | property _ _ query => query.legible verbose
  | short _ _ _ => true
  | dot _ => false
  | assertion _ _ => false

/-- **An atom behind a backslash is read back.** -/
theorem Atom.read_escape {a : Atom} {verbose : Bool} (ha : a.escapes verbose = true) {r : Reader}
    {rest : List Char} (h : r.At verbose (a.render ++ rest)) (hrest : Visible verbose rest) :
    ∃ a' : Atom, escape r = .ok (a', r.behind a.render.length) ∧ a'.unplaced = a.unplaced := by
  cases a with
  | literal l =>
    obtain ⟨region, hread⟩ := l.read_escape ha h hrest
    exact ⟨_, hread, rfl⟩
  | property place negated query =>
    obtain ⟨region, hread⟩ := query.read ha h hrest
    exact ⟨_, hread, rfl⟩
  | short place negated kind =>
    obtain ⟨region, hread⟩ := kind.read h
    exact ⟨_, hread, rfl⟩
  | dot place => cases ha
  | assertion place kind => cases ha

/-- It begins with the backslash. -/
theorem Atom.render_of_escapes {a : Atom} {verbose : Bool} (ha : a.escapes verbose = true) :
    ∃ c rest, a.render = '\\' :: c :: rest := by
  cases a with
  | literal l =>
    obtain ⟨place, c, spelling⟩ := l
    cases spelling with
    | plain => cases ha
    | escaped => exact ⟨_, _, rfl⟩
    | hex letter => exact ⟨_, _, rfl⟩
    | hexBraced letter => exact ⟨_, _, rfl⟩
    | control letter => exact ⟨_, _, rfl⟩
  | property place negated query => cases query <;> exact ⟨_, _, rfl⟩
  | short place negated kind => exact ⟨_, _, rfl⟩
  | dot place => cases ha
  | assertion place kind => cases ha

/-! ## Assertions -/

/-- A brace that comes next does not begin a name. -/
def NoName (verbose : Bool) (rest : List Char) : Prop :=
  ∀ tail, rest = '{' :: tail →
    ∃ c tail', tail = c :: tail' ∧ isBoundaryChar c = false ∧ isSkipped verbose c = false

/-- A word boundary with a name is read back. -/
theorem escape_named {r : Reader} {verbose : Bool} {name rest : List Char} {kind : Assertion}
    (hkind : boundaryOfName? name = some kind) (hne : name ≠ [])
    (hname : ∀ c ∈ name, isBoundaryChar c = true)
    (hseen : ∀ c ∈ name, isSkipped verbose c = false)
    (h : r.At verbose ('\\' :: 'b' :: '{' :: (name ++ '}' :: rest))) :
    ∃ region, escape r = .ok (.assertion region kind, r.behind (name.length + 4)) := by
  obtain ⟨c, name', rfl⟩ := List.exists_cons_of_ne_nil hne
  have h₂ : (r.behind 2).At verbose ('{' :: (c :: name' ++ '}' :: rest)) := h.behind 2
  have hbrace : (r.behind 2).peek? = some '{' := h₂.peek?
  have hvisible : Visible verbose (c :: name' ++ '}' :: rest) :=
    visible_cons.2 (hseen c List.mem_cons_self)
  have hfirst : ((r.behind 2).behind 1).peek? = some c := h₂.next.peek?
  have hread := h₂.next.readWhile hname hseen (by decide)
    (isSkipped_of_seen (by decide) (by decide)) []
  have hclose : ((r.behind 2).behind 1 |>.behind (c :: name').length).peek? = some '}' :=
    h₂.next.past.peek?
  have hnamed : namedBoundary? r.place (r.behind 2)
      = .ok (some (kind, r.behind ((c :: name').length + 4))) := by
    rw [namedBoundary?, h₂.advanceSkip hvisible, hfirst]
    dsimp only
    rw [if_pos (hname c List.mem_cons_self), hread]
    dsimp only
    rw [if_pos hclose, List.nil_append, hkind, Reader.advance_eq, Reader.behind_behind,
      Reader.behind_behind, Reader.behind_behind]
    exact congrArg (fun n => Except.ok (some (kind, r.behind n))) (by omega)
  refine ⟨⟨r.place, (r.behind ((c :: name').length + 4)).place⟩, ?_⟩
  refine (escape_lone h (by decide)).trans ?_
  show (if _ then (namedBoundary? r.place (r.behind 2) >>= _) else _) = _
  rw [if_pos ⟨rfl, hbrace⟩, hnamed]
  rfl

/-- A word boundary without a name is read back, if what follows it is not taken for one. -/
theorem escape_boundary {r : Reader} {verbose : Bool} {rest : List Char}
    (h : r.At verbose ('\\' :: 'b' :: rest)) (hrest : NoName verbose rest) :
    ∃ region, escape r = .ok (.assertion region .wordBoundary, r.behind 2) := by
  refine ⟨⟨r.place, (r.behind 2).place⟩, (escape_lone h (by decide)).trans ?_⟩
  show (if _ then (namedBoundary? r.place (r.behind 2) >>= _) else _) = _
  by_cases hbrace : (r.behind 2).peek? = some '{'
  · have h₂ : (r.behind 2).At verbose rest := h.behind 2
    rw [h₂.peek?] at hbrace
    obtain ⟨tail, rfl⟩ := List.head?_eq_some_iff.1 hbrace
    obtain ⟨c, tail', rfl, hname, hc⟩ := hrest tail rfl
    have hpeek : ((r.behind 2).behind 1).peek? = some c := h₂.next.peek?
    have hnone : namedBoundary? r.place (r.behind 2) = .ok none := by
      rw [namedBoundary?, h₂.advanceSkip (visible_cons.2 hc), hpeek]
      dsimp only
      rw [hname, if_neg Bool.false_ne_true]
    rw [hnone, h₂.peek?, if_pos ⟨rfl, rfl⟩]
    rfl
  · rw [if_neg fun hand => hbrace hand.2]

/-- **An assertion is read back.** -/
theorem Assertion.read {k : Assertion} {r : Reader} {verbose : Bool} {rest : List Char}
    (h : r.At verbose (k.render.toList ++ rest)) (hrest : NoName verbose rest) :
    ∃ region, atom r = .ok (.assertion region k, r.behind k.render.toList.length) := by
  have seen (name : List Char) (hall : (name.all fun c => isBoundaryChar c &&
      decide (0x21 ≤ c.toNat ∧ c.toNat ≤ 0x7E) && c != '#') = true) :
      (∀ c ∈ name, isBoundaryChar c = true) ∧ ∀ c ∈ name, isSkipped verbose c = false := by
    rw [List.all_eq_true] at hall
    refine ⟨fun c hc => ?_, fun c hc => ?_⟩
    · exact (Bool.and_eq_true_iff.1 (Bool.and_eq_true_iff.1 (hall c hc)).1).1
    · obtain ⟨hseen, hsign⟩ := Bool.and_eq_true_iff.1 (hall c hc)
      exact isSkipped_of_seen (of_decide_eq_true (Bool.and_eq_true_iff.1 hseen).2)
        (bne_iff_ne.1 hsign)
  have named (name : String) (hkind : boundaryOfName? name.toList = some k)
      (hall : (name.toList.all fun c => isBoundaryChar c &&
        decide (0x21 ≤ c.toNat ∧ c.toNat ≤ 0x7E) && c != '#') = true)
      (hne : name.toList ≠ [])
      (htext : k.render.toList = '\\' :: 'b' :: '{' :: (name.toList ++ ['}'])) :
      ∃ region, atom r = .ok (.assertion region k, r.behind k.render.toList.length) := by
    have hpeek : r.peek? = some '\\' := by
      rw [h.peek?, htext]
      rfl
    have hat : r.At verbose ('\\' :: 'b' :: '{' :: (name.toList ++ '}' :: rest)) := by
      rw [htext] at h
      simpa only [List.cons_append, List.append_assoc, List.nil_append] using h
    obtain ⟨region, hread⟩ := escape_named hkind hne (seen _ hall).1 (seen _ hall).2 hat
    refine ⟨region, ?_⟩
    rw [atom, hpeek, htext]
    simpa only [List.length_cons, List.length_append, List.length_nil] using hread
  have lone (c : Char) (hlone : isLoneLetter c = true)
      (hkind : shortOf? c = none ∧ isEscapable c = false ∧ controlOf? c = none ∧
        assertionOf? c = some k ∧ c ≠ 'b') (htext : k.render.toList = ['\\', c]) :
      ∃ region, atom r = .ok (.assertion region k, r.behind k.render.toList.length) := by
    have hpeek : r.peek? = some '\\' := by
      rw [h.peek?, htext]
      rfl
    rw [htext] at h ⊢
    obtain ⟨hshort, hescapable, hcontrol, hassertion, hb⟩ := hkind
    refine ⟨⟨r.place, (r.behind 2).place⟩, ?_⟩
    rw [atom, hpeek]
    refine (escape_lone h hlone).trans ?_
    dsimp only
    rw [hshort, hescapable, hcontrol, hassertion]
    dsimp only
    rw [if_neg Bool.false_ne_true, if_neg fun hand => hb hand.1]
    rfl
  cases k with
  | lineStart =>
    have hpeek : r.peek? = some '^' := h.peek?
    refine ⟨r.charRegion, ?_⟩
    rw [atom, hpeek, Reader.advance_eq]
    rfl
  | lineEnd =>
    have hpeek : r.peek? = some '$' := h.peek?
    refine ⟨r.charRegion, ?_⟩
    rw [atom, hpeek, Reader.advance_eq]
    rfl
  | textStart => exact lone 'A' (by decide) (by decide) rfl
  | textEnd => exact lone 'z' (by decide) (by decide) rfl
  | wordBoundary =>
    have hpeek : r.peek? = some '\\' := h.peek?
    obtain ⟨region, hread⟩ := escape_boundary h hrest
    refine ⟨region, ?_⟩
    rw [atom, hpeek]
    exact hread
  | notWordBoundary => exact lone 'B' (by decide) (by decide) rfl
  | wordStart => exact named "start" (by decide) (by decide) (by decide) rfl
  | wordEnd => exact named "end" (by decide) (by decide) (by decide) rfl
  | wordStartAngle => exact lone '<' (by decide) (by decide) rfl
  | wordEndAngle => exact lone '>' (by decide) (by decide) rfl
  | wordStartHalf => exact named "start-half" (by decide) (by decide) (by decide) rfl
  | wordEndHalf => exact named "end-half" (by decide) (by decide) (by decide) rfl

end StatefulLexer.Regex
