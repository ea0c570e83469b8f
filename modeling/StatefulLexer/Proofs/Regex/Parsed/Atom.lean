/-
What was read as an atom.

Whatever a backslash begins is legible once it was read, also where blanks are skipped between
its characters: a code has as many digits as there are, and a name that was read in braces is
taken apart as it was before.

Main statements: `escape_reads`, `classAtom_reads`, `IsReadAs.literal`.
-/
import StatefulLexer.Proofs.Regex.Parsed
import StatefulLexer.Proofs.Regex.Reading.Class

set_option autoImplicit false

namespace StatefulLexer.Regex

open Reader

variable {r r' : Reader}

/-! ## Codes -/

theorem hexValue?_lt {c : Char} {v : Nat} (h : hexValue? c = some v) : v < 16 := by
  unfold hexValue? at h
  have hle {a b : Char} (hab : a ≤ b) : a.toNat ≤ b.toNat := hab
  split at h
  · rename_i hc
    have := hle hc.2
    simp at h this
    omega
  · split at h
    · rename_i hc
      have := hle hc.2
      simp at h this
      omega
    · split at h
      · rename_i hc
        have := hle hc.2
        simp at h this
        omega
      · cases h

/-- **A code of a fixed number of digits** has no more than these. -/
theorem hexFixed_reads {code count code' : Nat} (h : hexFixed code count r = .ok (code', r')) :
    (∃ piece, r.Reads piece r') ∧ code' < (code + 1) * 16 ^ count := by
  induction count generalizing r code with
  | zero =>
    simp only [hexFixed, Except.ok.injEq, Prod.mk.injEq] at h
    obtain ⟨rfl, rfl⟩ := h
    exact ⟨⟨[], .refl r⟩, by omega⟩
  | succ count ih =>
    rw [hexFixed] at h
    split at h
    · cases h
    · rename_i c hpeek
      split at h
      · cases h
      · rename_i v hv
        obtain ⟨⟨piece, hpiece⟩, hlt⟩ := ih h
        obtain ⟨blanks, hblanks, _⟩ := exists_reads_advanceSkip hpeek
        refine ⟨⟨_, hblanks.trans hpiece⟩, Nat.lt_of_lt_of_le hlt ?_⟩
        have hv := hexValue?_lt hv
        calc (16 * code + v + 1) * 16 ^ count ≤ (code + 1) * 16 * 16 ^ count :=
              Nat.mul_le_mul_right _ (by omega)
          _ = (code + 1) * 16 ^ (count + 1) := by rw [Nat.pow_succ', Nat.mul_assoc]

theorem hexBraced_reads {brace : Place} {before digits : List Char}
    (h : hexBraced brace r before = .ok (digits, r')) :
    (∃ piece, r.Reads piece r') ∧ r'.peek? = some '}' := by
  fun_induction hexBraced brace r before with
  | case1 => cases h
  | case2 r before p rest hrest =>
    simp only [Except.ok.injEq, Prod.mk.injEq] at h
    obtain ⟨rfl, rfl⟩ := h
    exact ⟨⟨[], .refl r⟩, by simp [peek?, hrest]⟩
  | case3 r before c p rest hrest _ _ _ ih =>
    obtain ⟨⟨piece, hpiece⟩, hpeek⟩ := ih h
    have hc : r.peek? = some c := by simp [peek?, hrest]
    obtain ⟨blanks, hblanks, _⟩ := exists_reads_advanceSkip hc
    exact ⟨⟨_, hblanks.trans hpiece⟩, hpeek⟩
  | case4 => cases h

theorem toNat_of_scalar? {code : Nat} {c : Char} (h : scalar? code = some c) : c.toNat = code := by
  by_cases hvalid : code.isValidChar
  · rw [scalar?, dif_pos hvalid] at h
    rw [← Option.some.inj h]
    rfl
  · rw [scalar?, dif_neg hvalid] at h
    cases h

/-- **A code that was read** is a literal that stands behind a backslash. -/
theorem hexEscape_reads {start : Place} {letter : HexLetter} {a : Atom} {c : Char}
    (hpeek : r.peek? = some c) (h : hexEscape start letter r = .ok (a, r')) :
    (∃ piece, r.Reads piece r') ∧ ∃ l, a = .literal l ∧ l.escapes = true := by
  obtain ⟨blanks, hblanks, _⟩ := exists_reads_advanceSkip hpeek
  unfold hexEscape at h
  dsimp only at h
  split at h
  · cases h
  · rename_i hbrace
    obtain ⟨⟨digits, r₁⟩, hdigits, h⟩ := bind_eq_ok.1 h
    obtain ⟨blanks', hblanks', _⟩ := exists_reads_advanceSkip hbrace
    obtain ⟨⟨piece, hpiece⟩, hclose⟩ := hexBraced_reads hdigits
    obtain ⟨blanks'', hblanks'', _⟩ := exists_reads_advanceSkip hclose
    dsimp only at h
    split at h
    · cases h
    · split at h
      · cases h
      · simp only [Except.ok.injEq, Prod.mk.injEq] at h
        obtain ⟨rfl, rfl⟩ := h
        exact ⟨⟨_, ((hblanks.trans hblanks').trans hpiece).trans hblanks''⟩, _, rfl, rfl⟩
  · obtain ⟨⟨code, r₁⟩, hcode, h⟩ := bind_eq_ok.1 h
    obtain ⟨⟨piece, hpiece⟩, hlt⟩ := hexFixed_reads hcode
    dsimp only at h
    split at h
    · cases h
    · rename_i c hc
      simp only [Except.ok.injEq, Prod.mk.injEq] at h
      obtain ⟨rfl, rfl⟩ := h
      refine ⟨⟨_, hblanks.trans hpiece⟩, _, rfl, ?_⟩
      simp only [Literal.escapes, toNat_of_scalar? hc, decide_eq_true_eq]
      omega

/-! ## Properties -/

/-- The characters of a name in braces: none ends it, and none was skipped. -/
theorem propertyName_reads {before name : List Char}
    (h : propertyName r before = .ok (name, r')) :
    (∃ piece, r.Reads piece r') ∧ r'.peek? = some '}' ∧
      ((∀ c, r.peek? = some c → isSkipped r.verbose c = false) →
        (∀ c ∈ before, c ≠ '}' ∧ isSkipped r.verbose c = false) →
        ∀ c ∈ name, c ≠ '}' ∧ isSkipped r.verbose c = false) := by
  fun_induction propertyName r before with
  | case1 => cases h
  | case2 r before p rest hrest =>
    simp only [Except.ok.injEq, Prod.mk.injEq] at h
    obtain ⟨rfl, rfl⟩ := h
    exact ⟨⟨[], .refl r⟩, by simp [peek?, hrest], fun _ hbefore => hbefore⟩
  | case3 r before c p rest hrest _ hc ih =>
    have hpeek : r.peek? = some c := by simp [peek?, hrest]
    obtain ⟨blanks, hblanks, _⟩ := exists_reads_advanceSkip hpeek
    obtain ⟨⟨piece, hpiece⟩, hclose, hname⟩ := ih h
    refine ⟨⟨_, hblanks.trans hpiece⟩, hclose, ?_⟩
    intro hvisible hbefore
    rw [hblanks.verbose] at hname
    apply hname
    · intro d hd
      exact isSkipped_of_advanceSkip hd
    · intro d hd
      rcases List.mem_append.1 hd with hd | hd
      · exact hbefore d hd
      · rw [List.mem_singleton.1 hd]
        exact ⟨hc, hvisible c hpeek⟩

theorem splitAtFirst?_eq {sign text before behind : List Char}
    (h : splitAtFirst? sign text = some (before, behind)) : before ++ sign ++ behind = text := by
  induction text generalizing before with
  | nil => cases h
  | cons c text ih =>
    rw [splitAtFirst?] at h
    split at h
    · rename_i hbegins
      obtain ⟨more, hmore⟩ := List.isPrefixOf_iff_prefix.1 hbegins
      simp only [Option.some.injEq, Prod.mk.injEq] at h
      obtain ⟨rfl, rfl⟩ := h
      rw [← hmore, List.drop_left, List.nil_append]
    · obtain ⟨⟨before', behind'⟩, hsplit, h⟩ := Option.map_eq_some_iff.1 h
      simp only [Prod.mk.injEq] at h
      obtain ⟨rfl, rfl⟩ := h
      rw [List.cons_append, List.cons_append, ih hsplit]

/-- **A name is the query that it is taken for.** -/
theorem inner_queryOf (name : List Char) : (queryOf name).inner = name := by
  unfold queryOf
  split
  · rename_i hsplit
    exact splitAtFirst?_eq hsplit
  · split
    · rename_i hsplit
      exact splitAtFirst?_eq hsplit
    · split
      · rename_i hsplit
        exact splitAtFirst?_eq hsplit
      · rfl

theorem queryOf_ne_letter (name : List Char) (c : Char) : queryOf name ≠ .letter c := by
  unfold queryOf
  repeat' split
  all_goals nofun

theorem legible_queryOf {verbose : Bool} {name : List Char}
    (h : ∀ c ∈ name, c ≠ '}' ∧ isSkipped verbose c = false) :
    (queryOf name).legible verbose = true := by
  have hinner := inner_queryOf name
  have hletter := queryOf_ne_letter name
  have hall : name.all (fun c => c != '}' && !isSkipped verbose c) = true := by
    simpa using h
  cases hq : queryOf name with
  | letter c => exact absurd hq (hletter c)
  | _ =>
    rw [hq] at hinner
    rw [PropertyQuery.legible, hinner, hq, beq_self_eq_true, hall]
    rfl
    intro d hd
    cases hd

/-- **A property that was read** is asked for by a query that is legible. -/
theorem propertyEscape_reads {start : Place} {negated : Bool} {a : Atom} {c : Char}
    (hpeek : r.peek? = some c) (h : propertyEscape start negated r = .ok (a, r')) :
    (∃ piece, r.Reads piece r') ∧
      ∃ region query, a = .property region negated query ∧ query.legible r.verbose = true := by
  obtain ⟨blanks, hblanks, _⟩ := exists_reads_advanceSkip hpeek
  unfold propertyEscape at h
  dsimp only at h
  split at h
  · cases h
  · rename_i hbrace
    obtain ⟨⟨name, r₁⟩, hname, h⟩ := bind_eq_ok.1 h
    obtain ⟨blanks', hblanks', _⟩ := exists_reads_advanceSkip hbrace
    obtain ⟨⟨piece, hpiece⟩, hclose, hchars⟩ := propertyName_reads hname
    simp only [Except.ok.injEq, Prod.mk.injEq] at h
    obtain ⟨rfl, rfl⟩ := h
    refine ⟨⟨_, ((hblanks.trans hblanks').trans hpiece).trans (.advance hclose)⟩, _, _, rfl, ?_⟩
    have hverbose : r.advanceSkip.advanceSkip.verbose = r.verbose :=
      (hblanks.trans hblanks').verbose
    rw [hverbose] at hchars
    apply legible_queryOf
    apply hchars
    · intro d hd
      have hseen := isSkipped_of_advanceSkip hd
      rwa [hblanks.verbose] at hseen
    · intro d hd
      cases hd
  · cases h
  · rename_i d hback hbrace hd
    obtain ⟨blanks', hblanks', _⟩ := exists_reads_advanceSkip hd
    simp only [Except.ok.injEq, Prod.mk.injEq] at h
    obtain ⟨rfl, rfl⟩ := h
    refine ⟨⟨_, hblanks.trans hblanks'⟩, _, _, rfl, ?_⟩
    have hseen := isSkipped_of_advanceSkip hd
    simp only [PropertyQuery.legible, hseen, Bool.not_false, Bool.and_true, Bool.and_eq_true,
      bne_iff_ne]
    exact ⟨fun h => hback h, fun h => hbrace h⟩

/-! ## Word boundaries -/

theorem namedBoundary?_reads {start : Place} {kind : Assertion} {c : Char}
    (hpeek : r.peek? = some c) (h : namedBoundary? start r = .ok (some (kind, r'))) :
    ∃ piece, r.Reads piece r' := by
  obtain ⟨blanks, hblanks, _⟩ := exists_reads_advanceSkip hpeek
  unfold namedBoundary? at h
  dsimp only at h
  split at h
  · cases h
  · split at h
    · obtain ⟨piece, hpiece⟩ := readWhile_reads (rfl : r.advanceSkip.readWhile isBoundaryChar [] = _)
      split at h
      · rename_i hclose
        split at h
        · simp only [Except.ok.injEq, Option.some.injEq, Prod.mk.injEq] at h
          obtain ⟨rfl, rfl⟩ := h
          exact ⟨_, (hblanks.trans hpiece).trans (.advance hclose)⟩
        · cases h
      · cases h
    · cases h

/-! ## Escapes -/

/-- **What a backslash began** is an assertion, or an atom that says what it is. -/
theorem escape_reads {a : Atom} (hpeek : r.peek? = some '\\') (h : escape r = .ok (a, r')) :
    (∃ piece, r.Reads ('\\' :: piece) r') ∧
      (a.escapes r.verbose = true ∨ ∃ region kind, a = .assertion region kind) := by
  have hback : r.Reads ['\\'] r.advance := .advance hpeek
  unfold escape at h
  dsimp only at h
  split at h
  · cases h
  · rename_i c hc
    have hletter : r.Reads ['\\', c] r.advance.advance := hback.trans (.advance hc)
    split at h
    · cases h
    · split at h
      · obtain ⟨⟨piece, hpiece⟩, l, rfl, hl⟩ := hexEscape_reads hc h
        exact ⟨⟨_, hback.trans hpiece⟩, .inl hl⟩
      · split at h
        · obtain ⟨⟨piece, hpiece⟩, region, query, rfl, hquery⟩ := propertyEscape_reads hc h
          rw [hback.verbose] at hquery
          exact ⟨⟨_, hback.trans hpiece⟩, .inl hquery⟩
        · split at h
          · simp only [Except.ok.injEq, Prod.mk.injEq] at h
            obtain ⟨rfl, rfl⟩ := h
            exact ⟨⟨_, hletter⟩, .inl rfl⟩
          · split at h
            · rename_i hescapable
              simp only [Except.ok.injEq, Prod.mk.injEq] at h
              obtain ⟨rfl, rfl⟩ := h
              exact ⟨⟨_, hletter⟩, .inl hescapable⟩
            · split at h
              · rename_i control hcontrol
                simp only [Except.ok.injEq, Prod.mk.injEq] at h
                obtain ⟨rfl, rfl⟩ := h
                exact ⟨⟨_, hletter⟩, .inl (beq_iff_eq.2 hcontrol)⟩
              · split at h
                · cases h
                · split at h
                  · rename_i hname
                    obtain ⟨named, hnamed, h⟩ := bind_eq_ok.1 h
                    split at h
                    · simp only [Except.ok.injEq, Prod.mk.injEq] at h
                      obtain ⟨rfl, rfl⟩ := h
                      obtain ⟨piece, hpiece⟩ := namedBoundary?_reads hname.2 hnamed
                      exact ⟨⟨_, hletter.trans hpiece⟩, .inr ⟨_, _, rfl⟩⟩
                    · simp only [Except.ok.injEq, Prod.mk.injEq] at h
                      obtain ⟨rfl, rfl⟩ := h
                      exact ⟨⟨_, hletter⟩, .inr ⟨_, _, rfl⟩⟩
                  · simp only [Except.ok.injEq, Prod.mk.injEq] at h
                    obtain ⟨rfl, rfl⟩ := h
                    exact ⟨⟨_, hletter⟩, .inr ⟨_, _, rfl⟩⟩

/-- **An atom was read** from a character and a piece behind it: it stands behind a backslash, or
for itself. -/
def IsReadAs (verbose : Bool) (c : Char) (piece : List Char) (a : Atom) : Prop :=
  c = '\\' ∧ a.escapes verbose = true ∨
    c ≠ '\\' ∧ piece = [] ∧ ∃ region, a = .literal ⟨region, c, .plain⟩

/-- What was read inside of a class is an assertion, which has no place there, or an atom. -/
theorem classAtom_reads {a : Atom} (h : classAtom r = .ok (a, r')) :
    ∃ c piece, r.Reads (c :: piece) r' ∧
      (IsReadAs r.verbose c piece a ∨ ∃ region kind, a = .assertion region kind) := by
  unfold classAtom at h
  split at h
  · rename_i hpeek
    obtain ⟨⟨piece, hpiece⟩, ha⟩ := escape_reads hpeek h
    exact ⟨_, piece, hpiece, ha.imp_left fun ha => .inl ⟨rfl, ha⟩⟩
  · rename_i c hback hpeek
    simp only [Except.ok.injEq, Prod.mk.injEq] at h
    obtain ⟨rfl, rfl⟩ := h
    exact ⟨c, [], .advance hpeek, .inl (.inr ⟨fun hc => hback hc, rfl, _, rfl⟩)⟩
  · cases h

namespace IsReadAs

variable {verbose : Bool} {c : Char} {piece : List Char} {a : Atom}

/-- The piece spells what is written for the atom. -/
theorem spells (h : IsReadAs verbose c piece a) (v : Bool) : Spells v (c :: piece) a.render := by
  rcases h with ⟨rfl, ha⟩ | ⟨_, rfl, region, rfl⟩
  · obtain ⟨d, tail, htext⟩ := a.render_of_escapes ha
    rw [htext]
    exact .back v _ _
  · exact .refl v _

/-- **A literal that was read** can stand in a class where nothing is skipped, and is bare only as
the character that was read. -/
theorem literal {l : Literal} (h : IsReadAs verbose c piece (.literal l)) :
    l.readable false = true ∧ ∀ d, c ≠ d → l.isBare d = false := by
  obtain ⟨place, e, spelling⟩ := l
  rcases h with ⟨_, hl⟩ | ⟨hback, _, region, heq⟩
  · have hl : (Literal.mk place e spelling).escapes = true := hl
    refine ⟨by rw [Literal.readable, hl, Bool.true_or], ?_⟩
    intro d _
    cases spelling with
    | plain => cases hl
    | _ => rfl
  · cases heq
    constructor
    · rw [Literal.readable, bne_iff_ne.2 hback]
      rfl
    · intro d hd
      exact Bool.and_eq_false_iff.2 (.inr (beq_false_of_ne hd))

end IsReadAs

end StatefulLexer.Regex
