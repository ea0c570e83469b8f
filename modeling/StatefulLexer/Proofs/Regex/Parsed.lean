/-
What was read.

Here the parser is followed from what it made of a text back to the text. A reader reads a
piece of text if it is behind it afterwards and nothing else about it has changed; what the
parser does between two groups is of this kind, blanks and comments included.

What is read can be written in more than one way, but only behind a backslash. Up to the first
backslash a piece is what is written for it, unless something in it was skipped.

Main statements: `Reader.Reads.trans`, `Reader.exists_reads_skip`, `Spells.append`.
-/
import StatefulLexer.Proofs.Regex.Reading

set_option autoImplicit false

namespace StatefulLexer.Regex

/-! ## Pieces -/

/-- The characters left to a reader. -/
def Reader.text (r : Reader) : List Char := r.rest.map Prod.fst

/-- **A reader reads a piece** of text if it is behind it afterwards, and nothing else about it
has changed. -/
structure Reader.Reads (r : Reader) (piece : List Char) (r' : Reader) : Prop where
  behind : r' = r.behind piece.length
  text : r.text = piece ++ r'.text

namespace Reader

/-- A reader is where it is, whatever it skips. -/
theorem at_text (r : Reader) : r.At r.verbose r.text := ⟨rfl, rfl⟩

theorem peek?_eq (r : Reader) : r.peek? = r.text.head? := r.at_text.peek?

theorem text_of_peek? {r : Reader} {c : Char} (h : r.peek? = some c) :
    r.text = c :: r.advance.text := by
  rw [peek?_eq, List.head?_eq_some_iff] at h
  obtain ⟨tail, htail⟩ := h
  rw [advance_eq, htail]
  have hnext := (r.at_text.behind 1).rest
  rw [htail] at hnext
  rw [text, hnext]
  rfl

namespace Reads

variable {r r' r'' : Reader} {piece more : List Char} {c : Char}

theorem refl (r : Reader) : r.Reads [] r := ⟨r.behind_zero.symm, rfl⟩

/-- **Pieces that follow each other** are one piece. -/
theorem trans (h : r.Reads piece r') (h' : r'.Reads more r'') : r.Reads (piece ++ more) r'' := by
  constructor
  · rw [h'.behind, h.behind, behind_behind, List.length_append]
  · rw [h.text, h'.text, List.append_assoc]

theorem verbose (h : r.Reads piece r') : r'.verbose = r.verbose := by rw [h.behind]; rfl

theorem groups (h : r.Reads piece r') : r'.groups = r.groups := by rw [h.behind]; rfl

theorem names (h : r.Reads piece r') : r'.names = r.names := by rw [h.behind]; rfl

theorem advance (h : r.peek? = some c) : r.Reads [c] r.advance :=
  ⟨r.advance_eq, text_of_peek? h⟩

/-- What a move drops in front of the rest is a piece. -/
theorem of_drop (r : Reader) (n : Nat) : r.Reads (r.text.take n) (r.behind n) := by
  have htext : (r.behind n).text = r.text.drop n := (r.at_text.behind n).rest
  refine ⟨?_, by rw [htext, List.take_append_drop]⟩
  -- There may be less than `n` characters left.
  simp only [Reader.behind, Reader.text, List.length_take, List.length_map]
  by_cases h : n ≤ r.rest.length
  · rw [Nat.min_eq_left h]
  · rw [Nat.min_eq_right (by omega), List.drop_length, List.drop_eq_nil_of_le (by omega)]

theorem after? {sign : List Char} (h : r.after? sign = some r') : r.Reads sign r' := by
  obtain ⟨hbehind, htext⟩ := r.at_text.eq_of_after? h
  refine ⟨hbehind, ?_⟩
  rw [hbehind]
  exact htext.trans (congrArg (sign ++ ·) (r.at_text.behind sign.length).rest.symm)

end Reads

/-! ## Blanks -/

theorem dropBlanks_eq_drop (inComment : Bool) (rest : List (Char × Place)) :
    ∃ n, dropBlanks inComment rest = rest.drop n := by
  induction rest generalizing inComment with
  | nil => exact ⟨0, rfl⟩
  | cons x rest ih =>
    obtain ⟨c, p⟩ := x
    simp only [dropBlanks]
    have further (b : Bool) : ∃ n, dropBlanks b rest = ((c, p) :: rest).drop n :=
      (ih b).imp' (· + 1) fun n h => h
    split
    · exact further _
    · split
      · exact further _
      · split
        · exact further _
        · exact ⟨0, rfl⟩

/-- What is left behind blanks and comments does not begin with one. -/
theorem isSkipped_of_dropBlanks {inComment : Bool} {rest : List (Char × Place)} {c : Char}
    (h : (dropBlanks inComment rest).head?.map Prod.fst = some c) : isSkipped true c = false := by
  induction rest generalizing inComment with
  | nil => simp [dropBlanks] at h
  | cons x rest ih =>
    obtain ⟨d, p⟩ := x
    simp only [dropBlanks] at h
    split at h
    · exact ih h
    · split at h
      · exact ih h
      · split at h
        · exact ih h
        · simp only [List.head?_cons, Option.map_some, Option.some.injEq] at h
          subst h
          simp_all [isSkipped]

/-- **Blanks and comments are a piece,** and there is none of it where they are not skipped. -/
theorem exists_reads_skip (r : Reader) :
    ∃ blanks, r.Reads blanks r.skip ∧ (r.verbose = false → blanks = []) := by
  unfold skip
  split
  · rename_i hverbose
    obtain ⟨n, hn⟩ := dropBlanks_eq_drop false r.rest
    rw [hn]
    refine ⟨_, .of_drop r n, ?_⟩
    intro h
    rw [hverbose] at h
    cases h
  · exact ⟨[], .refl r, fun _ => rfl⟩

/-- Behind them nothing comes next that would be skipped. -/
theorem isSkipped_of_skip {r : Reader} {c : Char} (h : r.skip.peek? = some c) :
    isSkipped r.verbose c = false := by
  unfold skip at h
  split at h
  · rename_i hverbose
    rw [hverbose]
    exact isSkipped_of_dropBlanks h
  · rename_i hverbose
    rw [Bool.eq_false_iff.2 hverbose, isSkipped, Bool.false_and]

theorem isSkipped_of_advanceSkip {r : Reader} {c : Char} (h : r.advanceSkip.peek? = some c) :
    isSkipped r.verbose c = false := isSkipped_of_skip (r := r.advance) h

theorem skip_of_not_verbose {r : Reader} (h : r.verbose = false) : r.skip = r := by
  rw [skip, h, if_neg Bool.false_ne_true]

/-- A character and the blanks behind it. -/
theorem exists_reads_advanceSkip {r : Reader} {c : Char} (h : r.peek? = some c) :
    ∃ blanks, r.Reads (c :: blanks) r.advanceSkip ∧ (r.verbose = false → blanks = []) := by
  obtain ⟨blanks, hblanks, hnone⟩ := r.advance.exists_reads_skip
  exact ⟨blanks, (Reads.advance h).trans hblanks, hnone⟩

/-- A word, with what was skipped in it, is a piece. -/
theorem readWhile_reads {wanted : Char → Bool} {r r' : Reader} {before word : List Char}
    (h : r.readWhile wanted before = (word, r')) : ∃ piece, r.Reads piece r' := by
  fun_induction readWhile wanted r before with
  | case1 r before hrest =>
    obtain ⟨rfl, rfl⟩ := Prod.mk.inj h
    exact ⟨[], .refl r⟩
  | case2 r before c p rest hrest _ hc ih =>
    have hpeek : r.peek? = some c := by simp [peek?, hrest]
    obtain ⟨blanks, hblanks, _⟩ := exists_reads_advanceSkip hpeek
    obtain ⟨piece, hpiece⟩ := ih h
    exact ⟨_, hblanks.trans hpiece⟩
  | case3 r before c p rest hrest hc =>
    obtain ⟨rfl, rfl⟩ := Prod.mk.inj h
    exact ⟨[], .refl r⟩

end Reader

/-! ## Spelling -/

/-- A text up to its first backslash, and with it. -/
def upToBack : List Char → List Char
  | [] => []
  | c :: text => if c = '\\' then [c] else c :: upToBack text

theorem upToBack_cons {c : Char} (h : c ≠ '\\') (text : List Char) :
    upToBack (c :: text) = c :: upToBack text := if_neg h

/-- What stands behind a backslash does not count. -/
theorem upToBack_append (a b : List Char) :
    upToBack (a ++ b) = if '\\' ∈ upToBack a then upToBack a else upToBack a ++ upToBack b := by
  induction a with
  | nil => rfl
  | cons c a ih =>
    by_cases hc : c = '\\'
    · subst hc
      rfl
    · rw [List.cons_append, upToBack_cons hc, upToBack_cons hc, ih]
      simp only [List.mem_cons, Ne.symm hc, false_or, List.cons_append]
      split <;> rfl

theorem head?_upToBack (text : List Char) : (upToBack text).head? = text.head? := by
  cases text with
  | nil => rfl
  | cons c text =>
    rw [upToBack]
    split <;> rfl

/-- Up to a backslash a text without one begins what it is the beginning of. -/
theorem prefix_of_upToBack {sign a b : List Char} (hsign : '\\' ∉ sign)
    (h : upToBack a = upToBack b) (hbegins : sign <+: a) : sign <+: b := by
  induction sign generalizing a b with
  | nil => exact List.nil_prefix
  | cons c sign ih =>
    rw [List.mem_cons, not_or] at hsign
    obtain ⟨hc, hsign⟩ := hsign
    obtain ⟨more, rfl⟩ := hbegins
    have hhead : b.head? = some c := by
      rw [← head?_upToBack, ← h, head?_upToBack]
      rfl
    obtain ⟨tail, rfl⟩ := List.head?_eq_some_iff.1 hhead
    rw [List.cons_append, upToBack_cons (Ne.symm hc), upToBack_cons (Ne.symm hc)] at h
    exact (List.prefix_cons_inj c).2 (ih hsign (List.cons.inj h).2 ⟨more, rfl⟩)

/-- **A piece spells a text** if they are the same up to a backslash, provided that nothing was
skipped. -/
def Spells (verbose : Bool) (piece text : List Char) : Prop :=
  verbose = false → upToBack piece = upToBack text

namespace Spells

variable {verbose : Bool} {piece piece' text text' : List Char}

theorem refl (verbose : Bool) (text : List Char) : Spells verbose text text := fun _ => rfl

/-- Whatever begins with a backslash spells whatever does. -/
theorem back (verbose : Bool) (piece text : List Char) :
    Spells verbose ('\\' :: piece) ('\\' :: text) := fun _ => rfl

/-- **Pieces that follow each other** spell what follows each other. -/
theorem append (h : Spells verbose piece text) (h' : Spells verbose piece' text') :
    Spells verbose (piece ++ piece') (text ++ text') := by
  intro hverbose
  rw [upToBack_append, upToBack_append, h hverbose, h' hverbose]

/-- Blanks are no part of what is written. -/
theorem blanks (h : Spells verbose piece text) {blanks : List Char}
    (hblanks : verbose = false → blanks = []) : Spells verbose (piece ++ blanks) text := by
  intro hverbose
  rw [hblanks hverbose, List.append_nil, h hverbose]

end Spells

end StatefulLexer.Regex
