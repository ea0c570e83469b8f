/-
Reading what was written.

What the parser makes of a text is followed here piece by piece. A reader is known by the
characters that are left to it and by whether it skips blanks; behind `n` of the characters
it is the same reader with `n` characters less. Nothing is skipped in front of a piece as
long as the piece does not begin with a blank, which is what a text has to be written like
where blanks are skipped.

Main statements: `Reader.At.advanceSkip`, `hexDigits_value`.
-/
import Mathlib.Algebra.Group.Nat.Defs
import StatefulLexer.Proofs.Except
import StatefulLexer.Proofs.Regex.Unplaced
import StatefulLexer.Regex.Printer

set_option autoImplicit false

namespace StatefulLexer.Regex

/-! ## Readers -/

/-- The reader behind the next `n` characters, none of which changes what it knows. -/
def Reader.behind (r : Reader) (n : Nat) : Reader := { r with rest := r.rest.drop n }

theorem Reader.behind_zero (r : Reader) : r.behind 0 = r := rfl

theorem Reader.behind_behind (r : Reader) (m n : Nat) :
    (r.behind m).behind n = r.behind (m + n) := by
  rw [Reader.behind, Reader.behind, Reader.behind, List.drop_drop]

theorem Reader.advance_eq (r : Reader) : r.advance = r.behind 1 := by
  rw [Reader.advance, Reader.behind, List.drop_one]

/-- The character is skipped where blanks are. -/
def isSkipped (verbose : Bool) (c : Char) : Bool :=
  verbose && (CharSet.space.contains c || c == '#')

/-- Nothing is skipped in front of the text. -/
def Visible (verbose : Bool) (text : List Char) : Prop :=
  ∀ c, text.head? = some c → isSkipped verbose c = false

theorem Visible.nil (verbose : Bool) : Visible verbose [] := nofun

theorem visible_cons {verbose : Bool} {c : Char} {text : List Char} :
    Visible verbose (c :: text) ↔ isSkipped verbose c = false :=
  ⟨fun h => h c rfl, fun h _ hd => Option.some.inj hd ▸ h⟩

/-- What stands for itself on paper is not skipped: the ASCII characters that can be seen,
the number sign apart. -/
theorem isSkipped_of_seen {verbose : Bool} {c : Char} (h : 0x21 ≤ c.toNat ∧ c.toNat ≤ 0x7E)
    (hc : c ≠ '#') : isSkipped verbose c = false := by
  have hspace : CharSet.space.contains c = false := by
    rw [CharSet.contains, CharSet.containsCode, List.any_eq_false]
    intro range hrange hcontains
    have hends := of_decide_eq_true hcontains
    -- Every range of blanks ends in front of these characters or begins behind them.
    have hall : (CharSet.space.ranges.all fun range =>
        decide (range.last < 0x21 ∨ 0x7E < range.first)) = true := by decide
    have := of_decide_eq_true (List.all_eq_true.1 hall range hrange)
    omega
  rw [isSkipped, hspace, beq_false_of_ne hc, Bool.or_self, Bool.and_false]

/-- **A reader at a text:** whether it skips blanks, and the characters left to it. -/
structure Reader.At (r : Reader) (verbose : Bool) (text : List Char) : Prop where
  verbose : r.verbose = verbose
  rest : r.rest.map Prod.fst = text

namespace Reader.At

variable {r : Reader} {verbose : Bool} {c : Char} {text rest : List Char}

theorem ofText (text : List Char) : (Reader.ofText text).At false text :=
  ⟨rfl, map_fst_placed {} text⟩

theorem peek? (h : r.At verbose text) : r.peek? = text.head? := by
  rw [Reader.peek?, ← List.head?_map, h.rest]

theorem peekSecond? (h : r.At verbose text) : r.peekSecond? = text.tail.head? := by
  rw [Reader.peekSecond?, ← List.head?_map, List.map_tail, h.rest]

theorem behind (h : r.At verbose text) (n : Nat) : (r.behind n).At verbose (text.drop n) :=
  ⟨h.verbose, by rw [Reader.behind, List.map_drop, h.rest]⟩

/-- Behind a piece the reader is at what follows it. -/
theorem past (h : r.At verbose (text ++ rest)) : (r.behind text.length).At verbose rest := by
  have hbehind := h.behind text.length
  rw [List.drop_left] at hbehind
  exact hbehind

theorem next (h : r.At verbose (c :: text)) : (r.behind 1).At verbose text := h.behind 1

theorem skip (h : r.At verbose text) (hvisible : Visible verbose text) : r.skip = r := by
  rw [Reader.skip]
  split
  · rename_i hverbose
    have hv : verbose = true := h.verbose ▸ hverbose
    have hdrop : Reader.dropBlanks false r.rest = r.rest := by
      cases hrest : r.rest with
      | nil => rfl
      | cons x xs =>
        obtain ⟨c, p⟩ := x
        have hc : isSkipped verbose c = false := by
          refine hvisible c ?_
          rw [← h.rest, hrest]
          rfl
        rw [isSkipped, hv, Bool.true_and, Bool.or_eq_false_iff, beq_eq_false_iff_ne] at hc
        rw [Reader.dropBlanks, if_neg Bool.false_ne_true, hc.1, if_neg Bool.false_ne_true,
          if_neg hc.2]
    rw [hdrop]
  · rfl

/-- **An advance skips nothing** if the text behind the character does not begin with a
blank. -/
theorem advanceSkip (h : r.At verbose (c :: text)) (hvisible : Visible verbose text) :
    r.advanceSkip = r.behind 1 := by
  rw [Reader.advanceSkip, Reader.advance_eq]
  exact h.next.skip hvisible

/-- A text comes next if it begins what is left. -/
theorem after? (h : r.At verbose text) (sign : List Char) :
    r.after? sign = if text.take sign.length == sign then some (r.behind sign.length) else none := by
  rw [Reader.after?, h.rest]
  rfl

/-- Only a text that begins what is left can come next. -/
theorem eq_of_after? (h : r.At verbose text) {sign : List Char} {r' : Reader}
    (hafter : r.after? sign = some r') :
    r' = r.behind sign.length ∧ text = sign ++ text.drop sign.length := by
  rw [h.after?] at hafter
  split at hafter
  · rename_i htake
    refine ⟨(Option.some.inj hafter).symm, ?_⟩
    calc text = text.take sign.length ++ text.drop sign.length :=
          (List.take_append_drop sign.length text).symm
      _ = sign ++ text.drop sign.length := by rw [beq_iff_eq.1 htake]
  · cases hafter

theorem after?_eq_none (h : r.At verbose text) {sign : List Char} (hsign : ¬sign <+: text) :
    r.after? sign = none := by
  cases hafter : r.after? sign with
  | none => rfl
  | some r' => exact absurd ⟨_, (h.eq_of_after? hafter).2.symm⟩ hsign

theorem after?_append (h : r.At verbose (text ++ rest)) :
    r.after? text = some (r.behind text.length) := by
  rw [h.after?, List.take_left, if_pos (beq_self_eq_true text)]

/-- **A word is read back** in front of a character that is not wanted. -/
theorem readWhile {wanted : Char → Bool} {word : List Char} (h : r.At verbose (word ++ c :: rest))
    (hword : ∀ d ∈ word, wanted d = true) (hseen : ∀ d ∈ word, isSkipped verbose d = false)
    (hend : wanted c = false) (hc : isSkipped verbose c = false) (before : List Char) :
    r.readWhile wanted before = (before ++ word, r.behind word.length) := by
  induction word generalizing r before with
  | nil =>
    have hrest := h.rest
    rw [Reader.readWhile]
    split
    · rename_i hnil
      rw [hnil] at hrest
      cases hrest
    · rename_i d p tail hcons
      rw [hcons] at hrest
      have hd : d = c := (List.cons.inj hrest).1
      dsimp only
      rw [hd, hend, if_neg Bool.false_ne_true, List.append_nil]
      rfl
  | cons d word ih =>
    obtain ⟨hd, hword⟩ := List.forall_mem_cons.1 hword
    obtain ⟨_, hseen⟩ := List.forall_mem_cons.1 hseen
    have hvisible : Visible verbose (word ++ c :: rest) := by
      cases word with
      | nil => exact visible_cons.2 hc
      | cons e word => exact visible_cons.2 (hseen e List.mem_cons_self)
    have hrest := h.rest
    rw [Reader.readWhile]
    split
    · rename_i hnil
      rw [hnil] at hrest
      cases hrest
    · rename_i e p tail hcons
      rw [hcons] at hrest
      have he : e = d := (List.cons.inj hrest).1
      dsimp only
      rw [he, if_pos hd, h.advanceSkip hvisible, ih h.next hword hseen, Reader.behind_behind,
        List.append_assoc, List.length_cons, Nat.add_comm 1]
      rfl

end Reader.At

/-! ## Numbers -/

/-- A hexadecimal digit can be seen. -/
theorem isSkipped_of_hexValue? {verbose : Bool} {c : Char} (h : (hexValue? c).isSome = true) :
    isSkipped verbose c = false := by
  unfold hexValue? at h
  have hle {a b : Char} (hab : a ≤ b) : a.toNat ≤ b.toNat := hab
  split at h
  · rename_i hc
    have h0 := hle hc.1
    have h9 := hle hc.2
    refine isSkipped_of_seen ⟨Nat.le_trans (by decide) h0, Nat.le_trans h9 (by decide)⟩ ?_
    rintro rfl
    exact absurd h0 (by decide)
  · split at h
    · rename_i hc
      have ha := hle hc.1
      have hf := hle hc.2
      refine isSkipped_of_seen ⟨Nat.le_trans (by decide) ha, Nat.le_trans hf (by decide)⟩ ?_
      rintro rfl
      exact absurd ha (by decide)
    · split at h
      · rename_i hc
        have ha := hle hc.1
        have hf := hle hc.2
        refine isSkipped_of_seen ⟨Nat.le_trans (by decide) ha, Nat.le_trans hf (by decide)⟩ ?_
        rintro rfl
        exact absurd ha (by decide)
      · cases h

/-- The value of hexadecimal digits behind those that give `n`. -/
def hexTotal (n : Nat) (digits : List Char) : Nat :=
  digits.foldl (fun n c => 16 * n + (hexValue? c).getD 0) n

/-- A digit in upper case has its value. -/
theorem hexValue?_digit {d : Nat} (h : d < 16) : hexValue? (Nat.digitChar d).toUpper = some d := by
  have hall : ∀ d : Fin 16, hexValue? (Nat.digitChar d).toUpper = some d.val := by decide
  exact hall ⟨d, h⟩

/-- **The hexadecimal digits of a number** are digits, and give the number. -/
theorem hexDigits_upper (n : Nat) :
    (∀ c ∈ (Nat.toDigits 16 n).map Char.toUpper, (hexValue? c).isSome = true) ∧
      hexTotal 0 ((Nat.toDigits 16 n).map Char.toUpper) = n := by
  induction n using Nat.strongRecOn with
  | ind n ih =>
    have hlast {d : Nat} (hd : d < 16) : (hexValue? (Nat.digitChar d).toUpper).isSome = true := by
      rw [hexValue?_digit hd]
      rfl
    rw [Nat.toDigits_eq_if (by decide)]
    split
    · rename_i hn
      refine ⟨fun c hc => ?_, ?_⟩
      · rw [List.mem_singleton.1 hc]
        exact hlast hn
      · rw [List.map_singleton, hexTotal, List.foldl_cons, hexValue?_digit hn]
        rw [List.foldl_nil, Option.getD_some, Nat.mul_zero, Nat.zero_add]
    · rename_i hn
      have hmod : n % 16 < 16 := Nat.mod_lt _ (by decide)
      obtain ⟨hdigits, htotal⟩ := ih (n / 16) (by omega)
      refine ⟨fun c hc => ?_, ?_⟩
      · rw [List.map_append, List.mem_append] at hc
        rcases hc with hc | hc
        · exact hdigits c hc
        · rw [List.mem_singleton.1 hc]
          exact hlast hmod
      · rw [hexTotal] at htotal ⊢
        rw [List.map_append, List.foldl_append, htotal, List.map_singleton, List.foldl_cons,
          hexValue?_digit hmod, List.foldl_nil, Option.getD_some]
        exact Nat.div_add_mod n 16

/-- So are they if they are filled up with zeros. -/
theorem hexDigits_value (width n : Nat) :
    (∀ c ∈ hexDigits width n, (hexValue? c).isSome = true) ∧ hexTotal 0 (hexDigits width n) = n := by
  obtain ⟨hdigits, htotal⟩ := hexDigits_upper n
  rw [hexDigits]
  refine ⟨fun c hc => ?_, ?_⟩
  · rcases List.mem_append.1 hc with hc | hc
    · rw [(List.mem_replicate.1 hc).2]
      decide
    · exact hdigits c hc
  · have hzeros (k : Nat) : hexTotal 0 (List.replicate k '0') = 0 := by
      induction k with
      | zero => rfl
      | succ k ih =>
        rw [List.replicate_succ, hexTotal, List.foldl_cons]
        exact ih
    rw [hexTotal, List.foldl_append]
    exact (congrArg (fun m => hexTotal m _) (hzeros _)).trans htotal

/-- A code that has few enough digits is filled up to the width. -/
theorem length_hexDigits {width n : Nat} (hwidth : 0 < width) (h : n < 16 ^ width) :
    (hexDigits width n).length = width := by
  have hle : (Nat.toDigits 16 n).length ≤ width :=
    (Nat.length_toDigits_le_iff (by decide) hwidth).2 h
  rw [hexDigits, List.length_append, List.length_replicate, List.length_map]
  omega

/-- The code of a character is that of a character. -/
theorem scalar?_toNat (c : Char) : scalar? c.toNat = some c := by
  have hvalid : c.toNat.isValidChar := c.valid
  rw [scalar?, dif_pos hvalid]
  rfl

/-- Digits without braces, as many as are asked for. -/
theorem hexFixed_read {r : Reader} {verbose : Bool} {digits rest : List Char}
    (h : r.At verbose (digits ++ rest)) (hdigits : ∀ c ∈ digits, (hexValue? c).isSome = true)
    (hrest : Visible verbose rest) (code : Nat) :
    hexFixed code digits.length r = .ok (hexTotal code digits, r.behind digits.length) := by
  induction digits generalizing r code with
  | nil => rfl
  | cons c digits ih =>
    obtain ⟨hc, hmore⟩ := List.forall_mem_cons.1 hdigits
    obtain ⟨v, hv⟩ := Option.isSome_iff_exists.1 hc
    have hvisible : Visible verbose (digits ++ rest) := by
      cases digits with
      | nil => exact hrest
      | cons d digits =>
        exact visible_cons.2 (isSkipped_of_hexValue? (hmore d List.mem_cons_self))
    have hpeek : r.peek? = some c := h.peek?
    rw [List.length_cons, hexFixed, hpeek]
    dsimp only
    rw [hv]
    dsimp only
    rw [h.advanceSkip hvisible, ih h.next hmore, Reader.behind_behind, hexTotal, hexTotal,
      List.foldl_cons, hv, Nat.add_comm 1]
    rfl

/-- Digits in braces. -/
theorem hexBraced_read {r : Reader} {verbose : Bool} {digits rest : List Char}
    (h : r.At verbose (digits ++ '}' :: rest))
    (hdigits : ∀ c ∈ digits, (hexValue? c).isSome = true) (brace : Place) (before : List Char) :
    hexBraced brace r before = .ok (before ++ digits, r.behind digits.length) := by
  induction digits generalizing r before with
  | nil =>
    have hrest := h.rest
    rw [hexBraced]
    split
    · rename_i hnil
      rw [hnil] at hrest
      cases hrest
    · rename_i c p tail hcons
      rw [hcons] at hrest
      rw [if_pos (List.cons.inj hrest).1, List.append_nil]
      rfl
  | cons c digits ih =>
    obtain ⟨hc, hmore⟩ := List.forall_mem_cons.1 hdigits
    have hvisible : Visible verbose (digits ++ '}' :: rest) := by
      cases digits with
      | nil => exact visible_cons.2 (isSkipped_of_seen (by decide) (by decide))
      | cons d digits =>
        exact visible_cons.2 (isSkipped_of_hexValue? (hmore d List.mem_cons_self))
    have hrest := h.rest
    rw [hexBraced]
    split
    · rename_i hnil
      rw [hnil] at hrest
      cases hrest
    · rename_i d p tail hcons
      rw [hcons] at hrest
      have hd : d = c := (List.cons.inj hrest).1
      have hbrace : d ≠ '}' := by
        rintro rfl
        rw [← hd] at hc
        exact absurd hc (by decide)
      dsimp only
      rw [if_neg hbrace, hd, if_pos hc, h.advanceSkip hvisible, ih h.next hmore,
        Reader.behind_behind, List.append_assoc, List.length_cons, Nat.add_comm 1]
      rfl

end StatefulLexer.Regex
