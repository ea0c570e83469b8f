/-
Texts spelled as patterns.

A literal is matched through a pattern: its text is spelled out, with a backslash in front of
every character that would mean something else. The spelling is the text of a tree of literals,
which is legible, so what was spelled is what is read, alone and in a union with others.

Main statements: `Compiled.ofText_spelled`, `ofText_unionOf_verbatim`.
-/
import StatefulLexer.Proofs.Regex.Union
import StatefulLexer.Proofs.Regex.Verbatim

set_option autoImplicit false

namespace StatefulLexer.Regex

/-! ## Trees of texts -/

/-- A character as it is spelled: behind a backslash, if it means something else. -/
def Literal.spelled (c : Char) : Literal := ⟨.nowhere, c, if isMeta c then .escaped else .plain⟩

/-- **The tree of a text:** its characters, one behind the other. -/
def Pattern.spelled (text : List Char) : Pattern :=
  concatOf .nowhere (text.map fun c => .literal (.spelled c))

/-- What means something else can be escaped. -/
theorem isEscapable_of_isMeta {c : Char} (hc : isMeta c = true) : isEscapable c = true := by
  have hmeta : metaChars.all isEscapable = true := by decide
  exact List.all_eq_true.1 hmeta c (List.contains_iff_mem.1 hc)

/-- What means nothing else is an ordinary character. -/
theorem isOrdinary_of_not_isMeta {c : Char} (hc : isMeta c = false) : isOrdinary c = true := by
  have hne : ∀ d ∈ metaChars, (c != d) = true := by
    intro d hd
    rw [bne_iff_ne]
    rintro rfl
    rw [isMeta, List.contains_iff_mem.2 hd] at hc
    cases hc
  simp only [metaChars, List.forall_mem_cons] at hne
  obtain ⟨h1, h2, h3, h4, h5, h6, h7, h8, h9, _, h11, _, h13, h14, _⟩ := hne
  simp only [isOrdinary, h1, h2, h3, h4, h5, h6, h7, h8, h9, h11, h13, h14, Bool.and_self]

theorem Literal.legible_spelled (c : Char) : (Literal.spelled c).legible false = true := by
  unfold spelled
  cases hc : isMeta c with
  | true => exact Bool.or_eq_true_iff.2 (.inl (isEscapable_of_isMeta hc))
  | false =>
    have hordinary : (isOrdinary c && !isSkipped false c) = true := by
      rw [isOrdinary_of_not_isMeta hc]
      rfl
    exact Bool.or_eq_true_iff.2 (.inr hordinary)

namespace Pattern

theorem renderAll_spelled (text : List Char) :
    renderAll (text.map fun c => .literal (.spelled c)) = escapeText text := by
  induction text with
  | nil => rfl
  | cons c text ih =>
    have hc : (Literal.spelled c).render = if isMeta c then ['\\', c] else [c] := by
      unfold Literal.spelled
      cases isMeta c <;> rfl
    rw [List.map_cons, renderAll, ih, render, hc]
    rfl

/-- **The text of the tree of a text** is its spelling. -/
theorem render_spelled (text : List Char) : (spelled text).render = escapeText text := by
  rw [← renderAll_spelled]
  cases text with
  | nil => rfl
  | cons c text =>
    cases text with
    | nil => exact (List.append_nil _).symm
    | cons d text => rfl

theorem legibleItems_spelled (text : List Char) :
    legibleItems false (text.map fun c => .literal (.spelled c)) = true := by
  induction text with
  | nil => rfl
  | cons c text ih =>
    rw [List.map_cons, legibleItems, legible, Literal.legible_spelled]
    exact ih

/-- **Spelled texts are legible.** -/
theorem legible_spelled (text : List Char) : (spelled text).legible false = true := by
  have hitems := legibleItems_spelled text
  cases text with
  | nil => rfl
  | cons c text =>
    cases text with
    | nil => exact Literal.legible_spelled c
    | cons d text =>
      exact Bool.and_eq_true_iff.2 ⟨decide_eq_true (Nat.le_add_left 2 _), hitems⟩

theorem allNames_spelled (text : List Char) :
    allNames (text.map fun c => .literal (.spelled c)) = [] := by
  induction text with
  | nil => rfl
  | cons c text ih => rw [List.map_cons, allNames, ih]; rfl

theorem names_spelled (text : List Char) : (spelled text).names = [] := by
  have hall := allNames_spelled text
  cases text with
  | nil => rfl
  | cons c text =>
    cases text with
    | nil => rfl
    | cons d text => exact hall

theorem greatestHeight_spelled (text : List Char) :
    greatestHeight (text.map fun c => .literal (.spelled c)) = 0 := by
  induction text with
  | nil => rfl
  | cons c text ih => rw [List.map_cons, greatestHeight, ih]; rfl

theorem height_spelled_le (text : List Char) : (spelled text).height ≤ 1 := by
  have hall := greatestHeight_spelled text
  cases text with
  | nil => exact Nat.zero_le 1
  | cons c text =>
    cases text with
    | nil => exact Nat.zero_le 1
    | cons d text => exact Nat.le_of_eq (congrArg (· + 1) hall)

end Pattern

/-! ## Meanings -/

/-- Characters that follow each other are joined. -/
theorem joinLiterals_chars {text : List Char} (hne : text ≠ []) :
    Expr.joinLiterals (text.map fun c => .literal [c]) = [.literal text] := by
  induction text with
  | nil => exact absurd rfl hne
  | cons c text ih =>
    rw [List.map_cons, Expr.joinLiterals]
    cases text with
    | nil => rfl
    | cons d text =>
      rw [ih (List.cons_ne_nil d text)]
      rfl

theorem sequence_chars {text : List Char} (hne : text ≠ []) :
    Expr.sequence (text.map fun c => .literal [c]) = .literal text := by
  have hfactors : (text.map fun c => Expr.literal [c]).flatMap Expr.factors
      = text.map fun c => .literal [c] := by
    induction text with
    | nil => rfl
    | cons c text ih =>
      cases text with
      | nil => rfl
      | cons d text => rw [List.map_cons, List.flatMap_cons, ih (List.cons_ne_nil d text)]; rfl
  rw [Expr.sequence, hfactors, joinLiterals_chars hne]
  rfl

namespace Pattern

theorem meanings_spelled_chars (n : Nat) (text : List Char) :
    meanings {} (allNumbered n (text.map fun c => .literal (.spelled c)))
      = .ok (text.map fun c => .literal [c], {}) := by
  induction text generalizing n with
  | nil => rfl
  | cons c text ih =>
    have hc : ((Pattern.literal (.spelled c)).numbered n).meaning {}
        = .ok (.literal [c], {}) := by
      have hc : (Literal.spelled c).meaning {} = .ok (.literal [c]) := rfl
      exact bind_eq_ok.2 ⟨_, hc, rfl⟩
    rw [List.map_cons, allNumbered, meanings, hc]
    show (meanings {} _ >>= _) = _
    rw [ih]
    rfl

/-- **A spelled text means the text.** -/
theorem meaning_spelled (n : Nat) (text : List Char) :
    ((spelled text).numbered n).meaning {} = .ok (.verbatim text, {}) := by
  have hchars := meanings_spelled_chars n text
  cases text with
  | nil => rfl
  | cons c text =>
    cases text with
    | nil => rfl
    | cons d text =>
      -- Only of two characters and more a sequence is made, which is then joined again.
      refine bind_eq_ok.2 ⟨_, hchars, ?_⟩
      exact congrArg (fun e => Except.ok (e, ({} : Flags)))
        (sequence_chars (List.cons_ne_nil c (d :: text)))

theorem meanings_spelled (n : Nat) (texts : List (List Char)) :
    meanings {} (allNumbered n (texts.map fun text => (spelled text).inGroup.inGroup))
      = .ok (texts.map .verbatim, {}) := by
  induction texts generalizing n with
  | nil => rfl
  | cons text texts ih =>
    rw [List.map_cons, allNumbered, meanings,
      meaning_inGroup (meaning_inGroup (meaning_spelled n text))]
    show (meanings {} _ >>= _) = _
    rw [ih]
    rfl

end Pattern

/-- **A spelled text is read.** -/
theorem Compiled.ofText_spelled (text : List Char) :
    ∃ c, Compiled.ofText (grouped (escapeText text)) = .ok c ∧ c.expr = .verbatim text := by
  have hnames : (Pattern.spelled text).inGroup.names = [] := Pattern.names_spelled text
  have hheight : (Pattern.spelled text).inGroup.height ≤ 2 :=
    Nat.succ_le_succ (Pattern.height_spelled_le text)
  have hmeaning := Pattern.meaning_inGroup (Pattern.meaning_spelled 0 text)
  obtain ⟨c, hc, _, hexpr⟩ := exists_of_render (p := (Pattern.spelled text).inGroup)
    (Pattern.legible_spelled text) (hnames ▸ List.nodup_nil)
    (.inr (Nat.le_trans (Nat.add_le_add_left hheight 0) (by decide)))
    (congrArg Except.toOption hmeaning)
  rw [Pattern.render_inGroup, Pattern.render_spelled] at hc
  exact ⟨c, hc, hexpr⟩

/-! ## Unions of texts -/

/-- The pattern of each text is that of its tree, in a group. -/
theorem map_render_spelled (texts : List (List Char)) :
    (texts.map fun text => (Pattern.spelled text).inGroup).map Pattern.render
      = texts.map fun text => grouped (escapeText text) := by
  rw [List.map_map]
  exact List.map_congr_left fun text _ =>
    (Pattern.render_inGroup _).trans (congrArg grouped (Pattern.render_spelled text))

/-- What several texts mean: the text, if there is one, and else a choice. -/
theorem match?_unionOf_verbatim {texts : List (List Char)} (hne : texts ≠ [])
    (behind ahead : List Char) :
    (Expr.unionOf (texts.map .verbatim)).match? behind ahead = foundAmong texts ahead := by
  cases texts with
  | nil => exact absurd rfl hne
  | cons text texts =>
    cases texts with
    | nil =>
      show (Expr.verbatim text).match? behind ahead = _
      rw [match?_verbatim, foundAmong, List.find?_cons]
      cases text.isPrefixOf ahead <;> rfl
    | cons text' texts => exact match?_choice_verbatim hne behind ahead

/-- **A union of spelled texts is read,** and finds the first of the texts that comes
next. -/
theorem ofText_unionOf_verbatim {texts : List (List Char)} (hne : texts ≠ []) :
    ∃ p, Compiled.ofText (unionOf (texts.map fun text => grouped (escapeText text))) = .ok p ∧
      ∀ behind ahead, p.expr.match? behind ahead = foundAmong texts ahead := by
  have heach {P : Pattern → Prop} (h : ∀ text, P (Pattern.spelled text).inGroup) :
      ∀ p ∈ texts.map fun text => (Pattern.spelled text).inGroup, P p := by
    intro p hp
    obtain ⟨text, _, rfl⟩ := List.mem_map.1 hp
    exact h text
  have hne' : (texts.map fun text => (Pattern.spelled text).inGroup) ≠ [] :=
    List.map_eq_nil_iff.not.2 hne
  have hlegible := Pattern.legible_union hne' (heach Pattern.legible_spelled)
  have hnames := Pattern.names_union_eq_nil (heach Pattern.names_spelled)
  have hheight := Pattern.height_union_le (heach fun text =>
    Nat.succ_le_succ (Pattern.height_spelled_le text))
  have hmeanings := Pattern.meanings_spelled 0 texts
  rw [← Function.comp_def, ← List.map_map] at hmeanings
  obtain ⟨c, hc, _, hexpr⟩ := Compiled.exists_of_render hlegible (hnames ▸ List.nodup_nil)
    (.inr (Nat.le_trans (Nat.add_le_add_left hheight 0) (by decide)))
    (congrArg Except.toOption (Pattern.meaning_union hne' hmeanings))
  rw [Pattern.render_union, map_render_spelled] at hc
  refine ⟨c, hc, fun behind ahead => ?_⟩
  rw [hexpr]
  exact match?_unionOf_verbatim hne behind ahead

end StatefulLexer.Regex
