/-
Patterns that are read back.

Not every tree is the tree of a text. A pattern is legible if the text it is written as says
what it is: rows have at least two items and choices at least two branches, whatever follows
a part leaves it as it is, and nothing begins with a character that is skipped there. What is
skipped may change along the pattern, with the flags that it sets.

Main statements: `Pattern.render_item`, `ItemRest.item`, `ItemRest.op`.
-/
import StatefulLexer.Proofs.Regex.Reading.ClassBody
import StatefulLexer.Proofs.Regex.Reading.Group

set_option autoImplicit false

namespace StatefulLexer.Regex

/-! ## Shapes -/

namespace Pattern

/-- The pattern can stand in a row of items. -/
def isItem : Pattern → Bool
  | .empty _ => false
  | .alternation _ _ => false
  | .concat _ _ => false
  | _ => true

/-- The pattern can be a branch of a choice. -/
def isBranch : Pattern → Bool
  | .alternation _ _ => false
  | _ => true

/-- A repetition operator can stand behind the pattern. -/
def isRepeatable : Pattern → Bool
  | .setFlags _ _ => false
  | p => p.isItem

/-- A question mark behind the pattern would belong to it. -/
def isGreedy : Pattern → Bool
  | .repetition _ _ greedy _ => greedy
  | _ => false

/-- The items of a branch. -/
def items : Pattern → List Pattern
  | .empty _ => []
  | .concat _ items => items
  | p => [p]

/-- The branches of a body. -/
def branches : Pattern → List Pattern
  | .alternation _ branches => branches
  | p => [p]

theorem items_of_isItem {p : Pattern} (h : p.isItem = true) : p.items = [p] := by
  cases p with
  | empty => cases h
  | alternation => cases h
  | concat => cases h
  | _ => rfl

theorem branches_of_isBranch {p : Pattern} (h : p.isBranch = true) : p.branches = [p] := by
  cases p with
  | alternation => cases h
  | _ => rfl

theorem renderAll_append (as bs : List Pattern) :
    renderAll (as ++ bs) = renderAll as ++ renderAll bs := by
  induction as with
  | nil => rfl
  | cons p as ih => rw [List.cons_append, renderAll, renderAll, ih, List.append_assoc]

/-- The text of a branch is that of its items. -/
theorem renderAll_items {p : Pattern} (h : p.isBranch = true) : renderAll p.items = p.render := by
  cases p with
  | alternation => cases h
  | empty region => rfl
  | concat region items => rfl
  | _ => exact List.append_nil _

/-- The text of a body is that of its branches. -/
theorem renderBranches_branches (p : Pattern) : renderBranches p.branches = p.render := by
  cases p <;> rfl

theorem allNames_append (as bs : List Pattern) :
    allNames (as ++ bs) = allNames as ++ allNames bs := by
  induction as with
  | nil => rfl
  | cons p as ih => rw [List.cons_append, allNames, allNames, ih, List.append_assoc]

theorem allNames_items {p : Pattern} (h : p.isBranch = true) : allNames p.items = p.names := by
  cases p with
  | alternation => cases h
  | empty region => rfl
  | concat region items => rfl
  | _ => exact List.append_nil _

theorem allNames_branches (p : Pattern) : allNames p.branches = p.names := by
  cases p with
  | alternation region branches => rfl
  | _ => exact List.append_nil _

theorem totalGroups_items {p : Pattern} (h : p.isBranch = true) :
    totalGroups p.items = p.groupCount := by
  cases p with
  | alternation => cases h
  | empty region => rfl
  | concat region items => rfl
  | _ => rfl

theorem totalGroups_branches (p : Pattern) : totalGroups p.branches = p.groupCount := by
  cases p <;> rfl

end Pattern

/-! ## What is skipped -/

/-- Whether blanks are skipped under a list of flags. -/
def FlagList.verboseIn (l : FlagList) (verbose : Bool) : Bool := (l.state? .verbose).getD verbose

/-- Whether blanks are skipped in a group. -/
def GroupKind.verboseIn (verbose : Bool) : GroupKind → Bool
  | .flags l => l.verboseIn verbose
  | _ => verbose

/-- Whether blanks are skipped behind an item. -/
def Pattern.verboseBehind (verbose : Bool) : Pattern → Bool
  | .setFlags _ l => l.verboseIn verbose
  | _ => verbose

/-- Whether blanks are skipped behind a row of items. -/
def Pattern.verboseBehindAll (verbose : Bool) (items : List Pattern) : Bool :=
  items.foldl Pattern.verboseBehind verbose

/-! ## Legible patterns -/

/-- The characters that stand for themselves outside of a class. -/
def isOrdinary (c : Char) : Bool :=
  c != '\\' && c != '.' && c != '^' && c != '$' && c != '(' && c != ')' && c != '|' && c != '['
    && c != '{' && c != '?' && c != '*' && c != '+'

/-- A literal that is read back outside of a class. -/
def Literal.legible (verbose : Bool) (l : Literal) : Bool :=
  l.escapes || (l.spelling == .plain && isOrdinary l.char && !isSkipped verbose l.char)

/-- A kind of group that is read back. -/
def GroupKind.legible : GroupKind → Bool
  | .capture _ => true
  | .named _ letterP name => isName letterP name
  | .flags l => l.legible

mutual

/-- **A pattern that is read back** where blanks are skipped, or are not. -/
def Pattern.legible (verbose : Bool) : Pattern → Bool
  | .empty _ => true
  | .setFlags _ l => l.legible && !(l.set.isEmpty && l.cleared.isEmpty)
  | .literal l => l.legible verbose
  | .dot _ => true
  | .assertion _ _ => true
  | .property _ _ query => query.legible verbose
  | .short _ _ _ => true
  | .bracketed _ negated set =>
    set.endsHead negated && set.legible verbose (headCount set.firstItems) [']']
  | .repetition _ op _ sub =>
    op.legible && sub.isRepeatable && !(op == .optional && sub.isGreedy) && sub.legible verbose
  | .group _ kind sub => kind.legible && sub.legible (kind.verboseIn verbose)
  | .alternation _ branches =>
    decide (2 ≤ branches.length) && Pattern.legibleBranches verbose branches
  | .concat _ items => decide (2 ≤ items.length) && Pattern.legibleItems verbose items

/-- Items that are read back, one behind the other. -/
def Pattern.legibleItems (verbose : Bool) : List Pattern → Bool
  | [] => true
  | p :: items =>
    p.isItem && p.legible verbose && Pattern.legibleItems (p.verboseBehind verbose) items

/-- Branches that are read back, one behind the other. -/
def Pattern.legibleBranches (verbose : Bool) : List Pattern → Bool
  | [] => true
  | p :: branches =>
    p.isBranch && p.legible verbose &&
      Pattern.legibleBranches (Pattern.verboseBehindAll verbose p.items) branches

end

namespace Pattern

/-- The items of a branch that is read back are. -/
theorem legible_items {verbose : Bool} {p : Pattern} (hbranch : p.isBranch = true)
    (h : p.legible verbose = true) : legibleItems verbose p.items = true := by
  have hitem (hitem : p.isItem = true) : legibleItems verbose p.items = true := by
    rw [items_of_isItem hitem, legibleItems, hitem, h]
    rfl
  cases p with
  | alternation => cases hbranch
  | empty region => rfl
  | concat region items => exact (Bool.and_eq_true_iff.1 h).2
  | _ => exact hitem rfl

/-- The branches of a body that is read back are. -/
theorem legible_branches {verbose : Bool} {p : Pattern} (h : p.legible verbose = true) :
    legibleBranches verbose p.branches = true := by
  have hbranch (hbranch : p.isBranch = true) : legibleBranches verbose p.branches = true := by
    rw [branches_of_isBranch hbranch, legibleBranches, hbranch, h]
    rfl
  cases p with
  | alternation region branches => exact (Bool.and_eq_true_iff.1 h).2
  | _ => exact hbranch rfl

end Pattern

/-! ## How texts begin -/

/-- A character that begins an item: it is not skipped, and is no sign between items. -/
def beginsItem (verbose : Bool) (c : Char) : Bool :=
  !isSkipped verbose c && c != ')' && c != '|' && c != '{' && c != '?' && c != '*' && c != '+'

theorem beginsItem_of_seen {verbose : Bool} {c : Char} (h : 0x21 ≤ c.toNat ∧ c.toNat ≤ 0x7E)
    (hc : c ≠ '#') (hsign : (c != ')' && c != '|' && c != '{' && c != '?' && c != '*' && c != '+')
      = true) : beginsItem verbose c = true := by
  rw [beginsItem, isSkipped_of_seen h hc, Bool.not_false, Bool.true_and]
  exact hsign

/-- A legible literal stands behind a backslash or for itself. -/
theorem Literal.legible_cases {verbose : Bool} {l : Literal} (h : l.legible verbose = true) :
    l.escapes = true ∨ l.render = [l.char] ∧ l.spelling = .plain ∧ isOrdinary l.char = true ∧
      isSkipped verbose l.char = false := by
  rw [legible, Bool.or_eq_true, Bool.and_eq_true, Bool.and_eq_true, beq_iff_eq,
    Bool.not_eq_true'] at h
  refine h.imp_right fun ⟨⟨hplain, hordinary⟩, hseen⟩ => ⟨?_, hplain, hordinary, hseen⟩
  rw [render, hplain]

/-- **An item that is read back begins** with a character that begins items. -/
theorem Pattern.render_item {verbose : Bool} (p : Pattern) (hitem : p.isItem = true)
    (h : p.legible verbose = true) :
    ∃ c text, p.render = c :: text ∧ beginsItem verbose c = true := by
  have hback {a : Atom} (ha : a.escapes verbose = true) :
      ∃ c text, a.render = c :: text ∧ beginsItem verbose c = true := by
    obtain ⟨c, rest, htext⟩ := a.render_of_escapes ha
    exact ⟨_, _, htext, beginsItem_of_seen (by decide) (by decide) (by decide)⟩
  have hparenthesis : beginsItem verbose '(' = true :=
    beginsItem_of_seen (by decide) (by decide) (by decide)
  cases p with
  | empty => cases hitem
  | alternation => cases hitem
  | concat => cases hitem
  | setFlags region l => exact ⟨_, _, rfl, hparenthesis⟩
  | literal l =>
    rcases l.legible_cases h with hl | ⟨htext, _, hordinary, hseen⟩
    · exact hback (a := .literal l) hl
    · refine ⟨l.char, [], htext, ?_⟩
      simp only [isOrdinary, Bool.and_eq_true] at hordinary
      simp only [beginsItem, hseen, hordinary, Bool.not_false, Bool.and_self]
  | dot region => exact ⟨_, _, rfl, beginsItem_of_seen (by decide) (by decide) (by decide)⟩
  | assertion region kind =>
    cases kind <;>
      exact ⟨_, _, rfl, beginsItem_of_seen (by decide) (by decide) (by decide)⟩
  | property region negated query => exact hback (a := .property region negated query) h
  | short region negated kind => exact hback (a := .short region negated kind) h
  | bracketed region negated set =>
    exact ⟨_, _, rfl, beginsItem_of_seen (by decide) (by decide) (by decide)⟩
  | repetition region op greedy sub =>
    rw [legible, Bool.and_eq_true, Bool.and_eq_true, Bool.and_eq_true] at h
    have hsub : sub.isItem = true := by
      have hrepeatable := h.1.1.2
      cases sub with
      | setFlags => cases hrepeatable
      | _ => exact hrepeatable
    obtain ⟨c, text, htext, hc⟩ := sub.render_item hsub h.2
    refine ⟨c, text ++ op.render greedy, ?_, hc⟩
    rw [render, htext, List.cons_append]
  | group region kind sub =>
    cases kind with
    | capture index => exact ⟨_, _, rfl, hparenthesis⟩
    | named index letterP name => cases letterP <;> exact ⟨_, _, rfl, hparenthesis⟩
    | flags l => exact ⟨_, _, rfl, hparenthesis⟩

/-! ## What follows -/

/-- What may follow an item without becoming a part of it. -/
structure ItemRest (verbose : Bool) (p : Pattern) (rest : List Char) : Prop where
  visible : Visible (p.verboseBehind verbose) rest
  /-- A brace begins a count. -/
  brace : ∀ tail, rest = '{' :: tail → ∃ c tail', tail = c :: tail' ∧ c.isDigit = true
  question : p.isGreedy = true → rest.head? ≠ some '?'

/-- The end of a row: that of the pattern, or of the group or the branch it is in. -/
def EndsRow (rest : List Char) : Prop :=
  ∀ c, rest.head? = some c → c = ')' ∨ c = '|'

theorem EndsRow.itemRest {rest : List Char} (h : EndsRow rest) (verbose : Bool) (p : Pattern) :
    ItemRest verbose p rest where
  visible c hc := by
    rcases h c hc with rfl | rfl <;> exact isSkipped_of_seen (by decide) (by decide)
  brace tail htail := by
    rcases h '{' (by rw [htail]; rfl) with hc | hc <;> exact absurd hc (by decide)
  question _ hc := by
    rcases h '?' hc with hc | hc <;> exact absurd hc (by decide)

/-- Another item may follow an item. -/
theorem ItemRest.item {verbose : Bool} {p q : Pattern} (hitem : q.isItem = true)
    (hq : q.legible (p.verboseBehind verbose) = true) (rest : List Char) :
    ItemRest verbose p (q.render ++ rest) := by
  obtain ⟨c, text, htext, hc⟩ := q.render_item hitem hq
  rw [htext]
  simp only [beginsItem, Bool.and_eq_true, Bool.not_eq_true', bne_iff_ne] at hc
  obtain ⟨⟨⟨⟨⟨⟨hseen, _⟩, _⟩, hbrace⟩, hquestion⟩, _⟩, _⟩ := hc
  refine ⟨visible_cons.2 hseen, fun tail htail => ?_, fun _ hfirst => ?_⟩
  · exact absurd (List.cons.inj htail).1 hbrace
  · exact hquestion (Option.some.inj hfirst)

/-- So may a repetition operator, but for a question mark behind one that is greedy. -/
theorem ItemRest.op {verbose : Bool} {p : Pattern} {op : RepeatOp}
    (hop : (op == .optional && p.isGreedy) = false) (greedy : Bool) (rest : List Char) :
    ItemRest verbose p (op.render greedy ++ rest) := by
  have hsign {c : Char} {text : List Char} (hc : c = '*' ∨ c = '+' ∨ c = '?' ∧ op = .optional) :
      ItemRest verbose p (c :: text) := by
    refine ⟨visible_cons.2 ?_, fun tail htail => ?_, fun hgreedy hfirst => ?_⟩
    · rcases hc with rfl | rfl | ⟨rfl, _⟩ <;> exact isSkipped_of_seen (by decide) (by decide)
    · rcases hc with rfl | rfl | ⟨rfl, _⟩ <;> exact absurd (List.cons.inj htail).1 (by decide)
    · rcases hc with rfl | rfl | ⟨rfl, hoptional⟩
      · exact absurd (Option.some.inj hfirst) (by decide)
      · exact absurd (Option.some.inj hfirst) (by decide)
      · rw [hoptional, hgreedy] at hop
        cases hop
  have hcount {counts : List Char} (hcounts : op.counts? = some counts)
      (hdigit : ∃ c tail, counts = c :: tail ∧ c.isDigit = true) :
      ItemRest verbose p (op.render greedy ++ rest) := by
    rw [op.render_counts hcounts]
    refine ⟨visible_cons.2 (isSkipped_of_seen (by decide) (by decide)), fun tail htail => ?_,
      fun _ hfirst => absurd (Option.some.inj hfirst) (by decide)⟩
    obtain ⟨c, digits, rfl, hc⟩ := hdigit
    exact ⟨c, _, (List.cons.inj htail).2.symm, hc⟩
  cases op with
  | optional => exact hsign (.inr (.inr ⟨rfl, rfl⟩))
  | star => exact hsign (.inl rfl)
  | plus => exact hsign (.inr (.inl rfl))
  | exactly n =>
    obtain ⟨d, digits, hcons, hd⟩ := numeral_cons n
    exact hcount rfl ⟨d, digits, hcons, hd⟩
  | atLeast n =>
    obtain ⟨d, digits, hcons, hd⟩ := numeral_cons n
    exact hcount rfl ⟨d, digits ++ [','], by rw [hcons]; rfl, hd⟩
  | between m n =>
    obtain ⟨d, digits, hcons, hd⟩ := numeral_cons m
    exact hcount rfl ⟨d, digits ++ ',' :: (toString n).toList, by rw [hcons]; rfl, hd⟩

/-- A brace that begins a count begins no name. -/
theorem ItemRest.noName {verbose : Bool} {p : Pattern} {rest : List Char}
    (h : ItemRest verbose p rest) : NoName verbose rest := by
  intro tail htail
  obtain ⟨c, tail', hcons, hc⟩ := h.brace tail htail
  refine ⟨c, tail', hcons, ?_, (isDigit_spec hc verbose).1⟩
  rw [Char.isDigit, Bool.and_eq_true, decide_eq_true_iff, decide_eq_true_iff] at hc
  have h0 : 0x30 ≤ c.toNat := hc.1
  have h9 : c.toNat ≤ 0x39 := hc.2
  have hhyphen : c ≠ '-' := by
    rintro rfl
    exact absurd h0 (by decide)
  have hupper : c.isUpper = false := by
    refine decide_eq_false fun hA => ?_
    exact absurd (Nat.le_trans (show 0x41 ≤ c.toNat from hA.1) h9) (by decide)
  have hlower : c.isLower = false := by
    refine Bool.and_eq_false_iff.2 (.inl (decide_eq_false fun ha => ?_))
    exact absurd (Nat.le_trans (show 0x61 ≤ c.toNat from ha) h9) (by decide)
  show (c.isUpper || c.isLower || c == '-') = false
  rw [hupper, hlower, beq_false_of_ne hhyphen]
  rfl

end StatefulLexer.Regex
