/-
What was read of a pattern.

The groups of a pattern that was read are numbered in the order in which they are opened, no two
of them have the same name, and the pattern is not nested too deep. It is well read: an operator
of repetition, and whatever decided how an item of a class was read, stands where it stood. So it
is legible if no flag in it makes blanks be skipped.

Main statements: `body_reads`, `Pattern.parse_reads`.
-/
import StatefulLexer.Proofs.Regex.Parsed.Class
import StatefulLexer.Proofs.Regex.Parsed.Group
import StatefulLexer.Proofs.Regex.Reading.Reread

set_option autoImplicit false

namespace StatefulLexer.Regex

open Reader

variable {r r' r₁ : Reader}

/-! ## Atoms -/

/-- The characters that a body does not read as atoms. -/
theorem isOrdinary_of {c : Char} (h : c ≠ '\\' ∧ c ≠ '.' ∧ c ≠ '^' ∧ c ≠ '$')
    (hbody : c ≠ ')' ∧ c ≠ '|' ∧ c ≠ '(' ∧ c ≠ '[' ∧ c ≠ '{') (hsign : signOp? c = none) :
    isOrdinary c = true := by
  have hne {d : Char} (hd : (signOp? d).isSome = true) : c ≠ d := by
    rintro rfl
    rw [hsign] at hd
    cases hd
  simp only [isOrdinary, Bool.and_eq_true, bne_iff_ne]
  exact ⟨⟨⟨⟨⟨⟨⟨⟨⟨⟨⟨h.1, h.2.1⟩, h.2.2.1⟩, h.2.2.2⟩, hbody.2.2.1⟩, hbody.1⟩, hbody.2.1⟩,
    hbody.2.2.2.1⟩, hbody.2.2.2.2⟩, hne rfl⟩, hne rfl⟩, hne rfl⟩

/-- **An item that opens nothing,** and needs nothing of what comes behind it. -/
structure IsLeaf (verbose : Bool) (p : Pattern) : Prop where
  isItem : p.isItem = true
  opened : p.opened = []
  isGreedy : p.isGreedy = false
  behind : ∀ v, p.verboseBehind v = v
  wellRead : p.wellRead false verbose = true

theorem IsLeaf.of_atom {verbose : Bool} {a : Atom} (h : a.toPattern.legible verbose = true) :
    IsLeaf verbose a.toPattern := by
  cases a <;> exact ⟨rfl, rfl, rfl, fun _ => rfl, h⟩

/-- An atom that was read outside of a class is legible. -/
theorem atom_reads {a : Atom} {c : Char} (hpeek : r.peek? = some c)
    (hbody : c ≠ ')' ∧ c ≠ '|' ∧ c ≠ '(' ∧ c ≠ '[' ∧ c ≠ '{') (hsign : signOp? c = none)
    (hseen : isSkipped r.verbose c = false) (h : atom r = .ok (a, r')) :
    (∃ piece, r.Reads piece r') ∧ IsLeaf r.verbose a.toPattern := by
  unfold atom at h
  split at h
  · rename_i hback
    obtain ⟨⟨piece, hpiece⟩, ha⟩ := escape_reads hback h
    refine ⟨⟨_, hpiece⟩, .of_atom ?_⟩
    rcases ha with ha | ⟨region, kind, rfl⟩
    · cases a with
      | literal l =>
        have hl : l.escapes = true := ha
        show l.legible r.verbose = true
        rw [Literal.legible, hl, Bool.true_or]
      | property region negated query => exact ha
      | short region negated kind => rfl
      | dot region => cases ha
      | assertion region kind => cases ha
    · rfl
  · cases h
    exact ⟨⟨_, .advance hpeek⟩, .of_atom rfl⟩
  · cases h
    exact ⟨⟨_, .advance hpeek⟩, .of_atom rfl⟩
  · cases h
    exact ⟨⟨_, .advance hpeek⟩, .of_atom rfl⟩
  · rename_i d hback hdot hstart hend hd
    cases h
    obtain rfl : c = d := Option.some.inj (hpeek.symm.trans hd)
    have hordinary := isOrdinary_of ⟨hback, hdot, hstart, hend⟩ hbody hsign
    refine ⟨⟨_, .advance hpeek⟩, .of_atom ?_⟩
    show Literal.legible _ _ = true
    simp [Literal.legible, hordinary, hseen]
  · cases h

/-! ## Bodies -/

/-- What a body has opened so far. -/
def BodySoFar.opened (b : BodySoFar) : List GroupKind :=
  Pattern.allOpened b.branches.reverse ++ Pattern.allOpened b.items.reverse

theorem BodySoFar.opened_finish (b : BodySoFar) (p : Place) : (b.finish p).opened = b.opened := by
  rw [b.finish_eq, Pattern.opened_bodyOf, Pattern.allOpened_append, opened, Pattern.allOpened,
    Pattern.allOpened, List.append_nil, branch, Pattern.opened_concatOf]

theorem BodySoFar.opened_push (b : BodySoFar) (item : Pattern) :
    (b.push item).opened = b.opened ++ item.opened := by
  rw [opened, opened, push, List.reverse_cons, Pattern.allOpened_append, Pattern.allOpened,
    Pattern.allOpened, List.append_nil, List.append_assoc]

theorem BodySoFar.opened_bar (b : BodySoFar) (p q : Place) : (b.bar p q).opened = b.opened := by
  rw [opened, opened, bar, List.reverse_cons, Pattern.allOpened_append, Pattern.allOpened,
    Pattern.allOpened, List.append_nil, branch, Pattern.opened_concatOf, List.reverse_nil,
    Pattern.allOpened, List.append_nil]

/-- Items that were well read make up a branch that was. -/
theorem wellRead_concatOf {items : List Pattern} {verbose : Bool}
    (h : Pattern.wellReadItems false verbose items = true) (region : Region) :
    (concatOf region items).isBranch = true ∧
      (concatOf region items).wellRead false verbose = true ∧
      Pattern.verboseBehindAll verbose (concatOf region items).items
        = Pattern.verboseBehindAll verbose items := by
  unfold concatOf
  split
  · exact ⟨rfl, rfl, rfl⟩
  · rename_i item
    rw [Pattern.wellReadItems, Bool.and_eq_true, Bool.and_eq_true] at h
    obtain ⟨⟨hitem, hread⟩, _⟩ := h
    refine ⟨?_, hread, by rw [Pattern.items_of_isItem hitem]⟩
    cases item with
    | alternation => cases hitem
    | _ => rfl
  · rename_i hnil hone
    have hlength : 2 ≤ items.length := by
      cases items with
      | nil => exact absurd rfl hnil
      | cons p items =>
        cases items with
        | nil => exact absurd rfl (hone p)
        | cons q items => simp
    refine ⟨rfl, ?_, rfl⟩
    rw [Pattern.wellRead, decide_eq_true hlength, h]
    rfl

/-- Whether blanks are skipped behind the branches of a body. -/
def BodySoFar.verboseBehind (b : BodySoFar) (verbose : Bool) : Bool :=
  Pattern.verboseBehindBranches verbose b.branches.reverse

/-- **The parts of a body were well read,** from where blanks were skipped, or were not, up to
where they are `now`. -/
structure BodySoFar.PartsRead (b : BodySoFar) (verbose now : Bool) : Prop where
  branches : Pattern.wellReadBranches false verbose b.branches.reverse = true
  items : Pattern.wellReadItems false (b.verboseBehind verbose) b.items.reverse = true
  behind : Pattern.verboseBehindAll (b.verboseBehind verbose) b.items.reverse = now

namespace BodySoFar.PartsRead

variable {b : BodySoFar} {item : Pattern} {verbose now now' : Bool}

theorem push (h : b.PartsRead verbose now) (hitem : item.isItem = true)
    (hread : item.wellRead false now = true) (hbehind : item.verboseBehind now = now') :
    (b.push item).PartsRead verbose now' where
  branches := h.branches
  items := by
    show Pattern.wellReadItems false (b.verboseBehind verbose) (item :: b.items).reverse = true
    rw [List.reverse_cons, Pattern.wellReadItems_append, h.items, h.behind, hitem, hread]
    rfl
  behind := by
    show Pattern.verboseBehindAll (b.verboseBehind verbose) (item :: b.items).reverse = now'
    rw [List.reverse_cons, Pattern.verboseBehindAll_append, h.behind, hbehind]

/-- The parts up to the last item, and that item. -/
theorem pop (h : (b.push item).PartsRead verbose now)
    (hsame : ∀ verbose, item.verboseBehind verbose = verbose) :
    b.PartsRead verbose now ∧ item.isItem = true ∧ item.wellRead false now = true := by
  have hitems : Pattern.wellReadItems false (b.verboseBehind verbose) (item :: b.items).reverse
    = true := h.items
  have hbehind : Pattern.verboseBehindAll (b.verboseBehind verbose) (item :: b.items).reverse
    = now := h.behind
  rw [List.reverse_cons, Pattern.verboseBehindAll_append, hsame] at hbehind
  rw [List.reverse_cons, Pattern.wellReadItems_append, hbehind, Bool.and_eq_true,
    Bool.and_eq_true] at hitems
  exact ⟨⟨h.branches, hitems.1, hbehind⟩, hitems.2⟩

/-- The branches, and the one that ends. -/
theorem branch (h : b.PartsRead verbose now) (p : Place) :
    Pattern.wellReadBranches false verbose (b.branches.reverse ++ [b.branch p]) = true ∧
      Pattern.verboseBehindBranches verbose (b.branches.reverse ++ [b.branch p]) = now := by
  obtain ⟨hbranch, hread, hbehind⟩ := wellRead_concatOf h.items ⟨b.branchStart, p⟩
  rw [← BodySoFar.branch] at hbranch hread hbehind
  constructor
  · rw [Pattern.wellReadBranches_append, h.branches, hbranch, ← BodySoFar.verboseBehind, hread]
    rfl
  · rw [Pattern.verboseBehindBranches_append, ← BodySoFar.verboseBehind, hbehind, h.behind]

/-- Behind a bar nothing was read of the next branch. -/
theorem bar (h : b.PartsRead verbose now) (p q : Place) : (b.bar p q).PartsRead verbose now := by
  obtain ⟨hbranches, hbehind⟩ := h.branch p
  rw [← List.reverse_cons] at hbranches hbehind
  exact ⟨hbranches, rfl, hbehind⟩

/-- **A body is well read** if its parts are. -/
theorem finish (h : b.PartsRead verbose now) (p : Place) :
    (b.finish p).wellRead false verbose = true := by
  have hbranches := (h.branch p).1
  rw [b.finish_eq]
  unfold bodyOf
  split
  · rename_i q hq
    rw [hq, Pattern.wellReadBranches, Bool.and_eq_true, Bool.and_eq_true] at hbranches
    exact hbranches.1.2
  · rename_i hone
    have hlength : 2 ≤ (b.branches.reverse ++ [b.branch p]).length := by
      rw [List.length_append, List.length_reverse, List.length_singleton]
      cases hcases : b.branches with
      | nil => exact absurd (by rw [hcases]; rfl) (hone (b.branch p))
      | cons q qs => simp
    rw [Pattern.wellRead, decide_eq_true hlength, hbranches]
    rfl

end BodySoFar.PartsRead

/-- **A body was well read** up to a reader: its parts were, and unless blanks are skipped, no
question mark comes next behind an operator that it would make lazy. -/
structure BodySoFar.WellRead (b : BodySoFar) (verbose : Bool) (r : Reader) : Prop where
  parts : b.PartsRead verbose r.verbose
  greedy : r.verbose = false → ∀ p, b.items.head? = some p → p.isGreedy = true →
    r.peek? ≠ some '?'

/-- A body at its beginning. -/
theorem BodySoFar.WellRead.start (p : Place) : (startAt p).WellRead r.verbose r :=
  ⟨⟨rfl, rfl, rfl⟩, nofun⟩

/-- One more item was read. -/
theorem BodySoFar.WellRead.push {b : BodySoFar} {item : Pattern} {verbose : Bool}
    (h : b.PartsRead verbose r.verbose) (hitem : item.isItem = true)
    (hread : item.wellRead false r.verbose = true)
    (hbehind : item.verboseBehind r.verbose = r'.verbose)
    (hgreedy : item.isGreedy = true → r'.peek? ≠ some '?') :
    (b.push item).WellRead verbose r' where
  parts := h.push hitem hread hbehind
  greedy _ p hp hp' := by
    rw [← Option.some.inj hp] at hp'
    exact hgreedy hp'

/-- A branch was ended. -/
theorem BodySoFar.WellRead.bar {b : BodySoFar} {verbose : Bool}
    (h : b.PartsRead verbose r.verbose) (p q : Place) : (b.bar p q).WellRead verbose r where
  parts := h.bar p q
  greedy _ _ hp := by cases hp

/-- **The rest of a body was read** behind what was read so far: it opens what was opened, and was
well read if that was. -/
structure ReadsBody (r : Reader) (b : BodySoFar) (p : Pattern) (r' : Reader) : Prop where
  opens : ∃ kinds, p.opened = b.opened ++ kinds ∧ Opens r kinds r'
  wellRead : ∀ {verbose}, b.WellRead verbose r → p.wellRead false verbose = true

/-- Nothing was left to be read. -/
theorem ReadsBody.stop (r : Reader) (b : BodySoFar) : ReadsBody r b (b.finish r.place) r := by
  refine ⟨⟨[], ?_, .of_reads (.refl r)⟩, fun hb => hb.parts.finish r.place⟩
  rw [b.opened_finish, List.append_nil]

/-- **One more step** in front of what was read. -/
theorem ReadsBody.step {b b' : BodySoFar} {p : Pattern} {kinds : List GroupKind}
    (hopens : Opens r kinds r₁) (hopened : b'.opened = b.opened ++ kinds)
    (hread : ∀ {verbose}, b.WellRead verbose r → b'.WellRead verbose r₁)
    (h : ReadsBody r₁ b' p r') : ReadsBody r b p r' := by
  obtain ⟨kinds', hp, hopens'⟩ := h.opens
  refine ⟨⟨_, ?_, hopens.trans hopens'⟩, fun hb => h.wellRead (hread hb)⟩
  rw [hp, hopened, List.append_assoc]

/-- Blanks in front of it. -/
theorem ReadsBody.skip {b : BodySoFar} {p : Pattern} (h : ReadsBody r.skip b p r') :
    ReadsBody r b p r' := by
  obtain ⟨blanks, hblanks, _⟩ := r.exists_reads_skip
  refine .step (.of_reads hblanks) (List.append_nil _).symm ?_ h
  intro verbose hb
  refine ⟨hblanks.verbose ▸ hb.parts, fun hverbose => ?_⟩
  -- If no blanks are skipped it is the same reader.
  rw [hblanks.verbose] at hverbose
  rw [skip_of_not_verbose hverbose]
  exact hb.greedy hverbose

/-- An item that opens nothing. -/
theorem ReadsBody.leaf {b : BodySoFar} {p item : Pattern} {piece : List Char}
    (hread : r.Reads piece r₁) (hitem : IsLeaf r.verbose item)
    (h : ReadsBody r₁ (b.push item) p r') : ReadsBody r b p r' := by
  refine .step (.of_reads hread) (by rw [b.opened_push, hitem.opened]) ?_ h
  intro verbose hb
  refine .push hb.parts hitem.isItem hitem.wellRead ((hitem.behind _).trans hread.verbose.symm) ?_
  rw [hitem.isGreedy]
  nofun

/-- An item that can be repeated can stand in a row, and does not change what is skipped. -/
theorem repeatable?_spec {items rest : List Pattern} {item : Pattern}
    (h : repeatable? items = some (item, rest)) :
    items = item :: rest ∧ (item.isItem = true → item.isRepeatable = true) ∧
      ∀ verbose, item.verboseBehind verbose = verbose := by
  cases items with
  | nil => cases h
  | cons p items =>
    cases p <;> cases h <;> exact ⟨rfl, id, fun _ => rfl⟩

/-- **A repetition,** whose operator is not taken for a part of what it repeats. -/
theorem ReadsBody.repetition {b : BodySoFar} {p item : Pattern} {items : List Pattern}
    {rep : Repeating} {place : Place} {piece : List Char} (hread : r.Reads piece r₁)
    (hitem : repeatable? b.items = some (item, items)) (hop : rep.op.legible = true)
    (hgreedy : rep.greedy = true → r₁.peek? ≠ some '?')
    (hoptional : rep.op = .optional → r.peek? = some '?')
    (h : ReadsBody r₁ { b with items := repetitionOf item rep place :: items } p r') :
    ReadsBody r b p r' := by
  obtain ⟨hitems, hrepeatable, hsame⟩ := repeatable?_spec hitem
  refine .step (.of_reads hread) ?_ ?_ h
  · rw [BodySoFar.opened, BodySoFar.opened, hitems, List.append_nil, List.reverse_cons,
      List.reverse_cons, Pattern.allOpened_append, Pattern.allOpened_append]
    rfl
  · intro verbose hb
    have hhead := hb.greedy
    rw [hitems] at hhead
    have hpushed : BodySoFar.PartsRead ({ b with items := items }.push item) verbose r.verbose := by
      rw [BodySoFar.push, ← hitems]
      exact hb.parts
    obtain ⟨hfront, hitem, hsub⟩ := hpushed.pop hsame
    refine .push hfront rfl ?_ hread.verbose.symm hgreedy
    have hnot : (r.verbose || !(rep.op == .optional && item.isGreedy)) = true := by
      cases hverbose : r.verbose with
      | true => rfl
      | false =>
        rw [Bool.false_or, Bool.not_eq_true', Bool.and_eq_false_iff, beq_eq_false_iff_ne]
        by_contra hboth
        rw [not_or, not_not, Bool.not_eq_false] at hboth
        exact hhead hverbose item rfl hboth.2 (hoptional hboth.1)
    rw [repetitionOf, Pattern.wellRead, hop, hrepeatable hitem, hnot, hsub]
    rfl

/-- The end of a branch. -/
theorem ReadsBody.bar {b : BodySoFar} {p : Pattern} {here next : Place}
    (hpeek : r.peek? = some '|') (h : ReadsBody r.advance (b.bar here next) p r') :
    ReadsBody r b p r' := by
  refine .step (.of_reads (.advance hpeek)) ?_ ?_ h
  · rw [b.opened_bar, List.append_nil]
  · intro verbose hb
    exact .bar (r := r.advance) hb.parts _ _

/-- **A change of flags,** from which on blanks may be skipped or not. -/
theorem ReadsBody.setFlags {b : BodySoFar} {p : Pattern} {region : Region} {l : FlagList}
    (hopens : Opens r [.flags l] r₁) (hkeeps : r₁.verbose = r.verbose)
    (hlegible : (Pattern.setFlags region l).legible r.verbose = true)
    (h : ReadsBody { r₁ with verbose := l.verboseIn r₁.verbose }
      (b.push (.setFlags region l)) p r') : ReadsBody r b p r' := by
  refine .step (hopens.trans (.of_verbose r₁ _)) (b.opened_push _) ?_ h
  intro verbose hb
  refine .push hb.parts rfl hlegible ?_ (absurd · Bool.false_ne_true)
  rw [← hkeeps]
  rfl

/-- **A group,** whose body was read under its own flags. Behind it those from before it apply
again. -/
theorem ReadsBody.group {b : BodySoFar} {p sub : Pattern} {region : Region} {kind : GroupKind}
    {r₂ : Reader} {c : Char} (hopens : Opens r [kind] r₁) (hkeeps : r₁.verbose = r.verbose)
    (hkind : kind.legible = true)
    (hsub : ReadsBody { r₁ with verbose := kind.verboseIn r₁.verbose } (.startAt r₁.place) sub r₂)
    (hclose : r₂.peek? = some c)
    (h : ReadsBody { r₂.advance with verbose := r₁.verbose }
      (b.push (.group region kind sub)) p r') : ReadsBody r b p r' := by
  obtain ⟨kinds, hkinds, hopens'⟩ := hsub.opens
  have hopened : sub.opened = kinds := hkinds
  have hall := ((hopens.trans (.of_verbose r₁ _)).trans hopens').trans
    ((Opens.of_reads (.advance hclose)).trans (.of_verbose _ r₁.verbose))
  rw [List.append_nil, List.append_nil, List.append_nil] at hall
  refine .step hall ?_ ?_ h
  · rw [b.opened_push, Pattern.opened, hopened]
    rfl
  · intro verbose hb
    refine .push hb.parts rfl ?_ hkeeps.symm (absurd · Bool.false_ne_true)
    have hinside := hsub.wellRead (.start r₁.place)
    rw [Pattern.wellRead, hkind, ← hkeeps]
    exact hinside

/-- **A bracketed class.** Where nothing is skipped, it is legible. -/
theorem ReadsBody.bracketed {b : BodySoFar} {p : Pattern} {piece : List Char} {region : Region}
    {negated : Bool} {set : ClassSet} (hread : r.Reads piece r₁)
    (hlegible : r.verbose = false → set.endsHead negated = true ∧
      set.legible false (headCount set.firstItems) [']'] = true)
    (h : ReadsBody r₁ (b.push (.bracketed region negated set)) p r') : ReadsBody r b p r' := by
  refine .step (.of_reads hread) (b.opened_push _) ?_ h
  intro verbose hb
  refine .push hb.parts rfl ?_ hread.verbose.symm (absurd · Bool.false_ne_true)
  cases hverbose : r.verbose with
  | true => rfl
  | false =>
    obtain ⟨hends, hset⟩ := hlegible hverbose
    rw [Pattern.wellRead, Pattern.legible, hends, hset]
    rfl

/-- **A body, read** round by round. -/
theorem body_reads {rounds : Nat} {b : BodySoFar} {p : Pattern}
    (h : body rounds r b = .ok (p, r')) : ReadsBody r b p r' := by
  induction rounds generalizing r b p r' with
  | zero =>
    cases h
    exact .stop r b
  | succ rounds ih =>
    refine .skip ?_
    rw [body] at h
    dsimp only at h
    split at h
    · cases h
      exact .stop _ b
    · cases h
      exact .stop _ b
    · rename_i hpeek
      exact .bar hpeek (ih h)
    · rename_i hpeek
      obtain ⟨⟨o, r₁⟩, ho, h⟩ := bind_eq_ok.1 h
      obtain ⟨hkeeps, ⟨region, l, rfl, hopens, hl⟩ | ⟨region, kind, rfl, hopens, hkind⟩⟩ :=
        opening_reads hpeek ho
      · exact .setFlags hopens hkeeps hl (ih h)
      · obtain ⟨⟨sub, r₂⟩, hsub, h⟩ := bind_eq_ok.1 h
        dsimp only at h
        split at h
        · cases h
        · rename_i hclosed
          obtain ⟨c, hclose⟩ := Option.ne_none_iff_exists'.1 fun hnone =>
            hclosed (Option.isNone_iff_eq_none.2 hnone)
          refine .group hopens hkeeps hkind ?_ hclose (ih h)
          cases kind <;> exact ih hsub
    · rename_i hpeek
      obtain ⟨⟨item, r₁⟩, hitem, h⟩ := bind_eq_ok.1 h
      obtain ⟨⟨piece, hread⟩, region, negated, set, rfl, hlegible⟩ :=
        bracketedClass_reads hpeek hitem
      exact .bracketed hread hlegible (ih h)
    · rename_i hpeek
      split at h
      · cases h
      · rename_i item items hitem
        obtain ⟨⟨rep, r₁⟩, hrep, h⟩ := bind_eq_ok.1 h
        obtain ⟨⟨piece, hread⟩, hop, hnot, hgreedy⟩ := counted_reads hpeek hrep
        exact .repetition hread hitem hop hgreedy (fun h => absurd h hnot) (ih h)
    · rename_i c hclose hbar hopen hbracket hbrace hpeek
      split at h
      · rename_i op hop
        split at h
        · cases h
        · rename_i item items hitem
          obtain ⟨⟨piece, hread⟩, hlegible, hoptional, hgreedy⟩ := signed_reads hpeek hop rfl
          exact .repetition hread hitem hlegible hgreedy (fun h => hoptional h ▸ hpeek) (ih h)
      · rename_i hsign
        obtain ⟨⟨a, r₁⟩, ha, h⟩ := bind_eq_ok.1 h
        obtain ⟨blanks, hblanks, _⟩ := r.exists_reads_skip
        have hseen := isSkipped_of_skip hpeek
        rw [← hblanks.verbose] at hseen
        obtain ⟨⟨piece, hread⟩, hleaf⟩ :=
          atom_reads hpeek ⟨hclose, hbar, hopen, hbracket, hbrace⟩ hsign hseen ha
        exact .leaf hread hleaf (ih h)

/-- **A pattern that was read** has its groups numbered in order, has no name twice, is not nested
too deep, and was well read. -/
theorem Pattern.parse_reads {text : List Char} {p : Pattern} (h : Pattern.parse text = .ok p) :
    InOrder 0 p.numbers ∧ p.names.Nodup ∧ HasRoom 0 p.height ∧
      p.wellRead false false = true := by
  unfold parse at h
  obtain ⟨⟨p', r'⟩, hbody, h⟩ := bind_eq_ok.1 h
  dsimp only at h
  split at h
  · cases h
  · split at h
    · cases h
    · rename_i hroom
      cases h
      have hread := body_reads hbody
      obtain ⟨kinds, hopened, hopens⟩ := hread.opens
      have hopened : p.opened = kinds := hopened
      have hstart : (BodySoFar.startAt (ofText text).place).WellRead (ofText text).verbose
        (ofText text) := .start _
      refine ⟨?_, ?_, (p.tooDeep?_eq_none_iff 0).1 hroom, hread.wellRead hstart⟩
      · rw [numbers, hopened]
        exact hopens.inOrder
      · have hnodup := hopens.nodup List.nodup_nil
        rw [hopens.names, ← hopened, ← p.names_eq_opened] at hnodup
        have hnone : (ofText text).names.map Prod.fst = [] := rfl
        rw [hnone, List.append_nil] at hnodup
        exact (List.reverse_perm _).nodup_iff.1 hnodup

/-- **A pattern that is not verbose is legible** once it was read. -/
theorem Pattern.legible_of_parse {text : List Char} {p : Pattern} (h : Pattern.parse text = .ok p)
    (hnot : p.isVerbose = false) : p.legible false = true :=
  p.legible_of_wellRead (parse_reads h).2.2.2 hnot

end StatefulLexer.Regex
