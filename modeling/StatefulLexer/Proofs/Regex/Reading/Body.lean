/-
Reading patterns.

A legible pattern is read back: the tree of its text is the tree itself, up to places and to
the numbers of its groups. There is one way to fail, which is that two of its groups have the
same name. A row of items is read item by item, whatever was read before it; a body is read
branch by branch.

Main statements: `Pattern.read_item`, `Pattern.read_body`, `Pattern.parse_render`.
-/
import StatefulLexer.Proofs.Regex.Reading.LegiblePattern
import StatefulLexer.Regex.Parser

set_option autoImplicit false

namespace StatefulLexer.Regex

/-! ## Readers that count -/

/-- A reader at a text, behind `n` capture groups and with names given, the last one
first. -/
structure Reader.Stands (r : Reader) (verbose : Bool) (text : List Char) (n : Nat)
    (names : List (List Char)) : Prop extends r.At verbose text where
  groups : r.groups = n
  names : r.names.map Prod.fst = names

namespace Reader.Stands

variable {r : Reader} {verbose : Bool} {text rest : List Char} {n : Nat}
  {names : List (List Char)}

theorem past (h : r.Stands verbose (text ++ rest) n names) :
    (r.behind text.length).Stands verbose rest n names :=
  ⟨h.toAt.past, h.groups, h.names⟩

theorem next {c : Char} (h : r.Stands verbose (c :: text) n names) :
    (r.behind 1).Stands verbose text n names :=
  ⟨h.toAt.next, h.groups, h.names⟩

theorem counting (h : r.Stands verbose text n names) :
    r.counting.Stands verbose text (n + 1) names :=
  ⟨h.toAt.counting, congrArg (· + 1) h.groups, h.names⟩

theorem naming (h : r.Stands verbose text n names) (name : List Char) (region : Region) :
    (r.naming name region).Stands verbose text n (name :: names) :=
  ⟨⟨h.verbose, h.rest⟩, h.groups, congrArg (name :: ·) h.names⟩

theorem within (h : r.Stands verbose text n names) (verbose' : Bool) :
    ({ r with verbose := verbose' } : Reader).Stands verbose' text n names :=
  ⟨⟨rfl, h.rest⟩, h.groups, h.names⟩

theorem knows_iff (h : r.Stands verbose text n names) (name : List Char) :
    r.knows name = true ↔ name ∈ names := by
  rw [Reader.knows, List.any_eq_true, ← h.names, List.mem_map]
  exact exists_congr fun x => and_congr_right fun _ => beq_iff_eq

end Reader.Stands

/-! ## Steps of a body -/

section steps

variable {r : Reader} {verbose : Bool} {c : Char} {text rest : List Char}

/-- The end of a body: that of the pattern, or of the group it is in. -/
def EndsBody (rest : List Char) : Prop := rest = [] ∨ ∃ tail, rest = ')' :: tail

/-- **At its end** a body is finished. -/
theorem body_end (h : r.At verbose rest) (hrest : EndsBody rest) (rounds : Nat) (b : BodySoFar) :
    body rounds r b = .ok (b.finish r.place, r) := by
  cases rounds with
  | zero => rfl
  | succ rounds =>
    rcases hrest with rfl | ⟨tail, rfl⟩
    · have hpeek : r.peek? = none := h.peek?
      rw [body]
      dsimp only
      rw [h.skip (Visible.nil verbose), hpeek]
    · have hpeek : r.peek? = some ')' := h.peek?
      rw [body]
      dsimp only
      rw [h.skip (visible_cons.2 (isSkipped_of_seen (by decide) (by decide))), hpeek]
      rfl

/-- **A bar** ends a branch. -/
theorem body_bar (h : r.At verbose ('|' :: text)) (rounds : Nat) (b : BodySoFar) :
    body (rounds + 1) r b = body rounds (r.behind 1) (b.bar r.place (r.behind 1).place) := by
  have hpeek : r.peek? = some '|' := h.peek?
  rw [body]
  dsimp only
  rw [h.skip (visible_cons.2 (isSkipped_of_seen (by decide) (by decide))), hpeek,
    Reader.advance_eq]
  rfl

/-- **An atom** is one more item. -/
theorem body_atom (h : r.At verbose (c :: text)) (hc : beginsItem verbose c = true)
    (hparenthesis : c ≠ '(') (hbracket : c ≠ '[') (rounds : Nat) (b : BodySoFar) :
    body (rounds + 1) r b
      = (atom r).bind fun (item, r') => body rounds r' (b.push item.toPattern) := by
  simp only [beginsItem, Bool.and_eq_true, Bool.not_eq_true', bne_iff_ne] at hc
  obtain ⟨⟨⟨⟨⟨⟨hseen, hclosing⟩, hbar⟩, hbrace⟩, hquestion⟩, hstar⟩, hplus⟩ := hc
  have hpeek : r.peek? = some c := h.peek?
  have hsign : signOp? c = none := by
    unfold signOp?
    split
    · exact absurd rfl hquestion
    · exact absurd rfl hstar
    · exact absurd rfl hplus
    · rfl
  rw [body]
  dsimp only
  rw [h.skip (visible_cons.2 hseen), hpeek]
  split
  · rename_i hnone
    cases hnone
  · rename_i heq
    exact absurd (Option.some.inj heq) hclosing
  · rename_i heq
    exact absurd (Option.some.inj heq) hbar
  · rename_i heq
    exact absurd (Option.some.inj heq) hparenthesis
  · rename_i heq
    exact absurd (Option.some.inj heq) hbracket
  · rename_i heq
    exact absurd (Option.some.inj heq) hbrace
  · rename_i d _ _ _ _ _ heq
    rw [← Option.some.inj heq, hsign]
    rfl

/-- **A class** is one more item. -/
theorem body_bracket (h : r.At verbose ('[' :: text)) (rounds : Nat) (b : BodySoFar) :
    body (rounds + 1) r b
      = (bracketedClass r).bind fun (item, r') => body rounds r' (b.push item) := by
  have hpeek : r.peek? = some '[' := h.peek?
  rw [body]
  dsimp only
  rw [h.skip (visible_cons.2 (isSkipped_of_seen (by decide) (by decide))), hpeek]
  rfl

/-- **A parenthesis** sets flags, or begins a group around a body of its own. -/
theorem body_open (h : r.At verbose ('(' :: text)) (rounds : Nat) (b : BodySoFar) :
    body (rounds + 1) r b = (opening r).bind fun
      | (.setFlags region flags, r') =>
        body rounds { r' with verbose := flags.verboseIn r'.verbose }
          (b.push (.setFlags region flags))
      | (.group region kind, r') =>
        (body rounds { r' with verbose := kind.verboseIn r'.verbose } (.startAt r'.place)).bind
          fun (sub, r'') =>
            if r''.peek?.isNone then fault .groupUnclosed region
            else
              body rounds { r''.advance with verbose := r'.verbose }
                (b.push (.group ⟨region.start, r''.advance.place⟩ kind sub)) := by
  have hpeek : r.peek? = some '(' := h.peek?
  rw [body]
  dsimp only
  rw [h.skip (visible_cons.2 (isSkipped_of_seen (by decide) (by decide))), hpeek]
  cases opening r with
  | error f => rfl
  | ok x =>
    obtain ⟨o, r'⟩ := x
    cases o with
    | setFlags region flags => rfl
    | group region kind => cases kind <;> rfl

/-- A sign that is an operator repeats the item in front of it. -/
theorem body_sign (h : r.At verbose (c :: text)) (hseen : isSkipped verbose c = false)
    {op : RepeatOp} (hop : signOp? c = some op) (rounds : Nat) {b : BodySoFar} {item : Pattern}
    {items : List Pattern} (hb : repeatable? b.items = some (item, items)) :
    body (rounds + 1) r b = body rounds (signed op r).2
      { b with items := repetitionOf item (signed op r).1 (signed op r).2.place :: items } := by
  have hpeek : r.peek? = some c := h.peek?
  have hne {d : Char} (hd : signOp? d = none) : some c ≠ some d := by
    intro heq
    rw [Option.some.inj heq, hd] at hop
    cases hop
  rw [body]
  dsimp only
  rw [h.skip (visible_cons.2 hseen), hpeek]
  split
  · rename_i hnone
    cases hnone
  · rename_i heq
    exact absurd heq (hne rfl)
  · rename_i heq
    exact absurd heq (hne rfl)
  · rename_i heq
    exact absurd heq (hne rfl)
  · rename_i heq
    exact absurd heq (hne rfl)
  · rename_i heq
    exact absurd heq (hne rfl)
  · rename_i d _ _ _ _ _ heq
    rw [← Option.some.inj heq, hop]
    dsimp only
    rw [hb]

/-- A brace begins an operator that repeats the item in front of it. -/
theorem body_brace (h : r.At verbose ('{' :: text)) (rounds : Nat) {b : BodySoFar} {item : Pattern}
    {items : List Pattern} (hb : repeatable? b.items = some (item, items)) :
    body (rounds + 1) r b = (counted r).bind fun (rep, r') =>
      body rounds r' { b with items := repetitionOf item rep r'.place :: items } := by
  have hpeek : r.peek? = some '{' := h.peek?
  rw [body]
  dsimp only
  rw [h.skip (visible_cons.2 (isSkipped_of_seen (by decide) (by decide))), hpeek]
  rw [hb]
  rfl

/-- **An operator** repeats the item in front of it. -/
theorem body_repeat {op : RepeatOp} (hop : op.legible = true) {greedy : Bool}
    (h : r.At verbose (op.render greedy ++ rest)) (hvisible : Visible verbose rest)
    (hrest : greedy = true → rest.head? ≠ some '?') (rounds : Nat) {b : BodySoFar}
    {item : Pattern} {items : List Pattern} (hb : repeatable? b.items = some (item, items)) :
    body (rounds + 1) r b = body rounds (r.behind (op.render greedy).length)
      { b with items := repetitionOf item ⟨op, greedy⟩ (r.behind (op.render greedy).length).place
        :: items } := by
  have hcounted {counts : List Char} (hcounts : op.counts? = some counts) :
      body (rounds + 1) r b = body rounds (r.behind (op.render greedy).length)
        { b with items := repetitionOf item ⟨op, greedy⟩ (r.behind (op.render greedy).length).place
          :: items } := by
    have hread := counted_read hop hcounts h hvisible hrest
    rw [op.render_counts hcounts, List.cons_append] at h
    rw [body_brace h rounds hb, hread]
    rfl
  have hsigned {c : Char} (hseen : isSkipped verbose c = false) (hsign : signOp? c = some op)
      (htext : op.render greedy = c :: if greedy then [] else ['?']) :
      body (rounds + 1) r b = body rounds (r.behind (op.render greedy).length)
        { b with items := repetitionOf item ⟨op, greedy⟩ (r.behind (op.render greedy).length).place
          :: items } := by
    rw [htext, List.cons_append] at h
    rw [htext, List.length_cons, Nat.add_comm (List.length _), body_sign h hseen hsign rounds hb,
      signed_read h hrest]
  cases op with
  | optional => exact hsigned (isSkipped_of_seen (by decide) (by decide)) (c := '?') rfl rfl
  | star => exact hsigned (isSkipped_of_seen (by decide) (by decide)) (c := '*') rfl rfl
  | plus => exact hsigned (isSkipped_of_seen (by decide) (by decide)) (c := '+') rfl rfl
  | exactly n => exact hcounted rfl
  | atLeast n => exact hcounted rfl
  | between m n => exact hcounted rfl

end steps

/-! ## Rows -/

/-- More items behind those that were read. -/
def BodySoFar.pushAll (b : BodySoFar) (items : List Pattern) : BodySoFar :=
  { b with items := items.reverse ++ b.items }

theorem BodySoFar.pushAll_append (b : BodySoFar) (as bs : List Pattern) :
    b.pushAll (as ++ bs) = (b.pushAll as).pushAll bs := by
  rw [pushAll, pushAll, pushAll, List.reverse_append, List.append_assoc]

/-- **A row of items is read** in front of `rest`: they are pushed one by one, unless a name is
given twice, which is a fault. What is pushed does not depend on the body, and there may be
any number of rounds that is enough. -/
structure RowRead (verbose : Bool) (items : List Pattern) (rest : List Char) : Prop where
  fresh : ∀ {r : Reader} {n : Nat} {names : List (List Char)},
    r.Stands verbose (Pattern.renderAll items ++ rest) n names →
    ((Pattern.allNames items).reverse ++ names).Nodup →
    ∃ (items' : List Pattern) (r' : Reader) (used : Nat),
      items'.map Pattern.unplaced = Pattern.allNumbered n items ∧
      used ≤ (Pattern.renderAll items).length ∧
      r'.Stands (Pattern.verboseBehindAll verbose items) rest (n + Pattern.totalGroups items)
        ((Pattern.allNames items).reverse ++ names) ∧
      ∀ rounds b, (Pattern.renderAll items).length ≤ rounds →
        body rounds r b = body (rounds - used) r' (b.pushAll items')
  known : ∀ {r : Reader} {n : Nat} {names : List (List Char)},
    r.Stands verbose (Pattern.renderAll items ++ rest) n names → names.Nodup →
    ¬((Pattern.allNames items).reverse ++ names).Nodup →
    ∀ rounds b, (Pattern.renderAll items).length ≤ rounds → ∃ f, body rounds r b = .error f

namespace RowRead

variable {verbose : Bool} {rest : List Char}

theorem nil : RowRead verbose [] rest where
  fresh h _ := ⟨[], _, 0, rfl, Nat.le_refl 0, h, fun _ _ _ => rfl⟩
  known _ hnames hrepeated := absurd hnames hrepeated

/-- Rows that are read are read behind each other. -/
theorem append {as bs : List Pattern} (ha : RowRead verbose as (Pattern.renderAll bs ++ rest))
    (hb : RowRead (Pattern.verboseBehindAll verbose as) bs rest) :
    RowRead verbose (as ++ bs) rest := by
  have hnames (names : List (List Char)) : (Pattern.allNames (as ++ bs)).reverse ++ names
      = (Pattern.allNames bs).reverse ++ ((Pattern.allNames as).reverse ++ names) := by
    rw [Pattern.allNames_append, List.reverse_append, List.append_assoc]
  constructor
  · intro r n names h hnodup
    rw [Pattern.renderAll_append, List.append_assoc] at h
    rw [hnames] at hnodup
    obtain ⟨as', r₁, used₁, hsame₁, hused₁, hat₁, hread₁⟩ :=
      ha.fresh h (List.nodup_append.1 hnodup).2.1
    obtain ⟨bs', r₂, used₂, hsame₂, hused₂, hat₂, hread₂⟩ := hb.fresh hat₁ hnodup
    refine ⟨as' ++ bs', r₂, used₁ + used₂, ?_, ?_, ?_, fun rounds b hrounds => ?_⟩
    · rw [List.map_append, hsame₁, hsame₂, Pattern.allNumbered_append]
    · rw [Pattern.renderAll_append, List.length_append]
      exact Nat.add_le_add hused₁ hused₂
    · rw [hnames, Pattern.totalGroups_append, ← Nat.add_assoc, Pattern.verboseBehindAll,
        List.foldl_append]
      exact hat₂
    · rw [Pattern.renderAll_append, List.length_append] at hrounds
      rw [hread₁ rounds b (by omega), hread₂ (rounds - used₁) _ (by omega), Nat.sub_sub,
        BodySoFar.pushAll_append]
  · intro r n names h hknown hrepeated rounds b hrounds
    rw [Pattern.renderAll_append, List.append_assoc] at h
    rw [Pattern.renderAll_append, List.length_append] at hrounds
    by_cases hfirst : ((Pattern.allNames as).reverse ++ names).Nodup
    · obtain ⟨as', r₁, used₁, _, hused₁, hat₁, hread₁⟩ := ha.fresh h hfirst
      rw [hread₁ rounds b (by omega)]
      rw [hnames] at hrepeated
      exact hb.known hat₁ hfirst hrepeated (rounds - used₁) _ (by omega)
    · exact ha.known h hknown hfirst rounds b (by omega)

end RowRead

/-- An item is read, wherever it stands. -/
def Pattern.IsRead (p : Pattern) : Prop :=
  ∀ {verbose : Bool} {rest : List Char}, p.isItem = true → p.legible verbose = true →
    ItemRest verbose p rest → RowRead verbose [p] rest

/-- **A row of items is read** if each item is. -/
theorem RowRead.of_items {items : List Pattern} (hread : ∀ p ∈ items, p.IsRead) {verbose : Bool}
    {rest : List Char} (h : Pattern.legibleItems verbose items = true) (hrest : EndsRow rest) :
    RowRead verbose items rest := by
  induction items generalizing verbose with
  | nil => exact .nil
  | cons p items ih =>
    obtain ⟨hp, hmore⟩ := List.forall_mem_cons.1 hread
    rw [Pattern.legibleItems, Bool.and_eq_true, Bool.and_eq_true] at h
    obtain ⟨⟨hitem, hlegible⟩, hitems⟩ := h
    have hbehind : ItemRest verbose p (Pattern.renderAll items ++ rest) := by
      cases items with
      | nil => exact hrest.itemRest verbose p
      | cons q items =>
        rw [Pattern.legibleItems, Bool.and_eq_true, Bool.and_eq_true] at hitems
        rw [Pattern.renderAll, List.append_assoc]
        exact .item hitems.1.1 hitems.1.2 _
    exact (hp hitem hlegible hbehind).append (ih hmore hitems)

/-! ## Branches -/

/-- A body of the branches, which is no choice if there is but one. -/
def bodyOf (region : Region) (branches : List Pattern) : Pattern :=
  match branches with
  | [p] => p
  | branches => .alternation region branches

theorem BodySoFar.finish_eq (b : BodySoFar) (p : Place) :
    b.finish p = bodyOf ⟨b.start, p⟩ (b.branches.reverse ++ [b.branch p]) := by
  rw [finish]
  split
  · rename_i hnil
    rw [hnil]
    rfl
  · rename_i hne
    rw [List.reverse_cons]
    cases hbranches : b.branches with
    | nil => exact absurd hbranches hne
    | cons q branches =>
      rw [List.reverse_cons]
      cases branches.reverse with
      | nil => rfl
      | cons x xs =>
        cases xs <;> rfl

/-- Items that were read for those of a branch make up the branch. -/
theorem concatOf_read {p : Pattern} (hbranch : p.isBranch = true) {verbose : Bool}
    (h : p.legible verbose = true) {n : Nat} {items : List Pattern}
    (hsame : items.map Pattern.unplaced = Pattern.allNumbered n p.items) (region : Region) :
    (concatOf region items).unplaced = p.numbered n := by
  have hitem (hitem : p.isItem = true) : (concatOf region items).unplaced = p.numbered n := by
    rw [Pattern.items_of_isItem hitem, Pattern.allNumbered, Pattern.allNumbered] at hsame
    obtain ⟨q, rfl, hq⟩ := List.map_eq_singleton_iff.1 hsame
    exact hq
  cases p with
  | alternation => cases hbranch
  | empty place =>
    rw [List.map_eq_nil_iff.1 hsame]
    rfl
  | concat place items' =>
    have hlength : 2 ≤ items'.length := of_decide_eq_true (Bool.and_eq_true_iff.1 h).1
    cases items' with
    | nil => exact absurd hlength (by decide)
    | cons q items' =>
      cases items' with
      | nil => exact absurd hlength (by decide : ¬2 ≤ 1)
      | cons q' items' =>
        obtain ⟨x, xs, rfl, hx, hxs⟩ := List.map_eq_cons_iff.1 hsame
        obtain ⟨y, ys, rfl, hy, hys⟩ := List.map_eq_cons_iff.1 hxs
        rw [concatOf, Pattern.unplaced, Pattern.allUnplaced_eq_map, hsame]
        rfl
        all_goals nofun
  | _ => exact hitem rfl

/-- Branches that were read for those of a body make up the body. -/
theorem bodyOf_read {p : Pattern} {verbose : Bool} (h : p.legible verbose = true) {n : Nat}
    {branches : List Pattern}
    (hsame : branches.map Pattern.unplaced = Pattern.allNumbered n p.branches) (region : Region) :
    (bodyOf region branches).unplaced = p.numbered n := by
  have hbranch (hbranch : p.isBranch = true) :
      (bodyOf region branches).unplaced = p.numbered n := by
    rw [Pattern.branches_of_isBranch hbranch, Pattern.allNumbered, Pattern.allNumbered] at hsame
    obtain ⟨q, rfl, hq⟩ := List.map_eq_singleton_iff.1 hsame
    exact hq
  cases p with
  | alternation place branches' =>
    have hlength : 2 ≤ branches'.length := of_decide_eq_true (Bool.and_eq_true_iff.1 h).1
    cases branches' with
    | nil => exact absurd hlength (by decide)
    | cons q branches' =>
      cases branches' with
      | nil => exact absurd hlength (by decide : ¬2 ≤ 1)
      | cons q' branches' =>
        obtain ⟨x, xs, rfl, hx, hxs⟩ := List.map_eq_cons_iff.1 hsame
        obtain ⟨y, ys, rfl, hy, hys⟩ := List.map_eq_cons_iff.1 hxs
        rw [bodyOf, Pattern.unplaced, Pattern.allUnplaced_eq_map, hsame]
        rfl
        all_goals nofun
  | _ => exact hbranch rfl

/-- **A body of branches is read** up to its end, unless a name is given twice. What is read
may depend on where the body begins, but not on the number of rounds that is enough. -/
structure BodyRead (verbose : Bool) (branches : List Pattern) (rest : List Char) : Prop where
  fresh : ∀ {r : Reader} {n : Nat} {names : List (List Char)},
    r.Stands verbose (Pattern.renderBranches branches ++ rest) n names →
    ((Pattern.allNames branches).reverse ++ names).Nodup →
    ∃ (r' : Reader) (verbose' : Bool),
      r'.Stands verbose' rest (n + Pattern.totalGroups branches)
        ((Pattern.allNames branches).reverse ++ names) ∧
      ∀ b : BodySoFar, b.items = [] → ∃ branches' : List Pattern,
        branches'.map Pattern.unplaced = Pattern.allNumbered n branches ∧
        ∀ rounds, (Pattern.renderBranches branches).length ≤ rounds →
          body rounds r b = .ok (bodyOf ⟨b.start, r'.place⟩ (b.branches.reverse ++ branches'), r')
  known : ∀ {r : Reader} {n : Nat} {names : List (List Char)},
    r.Stands verbose (Pattern.renderBranches branches ++ rest) n names → names.Nodup →
    ¬((Pattern.allNames branches).reverse ++ names).Nodup →
    ∀ rounds b, b.items = [] → (Pattern.renderBranches branches).length ≤ rounds →
      ∃ f, body rounds r b = .error f

namespace BodyRead

variable {verbose : Bool} {rest : List Char} {p : Pattern}

theorem branch_pushAll {b : BodySoFar} (hb : b.items = []) (items : List Pattern) (place : Place) :
    (b.pushAll items).branch place = concatOf ⟨b.branchStart, place⟩ items := by
  rw [BodySoFar.branch, BodySoFar.pushAll, hb, List.append_nil, List.reverse_reverse]

/-- The last branch ends the body. -/
theorem last (hbranch : p.isBranch = true) (hp : p.legible verbose = true)
    (hrow : RowRead verbose p.items rest) (hrest : EndsBody rest) :
    BodyRead verbose [p] rest := by
  have hnames : Pattern.allNames [p] = Pattern.allNames p.items := by
    rw [Pattern.allNames_items hbranch]
    exact List.append_nil _
  constructor
  · intro r n names h hnodup
    rw [Pattern.renderBranches, ← Pattern.renderAll_items hbranch] at h ⊢
    rw [hnames] at hnodup ⊢
    obtain ⟨items', r', used, hsame, hused, hat, hread⟩ := hrow.fresh h hnodup
    refine ⟨r', Pattern.verboseBehindAll verbose p.items, ?_, fun b hb => ⟨[concatOf ⟨b.branchStart, r'.place⟩ items'], ?_,
      fun rounds hrounds => ?_⟩⟩
    · rw [Pattern.totalGroups, Pattern.totalGroups, ← Pattern.totalGroups_items hbranch]
      exact hat
    · rw [List.map_singleton, concatOf_read hbranch hp hsame]
      rfl
    · rw [hread rounds b hrounds, body_end hat.toAt hrest, BodySoFar.finish_eq,
        branch_pushAll hb]
      rfl
  · intro r n names h hknown hrepeated rounds b _ hrounds
    rw [Pattern.renderBranches, ← Pattern.renderAll_items hbranch] at h hrounds
    rw [hnames] at hrepeated
    exact hrow.known h hknown hrepeated rounds b hrounds

/-- A bar ends another branch. -/
theorem bar {q : Pattern} {branches : List Pattern} (hbranch : p.isBranch = true)
    (hp : p.legible verbose = true)
    (hrow : RowRead verbose p.items ('|' :: (Pattern.renderBranches (q :: branches) ++ rest)))
    (hmore : BodyRead (Pattern.verboseBehindAll verbose p.items) (q :: branches) rest) :
    BodyRead verbose (p :: q :: branches) rest := by
  have hnames (names : List (List Char)) :
      (Pattern.allNames (p :: q :: branches)).reverse ++ names
        = (Pattern.allNames (q :: branches)).reverse
          ++ ((Pattern.allNames p.items).reverse ++ names) := by
    rw [Pattern.allNames, Pattern.allNames_items hbranch, List.reverse_append, List.append_assoc]
  have htext : Pattern.renderBranches (p :: q :: branches)
      = Pattern.renderAll p.items ++ '|' :: Pattern.renderBranches (q :: branches) := by
    rw [Pattern.renderBranches, Pattern.renderAll_items hbranch]
  constructor
  · intro r n names h hnodup
    rw [htext, List.append_assoc, List.cons_append] at h
    rw [hnames] at hnodup
    obtain ⟨items', r₁, used, hsame, hused, hat₁, hread⟩ :=
      hrow.fresh h (List.nodup_append.1 hnodup).2.1
    have hnext := hat₁.next
    obtain ⟨r', verbose', hat', hbody⟩ := hmore.fresh hnext hnodup
    refine ⟨r', verbose', ?_, fun b hb => ?_⟩
    · rw [hnames, Pattern.totalGroups, ← Pattern.totalGroups_items hbranch, ← Nat.add_assoc]
      exact hat'
    · obtain ⟨branches', hsame', hread'⟩ :=
        hbody ((b.pushAll items').bar r₁.place (r₁.behind 1).place) rfl
      refine ⟨concatOf ⟨b.branchStart, r₁.place⟩ items' :: branches', ?_, fun rounds hrounds => ?_⟩
      · rw [List.map_cons, concatOf_read hbranch hp hsame, hsame',
          Pattern.totalGroups_items hbranch]
        rfl
      · rw [htext, List.length_append, List.length_cons] at hrounds
        obtain ⟨k, hk⟩ : ∃ k, rounds - used = k + 1 := ⟨rounds - used - 1, by omega⟩
        have hbranches : ((b.pushAll items').bar r₁.place (r₁.behind 1).place).branches
            = concatOf ⟨b.branchStart, r₁.place⟩ items' :: b.branches := by
          rw [← branch_pushAll hb]
          rfl
        rw [hread rounds b (by omega), hk, body_bar hat₁.toAt, hread' k (by omega), hbranches,
          List.reverse_cons, List.append_assoc]
        rfl
  · intro r n names h hknown hrepeated rounds b hb hrounds
    rw [htext, List.append_assoc, List.cons_append] at h
    rw [htext, List.length_append, List.length_cons] at hrounds
    by_cases hfirst : ((Pattern.allNames p.items).reverse ++ names).Nodup
    · obtain ⟨items', r₁, used, _, hused, hat₁, hread⟩ := hrow.fresh h hfirst
      have hnext := hat₁.next
      obtain ⟨k, hk⟩ : ∃ k, rounds - used = k + 1 := ⟨rounds - used - 1, by omega⟩
      rw [hnames] at hrepeated
      rw [hread rounds b (by omega), hk, body_bar hat₁.toAt]
      exact hmore.known hnext hfirst hrepeated k _ rfl (by omega)
    · exact hrow.known h hknown hfirst rounds b (by omega)

/-- **The branches of a body are read** if the items of each are. -/
theorem of_branches {branches : List Pattern} (hne : branches ≠ [])
    (hread : ∀ q ∈ branches, ∀ p ∈ q.items, p.IsRead) {verbose : Bool}
    (h : Pattern.legibleBranches verbose branches = true) (hrest : EndsBody rest) :
    BodyRead verbose branches rest := by
  induction branches generalizing verbose with
  | nil => exact absurd rfl hne
  | cons p branches ih =>
    obtain ⟨hp, hmore⟩ := List.forall_mem_cons.1 hread
    rw [Pattern.legibleBranches, Bool.and_eq_true, Bool.and_eq_true] at h
    obtain ⟨⟨hbranch, hlegible⟩, hbranches⟩ := h
    have hitems := Pattern.legible_items hbranch hlegible
    cases branches with
    | nil =>
      have hend : EndsRow rest := by
        intro c hc
        rcases hrest with rfl | ⟨tail, rfl⟩
        · cases hc
        · exact .inl (Option.some.inj hc).symm
      exact .last hbranch hlegible (.of_items hp hitems hend) hrest
    | cons q branches =>
      have hbar : EndsRow ('|' :: (Pattern.renderBranches (q :: branches) ++ rest)) :=
        fun c hc => .inr (Option.some.inj hc).symm
      exact .bar hbranch hlegible (.of_items hp hitems hbar)
        (ih (List.cons_ne_nil _ _) hmore hbranches)

end BodyRead

/-! ## Items of one step -/

namespace RowRead

variable {verbose : Bool} {rest : List Char} {p : Pattern}

/-- An item without groups is read if one round reads it. -/
theorem of_step (hnames : p.names = []) (hgroups : p.groupCount = 0)
    (hnumbered : ∀ n, p.numbered n = p.unplaced) (hne : p.render ≠ [])
    (hstep : ∀ {r : Reader} {n : Nat} {names : List (List Char)},
      r.Stands verbose (p.render ++ rest) n names → ∃ (p' : Pattern) (r' : Reader),
        p'.unplaced = p.unplaced ∧ r'.Stands (p.verboseBehind verbose) rest n names ∧
        ∀ rounds b, body (rounds + 1) r b = body rounds r' (b.push p')) :
    RowRead verbose [p] rest := by
  have hnone : Pattern.allNames [p] = [] := by
    rw [Pattern.allNames, hnames]
    rfl
  have htext : Pattern.renderAll [p] = p.render := List.append_nil _
  have hlength : 0 < p.render.length := List.length_pos_iff.2 hne
  constructor
  · intro r n names h _
    rw [htext] at h
    obtain ⟨p', r', hsame, hat, hread⟩ := hstep h
    refine ⟨[p'], r', 1, ?_, ?_, ?_, fun rounds b hrounds => ?_⟩
    · rw [List.map_singleton, hsame, ← hnumbered n]
      rfl
    · rw [htext]
      exact hlength
    · rw [hnone, Pattern.totalGroups, hgroups]
      exact hat
    · rw [htext] at hrounds
      obtain ⟨k, rfl⟩ : ∃ k, rounds = k + 1 := ⟨rounds - 1, by omega⟩
      exact hread k b
  · intro r n names _ hknown hrepeated
    rw [hnone] at hrepeated
    exact absurd hknown hrepeated

/-- An atom is read if `Regex.atom` reads it. -/
theorem of_atom (a : Atom) {c : Char} {text : List Char} (htext : a.render = c :: text)
    (hc : beginsItem verbose c = true) (hparenthesis : c ≠ '(') (hbracket : c ≠ '[')
    (hread : ∀ {r : Reader}, r.At verbose (a.render ++ rest) →
      ∃ a' : Atom, atom r = .ok (a', r.behind a.render.length) ∧ a'.unplaced = a.unplaced) :
    RowRead verbose [a.toPattern] rest := by
  have hrender : a.toPattern.render = a.render := by cases a <;> rfl
  have hunplaced (a : Atom) : a.toPattern.unplaced = a.unplaced.toPattern := by cases a <;> rfl
  have hverbose : a.toPattern.verboseBehind verbose = verbose := by cases a <;> rfl
  refine of_step (by cases a <;> rfl) (by cases a <;> rfl) (fun n => by cases a <;> rfl) ?_ ?_
  · rw [hrender, htext]
    exact List.cons_ne_nil _ _
  · intro r n names h
    rw [hrender] at h
    obtain ⟨a', ha, hsame⟩ := hread h.toAt
    refine ⟨a'.toPattern, r.behind a.render.length, ?_, ?_, fun rounds b => ?_⟩
    · rw [hunplaced, hunplaced, hsame]
    · rw [hverbose]
      exact h.past
    · have hat : r.At verbose (c :: (text ++ rest)) := by
        have hat := h.toAt
        rwa [htext, List.cons_append] at hat
      rw [body_atom hat hc hparenthesis hbracket, ha]
      rfl

/-- An atom behind a backslash is read. -/
theorem of_escape {a : Atom} (ha : a.escapes verbose = true) (hrest : Visible verbose rest) :
    RowRead verbose [a.toPattern] rest := by
  obtain ⟨c, text, htext⟩ := a.render_of_escapes ha
  refine of_atom a htext (beginsItem_of_seen (by decide) (by decide) (by decide)) (by decide)
    (by decide) fun {r} h => ?_
  have hpeek : r.peek? = some '\\' := by
    rw [h.peek?, htext]
    rfl
  obtain ⟨a', hread, hsame⟩ := Atom.read_escape ha h hrest
  refine ⟨a', ?_, hsame⟩
  rw [atom, hpeek]
  exact hread

/-- **A legible literal is read.** -/
theorem of_literal {l : Literal} (hl : l.legible verbose = true) (hrest : Visible verbose rest) :
    RowRead verbose [.literal l] rest := by
  rcases l.legible_cases hl with hescapes | ⟨htext, hplain, hordinary, hseen⟩
  · exact of_escape (a := .literal l) hescapes hrest
  · simp only [isOrdinary, Bool.and_eq_true, bne_iff_ne] at hordinary
    obtain ⟨⟨⟨⟨⟨⟨⟨⟨⟨⟨⟨hback, hdot⟩, hcaret⟩, hdollar⟩, hopen⟩, hclose⟩, hbar⟩, hbracket⟩, hbrace⟩,
      hquestion⟩, hstar⟩, hplus⟩ := hordinary
    have hbegins : beginsItem verbose l.char = true := by
      simp only [beginsItem, hseen, bne_iff_ne.2 hclose, bne_iff_ne.2 hbar, bne_iff_ne.2 hbrace,
        bne_iff_ne.2 hquestion, bne_iff_ne.2 hstar, bne_iff_ne.2 hplus, Bool.not_false,
        Bool.and_self]
    refine of_atom (.literal l) htext hbegins hopen hbracket fun {r} h => ?_
    have htext : Atom.render (.literal l) = [l.char] := htext
    rw [htext] at h ⊢
    have hpeek : r.peek? = some l.char := h.peek?
    refine ⟨.literal ⟨r.charRegion, l.char, .plain⟩, ?_, ?_⟩
    · rw [atom, hpeek]
      split
      · rename_i heq
        exact absurd (Option.some.inj heq) hback
      · rename_i heq
        exact absurd (Option.some.inj heq) hdot
      · rename_i heq
        exact absurd (Option.some.inj heq) hcaret
      · rename_i heq
        exact absurd (Option.some.inj heq) hdollar
      · rename_i heq
        rw [Option.some.inj heq, Reader.advance_eq]
        rfl
      · rename_i heq
        cases heq
    · rw [Atom.unplaced, Atom.unplaced, Literal.unplaced, Literal.unplaced, hplain]

/-- **A legible class is read.** -/
theorem of_bracketed {region : Region} {negated : Bool} {set : ClassSet}
    (hends : set.endsHead negated = true)
    (hset : set.legible verbose (headCount set.firstItems) [']'] = true) :
    RowRead verbose [.bracketed region negated set] rest := by
  refine of_step rfl rfl (fun n => rfl) (List.cons_ne_nil _ _) fun {r n names} h => ?_
  obtain ⟨region', set', hsame, hread⟩ := bracketedClass_read hends hset h.toAt
  refine ⟨.bracketed region' negated set', r.behind (inBrackets negated set.render).length, ?_,
    h.past, fun rounds b => ?_⟩
  · rw [Pattern.unplaced, Pattern.unplaced, hsame]
  · rw [body_bracket h.toAt, hread]
    rfl

/-- **A change of flags is read.** -/
theorem of_setFlags {region : Region} {l : FlagList} (hl : l.legible = true)
    (hne : (l.set.isEmpty && l.cleared.isEmpty) = false) :
    RowRead verbose [.setFlags region l] rest := by
  refine of_step rfl rfl (fun n => rfl) (List.cons_ne_nil _ _) fun {r n names} h => ?_
  have hlength : (Pattern.render (.setFlags region l)).length = l.render.length + 3 := by
    rw [Pattern.render, List.length_append, List.length_append]
    show 2 + l.render.length + 1 = _
    omega
  have hpast := h.past
  have hat : r.At verbose ('(' :: '?' :: (l.render ++ ')' :: rest)) := by
    have hat := h.toAt
    rw [Pattern.render, List.append_assoc, List.append_assoc] at hat
    exact hat
  rw [hlength] at hpast
  refine ⟨.setFlags ⟨r.charRegion.start, (r.behind (l.render.length + 3)).place⟩ l,
    { r.behind (l.render.length + 3) with verbose := l.verboseIn verbose }, rfl, hpast.within _,
    fun rounds b => ?_⟩
  have hverbose : (r.behind (l.render.length + 3)).verbose = verbose := hpast.verbose
  rw [body_open hat, opening_flags hl (.inr rfl) hat, if_pos rfl, hne, if_neg Bool.false_ne_true]
  show body rounds { r.behind (l.render.length + 3) with
    verbose := l.verboseIn (r.behind (l.render.length + 3)).verbose } _ = _
  rw [hverbose]

end RowRead

/-! ## Repetitions -/

theorem Pattern.verboseBehind_of_isRepeatable {p : Pattern} (h : p.isRepeatable = true)
    (verbose : Bool) : p.verboseBehind verbose = verbose := by
  cases p with
  | setFlags => cases h
  | _ => rfl

/-- What was read for an item that can be repeated can be. -/
theorem repeatable?_of_unplaced {p q : Pattern} (hp : p.isRepeatable = true) {n : Nat}
    (hsame : q.unplaced = p.numbered n) (items : List Pattern) :
    repeatable? (q :: items) = some (q, items) := by
  have hnumbered : (p.numbered n).isRepeatable = p.isRepeatable := by cases p <;> rfl
  have hunplaced : q.unplaced.isRepeatable = q.isRepeatable := by cases q <;> rfl
  have hq : q.isRepeatable = true := by rw [← hunplaced, hsame, hnumbered, hp]
  cases q with
  | empty => cases hq
  | setFlags => cases hq
  | _ => rfl

/-- **A repetition is read** if what it repeats is. -/
theorem RowRead.of_repetition {verbose : Bool} {rest : List Char} {region : Region}
    {op : RepeatOp} {greedy : Bool} {sub : Pattern} (hop : op.legible = true)
    (hsub : sub.isRepeatable = true)
    (hrest : ItemRest verbose (.repetition region op greedy sub) rest)
    (h : RowRead verbose [sub] (op.render greedy ++ rest)) :
    RowRead verbose [.repetition region op greedy sub] rest := by
  have htext : Pattern.renderAll [.repetition region op greedy sub]
      = Pattern.renderAll [sub] ++ op.render greedy := by
    rw [Pattern.renderAll, Pattern.renderAll, Pattern.renderAll, Pattern.renderAll, Pattern.render,
      List.append_nil, List.append_nil]
  have hnames : Pattern.allNames [.repetition region op greedy sub] = Pattern.allNames [sub] := rfl
  have hop0 : 0 < (op.render greedy).length := by
    cases op <;> exact Nat.succ_pos _
  constructor
  · intro r n names hat hnodup
    rw [htext, List.append_assoc] at hat
    rw [hnames] at hnodup ⊢
    obtain ⟨items', r', used, hsame, hused, hat', hread⟩ := h.fresh hat hnodup
    obtain ⟨q, rfl, hq⟩ := List.map_eq_singleton_iff.1 hsame
    have hverbose : Pattern.verboseBehindAll verbose [sub] = verbose :=
      Pattern.verboseBehind_of_isRepeatable hsub verbose
    rw [hverbose] at hat'
    refine ⟨[repetitionOf q ⟨op, greedy⟩ (r'.behind (op.render greedy).length).place],
      r'.behind (op.render greedy).length, used + 1, ?_, ?_, hat'.past, fun rounds b hrounds => ?_⟩
    · rw [List.map_singleton, repetitionOf, Pattern.unplaced, hq]
      rfl
    · rw [htext, List.length_append]
      omega
    · rw [htext, List.length_append] at hrounds
      obtain ⟨k, hk⟩ : ∃ k, rounds - used = k + 1 := ⟨rounds - used - 1, by omega⟩
      have hlast : rounds - (used + 1) = k := by omega
      rw [hread rounds b (by omega), hk, hlast]
      exact body_repeat hop hat'.toAt hrest.visible hrest.question k
        (repeatable?_of_unplaced hsub hq b.items)
  · intro r n names hat hknown hrepeated rounds b hrounds
    rw [htext, List.append_assoc] at hat
    rw [htext, List.length_append] at hrounds
    rw [hnames] at hrepeated
    exact h.known hat hknown hrepeated rounds b (by omega)

/-! ## Groups -/

/-- **A group is read** once it is opened, if its body is. -/
theorem RowRead.of_group {verbose : Bool} {rest : List Char} {region : Region}
    {kind : GroupKind} {sub : Pattern} (hsub : sub.legible (kind.verboseIn verbose) = true)
    (hopening : ∀ {r : Reader} {n : Nat} {names : List (List Char)},
      r.Stands verbose (kind.render ++ (sub.render ++ ')' :: rest)) n names →
      ((kind.names ++ names).Nodup → ∃ r',
        r'.Stands verbose (sub.render ++ ')' :: rest) (n + kind.count) (kind.names ++ names) ∧
        opening r = .ok (.group r.charRegion (kind.numbered n), r')) ∧
      (names.Nodup → ¬(kind.names ++ names).Nodup → ∃ f, opening r = .error f))
    (h : BodyRead (kind.verboseIn verbose) sub.branches (')' :: rest)) :
    RowRead verbose [.group region kind sub] rest := by
  have htext : Pattern.renderAll [.group region kind sub]
      = kind.render ++ (sub.render ++ [')']) := by
    rw [Pattern.renderAll, Pattern.renderAll, Pattern.render, List.append_nil, List.append_assoc]
  have hbranches := sub.renderBranches_branches
  have hreverse : kind.names.reverse = kind.names := by cases kind <;> rfl
  have hnames (names : List (List Char)) :
      (Pattern.allNames [.group region kind sub]).reverse ++ names
        = (Pattern.allNames sub.branches).reverse ++ (kind.names ++ names) := by
    rw [Pattern.allNames, Pattern.allNames, Pattern.names, List.append_nil, List.reverse_append,
      hreverse, List.append_assoc, sub.allNames_branches]
  have hfirst : ∃ text, kind.render = '(' :: text := by
    cases kind with
    | capture index => exact ⟨_, rfl⟩
    | named index letterP name => cases letterP <;> exact ⟨_, rfl⟩
    | flags l => exact ⟨_, rfl⟩
  obtain ⟨opened, hopened⟩ := hfirst
  have hinside (n : Nat) : (kind.numbered n).verboseIn verbose = kind.verboseIn verbose := by
    cases kind <;> rfl
  have hlength : 1 ≤ kind.render.length := by
    rw [hopened]
    exact Nat.succ_le_succ (Nat.zero_le _)
  constructor
  · intro r n names hat hnodup
    rw [htext, List.append_assoc, List.append_assoc] at hat
    rw [hnames] at hnodup
    obtain ⟨r₁, hat₁, hopen⟩ := (hopening hat).1 (List.nodup_append.1 hnodup).2.1
    have hwithin := hat₁.within (kind.verboseIn verbose)
    rw [← hbranches] at hwithin
    obtain ⟨r₂, verbose₂, hat₂, hbody⟩ := h.fresh hwithin hnodup
    obtain ⟨branches', hsame, hread⟩ := hbody (.startAt r₁.place) rfl
    have hlast := hat₂.next.within verbose
    have hpeek : r₂.peek? = some ')' := hat₂.peek?
    have hclosed : r₂.advance = r₂.behind 1 := r₂.advance_eq
    refine ⟨[.group ⟨r.charRegion.start, (r₂.behind 1).place⟩ (kind.numbered n)
      (bodyOf ⟨r₁.place, r₂.place⟩ branches')], { r₂.behind 1 with verbose := verbose }, 1,
      ?_, ?_, ?_, fun rounds b hrounds => ?_⟩
    · rw [List.map_singleton, Pattern.unplaced, bodyOf_read hsub hsame]
      rfl
    · rw [htext, List.length_append]
      omega
    · rw [hnames, Pattern.totalGroups, Pattern.totalGroups, Pattern.groupCount, Nat.add_zero,
        ← Nat.add_assoc, ← sub.totalGroups_branches]
      exact hlast
    · rw [htext, List.length_append, List.length_append] at hrounds
      obtain ⟨k, rfl⟩ : ∃ k, rounds = k + 1 := ⟨rounds - 1, by omega⟩
      have hstart : r.At verbose ('(' :: (opened ++ (sub.render ++ ')' :: rest))) := by
        have hstart := hat.toAt
        rwa [hopened, List.cons_append] at hstart
      have hround := hread k (by rw [hbranches]; omega)
      rw [body_open hstart, hopen]
      show ((body k { r₁ with verbose := (kind.numbered n).verboseIn r₁.verbose }
        (.startAt r₁.place)).bind fun x => _) = _
      -- The body is read with the flags of the group, what follows with those around it.
      rw [hat₁.verbose, hinside, hround]
      show (if r₂.peek?.isNone = true then _ else
        body k { r₂.advance with verbose := verbose } (b.push (.group
          ⟨r.charRegion.start, r₂.advance.place⟩ (kind.numbered n) (bodyOf _ _)))) = _
      rw [hpeek, hclosed]
      rfl
  · intro r n names hat hknown hrepeated rounds b hrounds
    rw [htext, List.append_assoc, List.append_assoc] at hat
    rw [htext, List.length_append, List.length_append] at hrounds
    rw [hnames] at hrepeated
    obtain ⟨k, rfl⟩ : ∃ k, rounds = k + 1 := ⟨rounds - 1, by omega⟩
    have hstart : r.At verbose ('(' :: (opened ++ (sub.render ++ ')' :: rest))) := by
      have hstart := hat.toAt
      rwa [hopened, List.cons_append] at hstart
    rw [body_open hstart]
    by_cases hkind : (kind.names ++ names).Nodup
    · obtain ⟨r₁, hat₁, hopen⟩ := (hopening hat).1 hkind
      have hwithin := hat₁.within (kind.verboseIn verbose)
      rw [← hbranches] at hwithin
      obtain ⟨f, hf⟩ := h.known hwithin hkind hrepeated k (.startAt r₁.place) rfl
        (by rw [hbranches]; omega)
      refine ⟨f, ?_⟩
      rw [hopen]
      show ((body k { r₁ with verbose := (kind.numbered n).verboseIn r₁.verbose }
        (.startAt r₁.place)).bind fun x => _) = _
      rw [hat₁.verbose, hinside, hf]
      rfl
    · obtain ⟨f, hf⟩ := (hopening hat).2 hknown hkind
      refine ⟨f, ?_⟩
      rw [hf]
      rfl

/-- A text that begins neither with a blank nor with a question mark. -/
def StartsBody (verbose : Bool) (text : List Char) : Prop :=
  Visible verbose text ∧ text.head? ≠ some '?'

theorem StartsBody.of_items {verbose : Bool} {items : List Pattern}
    (h : Pattern.legibleItems verbose items = true) {rest : List Char}
    (hrest : StartsBody verbose rest) :
    StartsBody verbose (Pattern.renderAll items ++ rest) := by
  cases items with
  | nil => exact hrest
  | cons p items =>
    rw [Pattern.legibleItems, Bool.and_eq_true, Bool.and_eq_true] at h
    obtain ⟨c, text, htext, hc⟩ := p.render_item h.1.1 h.1.2
    rw [Pattern.renderAll, htext]
    simp only [beginsItem, Bool.and_eq_true, Bool.not_eq_true', bne_iff_ne] at hc
    exact ⟨visible_cons.2 hc.1.1.1.1.1.1, fun hfirst => hc.1.1.2 (Option.some.inj hfirst)⟩

/-- A legible body begins like that. -/
theorem StartsBody.of_legible {verbose : Bool} {p : Pattern} (h : p.legible verbose = true)
    {rest : List Char} (hrest : StartsBody verbose rest) :
    StartsBody verbose (p.render ++ rest) := by
  have hbar (text : List Char) : StartsBody verbose ('|' :: text) :=
    ⟨visible_cons.2 (isSkipped_of_seen (by decide) (by decide)),
      fun hfirst => absurd (Option.some.inj hfirst) (by decide)⟩
  have hbranches := Pattern.legible_branches h
  rw [← p.renderBranches_branches]
  generalize p.branches = branches at hbranches ⊢
  cases branches with
  | nil => exact hrest
  | cons q branches =>
    rw [Pattern.legibleBranches, Bool.and_eq_true, Bool.and_eq_true] at hbranches
    have hitems := Pattern.legible_items hbranches.1.1 hbranches.1.2
    cases branches with
    | nil =>
      rw [Pattern.renderBranches, ← Pattern.renderAll_items hbranches.1.1]
      exact .of_items hitems hrest
    | cons q' branches =>
      rw [Pattern.renderBranches, ← Pattern.renderAll_items hbranches.1.1, List.append_assoc]
      exact .of_items hitems (hbar _)

/-- **What opens a group is read back,** unless its name was given before. -/
theorem GroupKind.read_opening {kind : GroupKind} (hkind : kind.legible = true) {verbose : Bool}
    {text : List Char} (htext : StartsBody (kind.verboseIn verbose) text) {r : Reader} {n : Nat}
    {names : List (List Char)} (h : r.Stands verbose (kind.render ++ text) n names) :
    ((kind.names ++ names).Nodup → ∃ r',
      r'.Stands verbose text (n + kind.count) (kind.names ++ names) ∧
      opening r = .ok (.group r.charRegion (kind.numbered n), r')) ∧
    (names.Nodup → ¬(kind.names ++ names).Nodup → ∃ f, opening r = .error f) := by
  cases kind with
  | capture index =>
    refine ⟨fun _ => ⟨(r.behind 1).counting, h.next.counting, ?_⟩,
      fun hknown hrepeated => absurd hknown hrepeated⟩
    rw [opening_capture h.toAt htext.1 htext.2, h.groups]
    rfl
  | named index letterP name =>
    refine ⟨fun hnew => ?_, fun hknown hrepeated => ?_⟩
    · have hname : name ∉ names := (List.nodup_cons.1 hnew).1
      rcases opening_named hkind h.toAt with ⟨_, region, hopen⟩ | ⟨hold, _⟩
      · rw [h.groups] at hopen
        exact ⟨_, (h.past.counting).naming name region, hopen⟩
      · exact absurd ((h.knows_iff name).1 hold) hname
    · have hname : name ∈ names := by
        by_contra hname
        exact hrepeated (List.nodup_cons.2 ⟨hname, hknown⟩)
      rcases opening_named hkind h.toAt with ⟨hnew, _⟩ | ⟨_, hfault⟩
      · rw [(h.knows_iff name).2 hname] at hnew
        cases hnew
      · exact hfault
  | flags l =>
    refine ⟨fun _ => ⟨r.behind (l.render.length + 3), ?_, ?_⟩,
      fun hknown hrepeated => absurd hknown hrepeated⟩
    · have hlength : (GroupKind.render (.flags l)).length = l.render.length + 3 := by
        rw [GroupKind.render, List.length_append, List.length_append]
        show 2 + l.render.length + 1 = _
        omega
      rw [← hlength]
      exact h.past
    · have hat : r.At verbose ('(' :: '?' :: (l.render ++ ':' :: text)) := by
        have hat := h.toAt
        rw [GroupKind.render, List.append_assoc, List.append_assoc] at hat
        exact hat
      rw [opening_flags hkind (.inl rfl) hat]
      rfl

/-! ## Patterns -/

/-- An item of a branch is not greater than the branch. -/
theorem Pattern.sizeOf_item_le {p x : Pattern} (hx : x ∈ p.items) : sizeOf x ≤ sizeOf p := by
  cases p with
  | empty region => cases hx
  | concat region items =>
    have hlt := List.sizeOf_lt_of_mem hx
    rw [Pattern.concat.sizeOf_spec]
    exact Nat.le_trans (Nat.le_of_lt hlt) (Nat.le_add_left _ _)
  | _ =>
    rw [List.mem_singleton.1 hx]

/-- Nor is one of a branch of a body. -/
theorem Pattern.sizeOf_branch_le {p x : Pattern} (hx : x ∈ p.branches) :
    sizeOf x ≤ sizeOf p := by
  cases p with
  | alternation region branches =>
    have hlt := List.sizeOf_lt_of_mem hx
    rw [Pattern.alternation.sizeOf_spec]
    exact Nat.le_trans (Nat.le_of_lt hlt) (Nat.le_add_left _ _)
  | _ =>
    rw [List.mem_singleton.1 hx]

theorem Pattern.branches_ne_nil {verbose : Bool} {p : Pattern} (h : p.legible verbose = true) :
    p.branches ≠ [] := by
  cases p with
  | alternation region branches =>
    have hlength : 2 ≤ branches.length := of_decide_eq_true (Bool.and_eq_true_iff.1 h).1
    rintro rfl
    exact absurd hlength (by decide)
  | _ => exact List.cons_ne_nil _ _

/-- An item is read if all smaller ones are. -/
theorem Pattern.isRead_of_smaller {p : Pattern} (ih : ∀ q : Pattern, sizeOf q < sizeOf p → q.IsRead) :
    p.IsRead := by
  intro verbose rest hitem h hrest
  cases p with
  | empty => cases hitem
  | alternation => cases hitem
  | concat => cases hitem
  | setFlags region l =>
    obtain ⟨hl, hne⟩ := Bool.and_eq_true_iff.1 h
    exact .of_setFlags hl (by simpa only [Bool.not_eq_true'] using hne)
  | literal l => exact .of_literal h hrest.visible
  | dot region =>
    refine .of_atom (.dot region) rfl (beginsItem_of_seen (by decide) (by decide) (by decide))
      (by decide) (by decide) fun {r} hat => ⟨.dot r.charRegion, ?_, rfl⟩
    have hpeek : r.peek? = some '.' := hat.peek?
    rw [atom, hpeek, Reader.advance_eq]
    rfl
  | assertion region kind =>
    have hfirst : ∃ c text, kind.render.toList = c :: text ∧ beginsItem verbose c = true ∧
        c ≠ '(' ∧ c ≠ '[' := by
      cases kind <;> exact ⟨_, _, rfl, beginsItem_of_seen (by decide) (by decide) (by decide),
        by decide, by decide⟩
    obtain ⟨c, text, htext, hc, hparenthesis, hbracket⟩ := hfirst
    refine .of_atom (.assertion region kind) htext hc hparenthesis hbracket fun {r} hat => ?_
    obtain ⟨region', hread⟩ := Assertion.read hat hrest.noName
    exact ⟨_, hread, rfl⟩
  | property region negated query =>
    exact .of_escape (a := .property region negated query) h hrest.visible
  | short region negated kind =>
    exact .of_escape (a := .short region negated kind) h hrest.visible
  | bracketed region negated set =>
    obtain ⟨hends, hset⟩ := Bool.and_eq_true_iff.1 h
    exact .of_bracketed hends hset
  | repetition region op greedy sub =>
    rw [legible, Bool.and_eq_true, Bool.and_eq_true, Bool.and_eq_true, Bool.not_eq_true'] at h
    obtain ⟨⟨⟨hop, hrepeatable⟩, hquestion⟩, hsub⟩ := h
    have hsubItem : sub.isItem = true := by
      cases sub with
      | setFlags => cases hrepeatable
      | _ => exact hrepeatable
    have hsmaller : sizeOf sub < sizeOf (repetition region op greedy sub) := by
      rw [repetition.sizeOf_spec]
      omega
    exact .of_repetition hop hrepeatable hrest
      (ih sub hsmaller hsubItem hsub (.op hquestion greedy rest))
  | group region kind sub =>
    obtain ⟨hkind, hsub⟩ := Bool.and_eq_true_iff.1 h
    have hclosing (verbose : Bool) : StartsBody verbose (')' :: rest) :=
      ⟨visible_cons.2 (isSkipped_of_seen (by decide) (by decide)),
        fun hfirst => absurd (Option.some.inj hfirst) (by decide)⟩
    refine .of_group hsub (GroupKind.read_opening hkind (.of_legible hsub (hclosing _))) ?_
    refine .of_branches (branches_ne_nil hsub) (fun q hq x hx => ih x ?_)
      (legible_branches hsub) (.inr ⟨rest, rfl⟩)
    have hx := sizeOf_item_le hx
    have hq := sizeOf_branch_le hq
    rw [group.sizeOf_spec]
    omega

/-- **A legible item is read,** whatever was read before and in front of whatever leaves it as
it is. -/
theorem Pattern.read_item (p : Pattern) : p.IsRead := isRead_of_smaller fun q _ => q.read_item
termination_by sizeOf p

/-- **A legible body is read** up to its end. -/
theorem Pattern.read_body {verbose : Bool} {p : Pattern} (h : p.legible verbose = true)
    {rest : List Char} (hrest : EndsBody rest) : BodyRead verbose p.branches rest :=
  .of_branches (branches_ne_nil h) (fun _ _ x _ => x.read_item) (legible_branches h) hrest

/-- What was read for a pattern is as high as the pattern. -/
theorem Pattern.height_of_unplaced {p p' : Pattern} {n : Nat} (h : p'.unplaced = p.numbered n) :
    p'.height = p.height := by
  rw [← p'.height_unplaced, h, p.height_numbered]

/-- **The text of a legible pattern can be read** exactly if no two groups have the same name
and there is room for it. What is read is the pattern, its groups numbered from one. -/
theorem Pattern.parse_render {p : Pattern} (h : p.legible false = true) :
    (p.names.Nodup ∧ HasRoom 0 p.height →
      ∃ p', p'.unplaced = p.numbered 0 ∧ Pattern.parse p.render = .ok p') ∧
    (¬(p.names.Nodup ∧ HasRoom 0 p.height) → ∃ f, Pattern.parse p.render = .error f) := by
  have hread := read_body h (.inl rfl : EndsBody [])
  have hat : (Reader.ofText p.render).Stands false (renderBranches p.branches ++ []) 0 [] := by
    rw [List.append_nil, renderBranches_branches]
    exact ⟨.ofText _, rfl, rfl⟩
  have hnames : (allNames p.branches).reverse ++ [] = p.names.reverse := by
    rw [List.append_nil, allNames_branches]
  have hrounds : (renderBranches p.branches).length ≤ p.render.length + 1 := by
    rw [renderBranches_branches]
    exact Nat.le_succ _
  by_cases hnodup : p.names.Nodup
  · obtain ⟨r', verbose', hat', hbody⟩ :=
      hread.fresh hat (by rw [hnames]; exact (List.reverse_perm _).nodup_iff.2 hnodup)
    obtain ⟨branches', hsame, hok⟩ := hbody (.startAt (Reader.ofText p.render).place) rfl
    have hpeek : r'.peek? = none := hat'.peek?
    obtain ⟨p', hp', hp⟩ : ∃ p' : Pattern, p'.unplaced = p.numbered 0 ∧
        body (p.render.length + 1) (Reader.ofText p.render)
          (.startAt (Reader.ofText p.render).place) = .ok (p', r') :=
      ⟨_, bodyOf_read h hsame _, hok _ hrounds⟩
    -- All that is left to be asked is whether there is room.
    have hparse : Pattern.parse p.render = (p'.tooDeep? 0).elim (.ok p') .error := by
      rw [parse]
      dsimp only
      rw [hp]
      show (if r'.peek?.isSome = true then _ else _) = _
      rw [hpeek]
      cases p'.tooDeep? 0 <;> rfl
    have hroom : p'.tooDeep? 0 = none ↔ HasRoom 0 p.height := by
      rw [tooDeep?_eq_none_iff, height_of_unplaced hp']
    refine ⟨fun hand => ⟨p', hp', ?_⟩, fun hnot => ?_⟩
    · rw [hparse, hroom.2 hand.2]
      rfl
    · obtain ⟨f, hf⟩ := Option.ne_none_iff_exists'.1 fun hnone => hnot ⟨hnodup, hroom.1 hnone⟩
      refine ⟨f, ?_⟩
      rw [hparse, hf]
      rfl
  · refine ⟨fun hand => absurd hand.1 hnodup, fun _ => ?_⟩
    obtain ⟨f, hf⟩ := hread.known hat List.nodup_nil
      (by rw [hnames]; exact fun hback => hnodup ((List.reverse_perm _).nodup_iff.1 hback))
      (p.render.length + 1) (.startAt (Reader.ofText p.render).place) rfl hrounds
    refine ⟨f, ?_⟩
    rw [parse]
    dsimp only
    rw [hf]
    rfl

end StatefulLexer.Regex
