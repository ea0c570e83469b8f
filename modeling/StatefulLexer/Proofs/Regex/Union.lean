/-
Unions of patterns.

A union is written as text: each pattern in a group of its own, with bars between them, and a
group around it all. If the patterns are legible then so is the union, so what is read is that
tree, and nothing of one pattern gets into another: each is read with the flags and the
blanks that it would have alone, and only its groups have other numbers. The expression of
the union is the choice of theirs.

A choice finds what its first branch finds, or else its second, and so on, unless a beginning
that the branches have in common is drawn out and can be matched in several ways.

Main statements: `Compiled.of_unionOf`, `Compiled.width_of_unionOf`.
-/
import StatefulLexer.Proofs.Regex.Reading.Body
import StatefulLexer.Proofs.Regex.Renumbered
import StatefulLexer.Proofs.Regex.Settled
import StatefulLexer.Regex.Compose

set_option autoImplicit false

namespace StatefulLexer.Regex

/-! ## Compiled patterns -/

/-- A result that there is. -/
theorem toOption_eq_some {ε α : Type} {x : Except ε α} {a : α} :
    x.toOption = some a ↔ x = .ok a := by
  cases x with
  | error e => exact iff_of_false nofun nofun
  | ok b => exact ⟨fun h => congrArg Except.ok (Option.some.inj h), fun h => by rw [h]; rfl⟩

/-- The pattern was read from the text of a tree. -/
structure Compiled.IsOf (c : Compiled) (p : Pattern) : Prop where
  tree : c.tree.unplaced = p.numbered 0
  expr : ∃ f, ((p.numbered 0).meaning {}).toOption = some (c.expr, f)

theorem Compiled.IsOf.groupCount {c : Compiled} {p : Pattern} (h : c.IsOf p) :
    c.tree.groupCount = p.groupCount := by
  rw [← c.tree.groupCount_unplaced, h.tree, p.groupCount_numbered]

/-- **What is compiled of a legible pattern** is of that tree. -/
theorem Compiled.of_render {p : Pattern} (hp : p.legible false = true) {c : Compiled}
    (h : Compiled.ofText p.render = .ok c) : p.names.Nodup ∧ HasRoom 0 p.height ∧ c.IsOf p := by
  obtain ⟨tree, hparse, h⟩ := bind_eq_ok.1 h
  obtain ⟨⟨e, f⟩, hmeaning, h⟩ := bind_eq_ok.1 h
  cases h
  obtain ⟨hok, hfault⟩ := Pattern.parse_render hp
  by_cases hand : p.names.Nodup ∧ HasRoom 0 p.height
  · obtain ⟨tree', hsame, hparse'⟩ := hok hand
    rw [hparse] at hparse'
    cases Except.ok.inj hparse'
    refine ⟨hand.1, hand.2, hsame, f, ?_⟩
    rw [← hsame, tree.meaning_unplaced, hmeaning]
    rfl
  · obtain ⟨fault, hparse'⟩ := hfault hand
    rw [hparse] at hparse'
    cases hparse'

/-- **A legible pattern is compiled** if no two groups have the same name, there is room for
it, and it means something. -/
theorem Compiled.exists_of_render {p : Pattern} (hp : p.legible false = true)
    (hnames : p.names.Nodup) (hroom : HasRoom 0 p.height) {x : Expr × Flags}
    (hx : ((p.numbered 0).meaning {}).toOption = some x) :
    ∃ c, Compiled.ofText p.render = .ok c ∧ c.IsOf p ∧ c.expr = x.1 := by
  obtain ⟨tree, hsame, hparse⟩ := (Pattern.parse_render hp).1 ⟨hnames, hroom⟩
  have hmeaning : tree.meaning {} = .ok x := by
    rw [← toOption_eq_some, ← tree.meaning_unplaced, hsame, hx]
  obtain ⟨e, f⟩ := x
  refine ⟨⟨p.render, tree, e⟩, ?_, ⟨hsame, f, hx⟩, rfl⟩
  exact bind_eq_ok.2 ⟨tree, hparse, bind_eq_ok.2 ⟨(e, f), hmeaning, rfl⟩⟩

/-! ## Trees of unions -/

namespace Pattern

/-- The pattern in a group that does not capture. -/
def inGroup (p : Pattern) : Pattern := .group .nowhere (.flags ⟨[], []⟩) p

/-- The tree of a union. -/
def union (ps : List Pattern) : Pattern := (bodyOf .nowhere (ps.map inGroup)).inGroup

theorem render_inGroup (p : Pattern) : p.inGroup.render = grouped p.render := rfl

theorem render_bodyOf (region : Region) (ps : List Pattern) :
    (bodyOf region ps).render = renderBranches ps := by
  unfold bodyOf
  split <;> rfl

theorem renderBranches_eq_barred (ps : List Pattern) :
    renderBranches ps = barred (ps.map render) := by
  induction ps with
  | nil => rfl
  | cons p ps ih =>
    cases ps with
    | nil => rfl
    | cons q ps =>
      rw [renderBranches, ih]
      rfl

/-- **The text of a union** is the union of the texts. -/
theorem render_union (ps : List Pattern) : (union ps).render = unionOf (ps.map render) := by
  rw [union, render_inGroup, render_bodyOf, renderBranches_eq_barred, unionOf, List.map_map,
    List.map_map]
  rfl

/-- What holds of each branch of a body of at least one holds of the body. -/
theorem bodyOf_cases {ps : List Pattern} (hne : ps ≠ []) (region : Region) :
    (∃ p, ps = [p] ∧ bodyOf region ps = p) ∨
      2 ≤ ps.length ∧ bodyOf region ps = .alternation region ps := by
  cases ps with
  | nil => exact absurd rfl hne
  | cons p ps =>
    cases ps with
    | nil => exact .inl ⟨p, rfl, rfl⟩
    | cons q ps => exact .inr ⟨Nat.succ_le_succ (Nat.succ_le_succ (Nat.zero_le _)), rfl⟩

/-- Groups around legible patterns are legible branches. -/
theorem legibleBranches_inGroup {ps : List Pattern} (hps : ∀ p ∈ ps, p.legible false = true) :
    legibleBranches false (ps.map inGroup) = true := by
  induction ps with
  | nil => rfl
  | cons p ps ih =>
    obtain ⟨hp, hps⟩ := List.forall_mem_cons.1 hps
    have hgroup : p.inGroup.legible false = true := hp
    rw [List.map_cons, legibleBranches, hgroup]
    exact ih hps

/-- **A union of legible patterns is legible.** -/
theorem legible_union {ps : List Pattern} (hne : ps ≠ [])
    (hps : ∀ p ∈ ps, p.legible false = true) : (union ps).legible false = true := by
  have hbranches := legibleBranches_inGroup hps
  have hbody : (bodyOf .nowhere (ps.map inGroup)).legible false = true := by
    rcases bodyOf_cases (List.map_eq_nil_iff.not.2 hne) .nowhere with
      ⟨q, hq, hbody⟩ | ⟨hlength, hbody⟩
    · rw [hq, legibleBranches, Bool.and_eq_true, Bool.and_eq_true] at hbranches
      rw [hbody]
      exact hbranches.1.2
    · rw [hbody, legible, hbranches, Bool.and_true]
      exact decide_eq_true hlength
  exact hbody

theorem names_union (ps : List Pattern) : (union ps).names = allNames ps := by
  have hall (ps : List Pattern) : allNames (ps.map inGroup) = allNames ps := by
    induction ps with
    | nil => rfl
    | cons p ps ih => rw [List.map_cons, allNames, allNames, ih]; rfl
  show (bodyOf .nowhere (ps.map inGroup)).names = _
  rw [← hall]
  unfold bodyOf
  split
  · rename_i q hq
    rw [hq]
    exact (List.append_nil _).symm
  · rfl

/-- A union has room for each pattern. -/
theorem hasRoom_of_union {ps : List Pattern} (h : HasRoom 0 (union ps).height) :
    HasRoom 0 (greatestHeight ps) := by
  have hall (ps : List Pattern) : greatestHeight ps ≤ greatestHeight (ps.map inGroup) := by
    induction ps with
    | nil => exact Nat.le_refl 0
    | cons p ps ih =>
      show max p.height (greatestHeight ps)
        ≤ max (p.height + 1) (greatestHeight (ps.map inGroup))
      omega
  refine h.mono (Nat.le_refl 0) (Nat.le_trans (hall ps) ?_)
  show _ ≤ (bodyOf .nowhere (ps.map inGroup)).height + 1
  unfold bodyOf
  split
  · rename_i q hq
    rw [hq, greatestHeight, greatestHeight, Nat.max_zero]
    exact Nat.le_succ _
  · exact Nat.le_trans (Nat.le_succ _) (Nat.le_succ _)

/-- A union is not nested much deeper than its patterns. -/
theorem height_union_le {ps : List Pattern} {height : Nat} (h : ∀ p ∈ ps, p.height ≤ height) :
    (union ps).height ≤ height + 3 := by
  have hall : greatestHeight (ps.map inGroup) ≤ height + 1 := by
    induction ps with
    | nil => exact Nat.zero_le _
    | cons p ps ih =>
      obtain ⟨hp, hps⟩ := List.forall_mem_cons.1 h
      exact Nat.max_le.2 ⟨Nat.succ_le_succ hp, ih hps⟩
  refine Nat.succ_le_succ (?_ : (bodyOf .nowhere (ps.map inGroup)).height ≤ height + 2)
  unfold bodyOf
  split
  · rename_i q hq
    rw [hq, greatestHeight, greatestHeight, Nat.max_zero] at hall
    exact Nat.le_succ_of_le hall
  · exact Nat.succ_le_succ hall

/-- A union without names. -/
theorem names_union_eq_nil {ps : List Pattern} (h : ∀ p ∈ ps, p.names = []) :
    (union ps).names = [] := by
  rw [names_union]
  induction ps with
  | nil => rfl
  | cons p ps ih =>
    obtain ⟨hp, hps⟩ := List.forall_mem_cons.1 h
    rw [allNames, hp, ih hps]
    rfl

end Pattern

/-! ## Expressions of unions -/

/-- The expression of a union: one branch is no choice. -/
def Expr.unionOf (es : List Expr) : Expr :=
  match es with
  | [e] => e
  | es => .choice es

/-- A group without flags means what it encloses. -/
theorem Pattern.meaning_inGroup {p : Pattern} {n : Nat} {e : Expr} {f : Flags}
    (h : (p.numbered n).meaning {} = .ok (e, f)) :
    (p.inGroup.numbered n).meaning {} = .ok (e, {}) :=
  bind_eq_ok.2 ⟨(e, f), h, rfl⟩

/-- **A union means** the choice of what its patterns mean, in their groups. -/
theorem Pattern.meaning_union {ps : List Pattern} (hne : ps ≠ []) {es : List Expr} {f : Flags}
    (h : Pattern.meanings {} (Pattern.allNumbered 0 (ps.map inGroup)) = .ok (es, f)) :
    ((union ps).numbered 0).meaning {} = .ok (Expr.unionOf es, {}) := by
  refine meaning_inGroup (f := f) ?_
  cases ps with
  | nil => exact absurd rfl hne
  | cons p ps =>
    obtain ⟨⟨e, f₁⟩, he, h⟩ := bind_eq_ok.1 h
    obtain ⟨⟨es', f₂⟩, hes, h⟩ := bind_eq_ok.1 h
    obtain ⟨rfl, rfl⟩ := Prod.mk.inj (Except.ok.inj h)
    cases ps with
    | nil =>
      obtain ⟨rfl, rfl⟩ := Prod.mk.inj (Except.ok.inj hes)
      exact he
    | cons q ps =>
      obtain ⟨⟨e', f₃⟩, _, hes'⟩ := bind_eq_ok.1 hes
      obtain ⟨⟨es'', f₄⟩, _, hes'⟩ := bind_eq_ok.1 hes'
      obtain ⟨rfl, rfl⟩ := Prod.mk.inj (Except.ok.inj hes')
      exact bind_eq_ok.2 ⟨_, bind_eq_ok.2 ⟨_, he, bind_eq_ok.2 ⟨_, hes, rfl⟩⟩, rfl⟩

/-- The expressions of patterns that stand one behind the other, where `n` groups stand
before them. -/
def Compiled.beside (n : Nat) : List Compiled → List Expr
  | [] => []
  | c :: cs => c.expr.renumber (· + n) :: Compiled.beside (n + c.tree.groupCount) cs

theorem Compiled.length_beside (n : Nat) (cs : List Compiled) :
    (Compiled.beside n cs).length = cs.length := by
  induction cs generalizing n with
  | nil => rfl
  | cons c cs ih => rw [Compiled.beside, List.length_cons, List.length_cons, ih]

/-- The branches mean what each of them means alone, but for the numbers. -/
theorem Compiled.of_meanings {ps : List Pattern} (hps : ∀ p ∈ ps, p.legible false = true)
    (hnames : (Pattern.allNames ps).Nodup) (hroom : HasRoom 0 (Pattern.greatestHeight ps))
    {n : Nat} {x : List Expr × Flags} (h : (Pattern.meanings {}
      (Pattern.allNumbered n (ps.map Pattern.inGroup))).toOption = some x) :
    ∃ cs, (ps.map Pattern.render).mapM Compiled.ofText = .ok cs ∧
      List.Forall₂ Compiled.IsOf cs ps ∧ x = (Compiled.beside n cs, {}) := by
  induction ps generalizing n x with
  | nil => exact ⟨[], rfl, .nil, (Option.some.inj h).symm⟩
  | cons p ps ih =>
    obtain ⟨hp, hps⟩ := List.forall_mem_cons.1 hps
    rw [Pattern.allNames] at hnames
    rw [Pattern.greatestHeight, hasRoom_max] at hroom
    rw [List.map_cons, Pattern.allNumbered, Pattern.meanings, toOption_bind] at h
    obtain ⟨⟨e, f⟩, he, h⟩ := Option.bind_eq_some_iff.1 h
    -- The group keeps the flags inside, and has those around it for the next one.
    have hinside : (Flags.with {} ⟨[], []⟩ : Flags) = {} := rfl
    rw [Pattern.inGroup, Pattern.numbered, Pattern.meaning, toOption_bind] at he
    obtain ⟨⟨e', f'⟩, he', heq⟩ := Option.bind_eq_some_iff.1 he
    have heq : e' = e ∧ ({} : Flags) = f := Prod.mk.inj (Option.some.inj heq)
    obtain ⟨rfl, rfl⟩ := heq
    have hown : ((p.numbered (0 + n)).meaning {}).toOption = some (e', f') := by
      rw [Nat.zero_add]
      exact he'
    rw [p.meaning_numbered 0 n] at hown
    obtain ⟨⟨own, f''⟩, hown, hrenumbered⟩ := Option.map_eq_some_iff.1 hown
    obtain ⟨c, hc, hof, rfl⟩ :=
      exists_of_render hp (List.nodup_append.1 hnames).1 hroom.1 hown
    dsimp only at h
    rw [toOption_bind] at h
    obtain ⟨⟨es, f⟩, hes, hx⟩ := Option.bind_eq_some_iff.1 h
    obtain ⟨cs, hcs, hall, hmore⟩ := ih hps (List.nodup_append.1 hnames).2.1 hroom.2 hes
    refine ⟨c :: cs, mapM_cons_eq_ok.2 ⟨c, cs, hc, hcs, rfl⟩, .cons hof hall, ?_⟩
    obtain ⟨rfl, rfl⟩ := Prod.mk.inj hmore
    have hexpr : c.expr.renumber (· + n) = e' := congrArg Prod.fst hrenumbered
    have hcount : n + p.inGroup.groupCount = n + c.tree.groupCount := by
      rw [hof.groupCount]
      exact congrArg (n + ·) (Nat.zero_add _)
    rw [← Option.some.inj hx, Compiled.beside, hexpr, hcount]

/-- **What a union of legible patterns is made of.** Each pattern is compiled on its own, and
the expression of the union is that of their expressions. -/
theorem Compiled.of_unionOf {ps : List Pattern} (hne : ps ≠ [])
    (hps : ∀ p ∈ ps, p.legible false = true) {c : Compiled}
    (h : Compiled.ofText (unionOf (ps.map Pattern.render)) = .ok c) :
    c.IsOf (Pattern.union ps) ∧ ∃ cs, (ps.map Pattern.render).mapM Compiled.ofText = .ok cs ∧
      List.Forall₂ Compiled.IsOf cs ps ∧ c.expr = Expr.unionOf (Compiled.beside 0 cs) := by
  rw [← Pattern.render_union] at h
  obtain ⟨hnames, hroom, hof⟩ := of_render (Pattern.legible_union hne hps) h
  refine ⟨hof, ?_⟩
  rw [Pattern.names_union] at hnames
  obtain ⟨f, hmeaning⟩ := hof.expr
  -- The groups of the union keep the flags of the start.
  rw [Pattern.union, Pattern.inGroup, Pattern.numbered, Pattern.meaning, toOption_bind] at hmeaning
  obtain ⟨⟨e, f'⟩, hbody, heq⟩ := Option.bind_eq_some_iff.1 hmeaning
  have heq : e = c.expr := (Prod.mk.inj (Option.some.inj heq)).1
  have hbody : (((bodyOf .nowhere (ps.map Pattern.inGroup)).numbered 0).meaning {}).toOption
      = some (c.expr, f') := by
    rw [← heq]
    exact hbody
  rcases Pattern.bodyOf_cases (List.map_eq_nil_iff.not.2 hne) .nowhere with
    ⟨q, hq, hone⟩ | ⟨hlength, hmany⟩
  · have hmeanings : (Pattern.meanings {}
        (Pattern.allNumbered 0 (ps.map Pattern.inGroup))).toOption = some ([c.expr], f') := by
      rw [hone] at hbody
      rw [hq, Pattern.allNumbered, Pattern.meanings, toOption_bind, hbody]
      rfl
    obtain ⟨cs, hcs, hall, hx⟩ :=
      of_meanings hps hnames (Pattern.hasRoom_of_union hroom) hmeanings
    refine ⟨cs, hcs, hall, ?_⟩
    rw [← (Prod.mk.inj hx).1]
    rfl
  · rw [hmany, Pattern.numbered, Pattern.meaning, toOption_bind] at hbody
    obtain ⟨⟨es, f''⟩, hmeanings, heq⟩ := Option.bind_eq_some_iff.1 hbody
    obtain ⟨cs, hcs, hall, hx⟩ :=
      of_meanings hps hnames (Pattern.hasRoom_of_union hroom) hmeanings
    refine ⟨cs, hcs, hall, ?_⟩
    have hes : 2 ≤ es.length := by
      rw [(Prod.mk.inj hx).1, length_beside, length_of_mapM hcs, List.length_map]
      rwa [List.length_map] at hlength
    rw [← (Prod.mk.inj hx).1, ← (Prod.mk.inj (Option.some.inj heq)).1, Expr.unionOf]
    intro e he
    rw [he] at hes
    exact absurd hes (by decide : ¬2 ≤ 1)

/-! ## Matches of unions -/

/-- **A union is settled** if it has one branch, or its choice is. -/
def Expr.unionSettled (es : List Expr) : Bool := es.length == 1 || Expr.settled es

theorem Expr.widthOf_unionOf {es : List Expr} (h : Expr.unionSettled es = true)
    (before : Option Char) (place : Nat) (ahead : List Char) :
    widthOf before place ahead [.expr (Expr.unionOf es)] = firstWidth es before place ahead [] := by
  unfold unionOf
  split
  · rw [firstWidth, List.findSome?_singleton]
  · rename_i hmany
    rw [unionSettled, Bool.or_eq_true, beq_iff_eq] at h
    rcases h with hone | h
    · obtain ⟨e, he⟩ := List.length_eq_one_iff.1 hone
      exact absurd he (hmany e)
    · exact widthOf_choice h .nil before place ahead

/-- The width of a match does not depend on how the groups are numbered. -/
theorem firstWidth_beside (n : Nat) (cs : List Compiled) (before : Option Char) (place : Nat)
    (ahead : List Char) : firstWidth (Compiled.beside n cs) before place ahead []
      = cs.findSome? fun c => widthOf before place ahead [.expr c.expr] := by
  induction cs generalizing n with
  | nil => rfl
  | cons c cs ih =>
    have hc : widthOf before place ahead [.expr (c.expr.renumber (· + n))]
        = widthOf before place ahead [.expr c.expr] :=
      @widthOf_renumber (· + n) (· - n) (fun i => Nat.add_sub_cancel i n) before place ahead
        [.expr c.expr]
    have hcs : (Compiled.beside _ cs).findSome? _ = _ := ih (n + c.tree.groupCount)
    rw [Compiled.beside, firstWidth, List.findSome?_cons, List.findSome?_cons, hc, hcs]

/-- **A settled union finds what its first pattern finds** that finds anything. -/
theorem Compiled.width_of_unionOf {cs : List Compiled} {c : Compiled}
    (h : c.expr = Expr.unionOf (Compiled.beside 0 cs))
    (hsettled : Expr.unionSettled (Compiled.beside 0 cs) = true) (behind ahead : List Char) :
    (c.expr.match? behind ahead).map Found.width
      = cs.findSome? fun c => (c.expr.match? behind ahead).map Found.width := by
  rw [h]
  exact (Expr.widthOf_unionOf hsettled behind.head? 0 ahead).trans
    (firstWidth_beside 0 cs behind.head? 0 ahead)

end StatefulLexer.Regex
