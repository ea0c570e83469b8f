/-
Patterns combined into one.

The patterns of a state can be written as one: their capture groups are taken out, each is put
into a capture group of its own, and these are joined. What is read of that has one capture
group for each pattern, in their order. It finds what the first pattern finds that finds
anything, and the group of this pattern takes part with all of it, provided that the patterns
flatten well. The groups in front of the patterns are all different, so nothing is drawn out of
this choice.

Main statements: `Compiled.ofText_combinedText`, `Compiled.match?_combined`.
-/
import StatefulLexer.Proofs.Regex.Captured
import StatefulLexer.Proofs.Regex.Flattened
import StatefulLexer.Proofs.Regex.Parsed.Body

set_option autoImplicit false

namespace StatefulLexer.Regex

/-! ## The combined tree -/

namespace Pattern

/-- The pattern in a group that captures. -/
def inCapture (p : Pattern) : Pattern := .group .nowhere (.capture 0) p

/-- **The tree of patterns combined into one.** -/
def combined (ps : List Pattern) : Pattern := union (ps.map fun p => p.withoutCaptures.inCapture)

/-- **The text of patterns combined into one** is that of the tree. -/
theorem render_combined (cs : List Compiled) :
    (combined (cs.map Compiled.tree)).render = combinedText cs := by
  rw [combined, render_union, combinedText, List.map_map, List.map_map]
  rfl

/-- What holds of each member holds of what it becomes. -/
theorem forall_mem_combined {ps : List Pattern} {P : Pattern → Prop}
    (h : ∀ p ∈ ps, P p.withoutCaptures.inCapture) :
    ∀ q ∈ ps.map fun p => p.withoutCaptures.inCapture, P q := by
  intro q hq
  obtain ⟨p, hp, rfl⟩ := List.mem_map.1 hq
  exact h p hp

theorem legible_combined {ps : List Pattern} (hne : ps ≠ [])
    (hps : ∀ p ∈ ps, p.legible false = true) : (combined ps).legible false = true :=
  legible_union (List.map_eq_nil_iff.not.2 hne)
    (forall_mem_combined fun p hp => legible_withoutCaptures (hps p hp))

theorem names_combined (ps : List Pattern) : (combined ps).names = [] :=
  names_union_eq_nil (forall_mem_combined fun p _ =>
    names_of_groupCount p.withoutCaptures p.groupCount_withoutCaptures)

theorem height_combined_le {ps : List Pattern} {height : Nat} (h : ∀ p ∈ ps, p.height ≤ height) :
    (combined ps).height ≤ height + 4 :=
  height_union_le (forall_mem_combined fun p hp =>
    Nat.succ_le_succ (p.height_withoutCaptures ▸ h p hp))

/-- There is a group for each pattern. -/
theorem groupCount_combined (ps : List Pattern) : (combined ps).groupCount = ps.length := by
  have hall : totalGroups ((ps.map fun p => p.withoutCaptures.inCapture).map inGroup)
      = ps.length := by
    induction ps with
    | nil => rfl
    | cons p ps ih =>
      have hp : p.withoutCaptures.inCapture.inGroup.groupCount = 1 := by
        show 0 + (1 + p.withoutCaptures.groupCount) = 1
        rw [p.groupCount_withoutCaptures]
      rw [List.map_cons, List.map_cons, totalGroups, hp, ih, List.length_cons, Nat.add_comm]
  show 0 + (bodyOf .nowhere _).groupCount = _
  rw [Nat.zero_add, ← hall]
  unfold bodyOf
  split
  · rename_i q hq
    rw [hq]
    exact (Nat.add_zero _).symm
  · rfl

end Pattern

/-! ## The combined expression -/

namespace Expr

/-- The expressions in capture groups, where `n` groups stand before them. -/
def inCaptures (n : Nat) : List Expr → List Expr
  | [] => []
  | e :: es => .capture (n + 1) e :: inCaptures (n + 1) es

theorem length_inCaptures (n : Nat) (es : List Expr) : (inCaptures n es).length = es.length := by
  induction es generalizing n with
  | nil => rfl
  | cons e es ih => rw [inCaptures, List.length_cons, List.length_cons, ih]

/-- Without capture groups, other numbers make no difference, and the other way round. -/
theorem captureCount_of_renumber {e : Expr} (h : e.renumber (· + 1) = e) : e.captureCount = 0 := by
  induction e with
  | rep least most greedy sub ih => exact ih (Expr.rep.inj h).2.2.2
  | capture index sub ih => exact absurd (Expr.capture.inj h).1 (Nat.succ_ne_self index)
  | seq first rest ih ih' =>
    rw [captureCount, ih (Expr.seq.inj h).1, ih' (Expr.seq.inj h).2]
  | alt first rest ih ih' =>
    rw [captureCount, ih (Expr.alt.inj h).1, ih' (Expr.alt.inj h).2]
  | _ => rfl

/-- **A choice between capture groups is kept as it is.** A group is no branch, and neither a
set nor a sequence. -/
theorem unionOf_inCaptures {es : List Expr} (hne : es ≠ []) (n : Nat) :
    unionOf (inCaptures n es) = ofBranches (inCaptures n es) := by
  obtain ⟨e, es, rfl⟩ := List.exists_cons_of_ne_nil hne
  cases es with
  | nil => rfl
  | cons e' es =>
    have hbranches : ∀ (es : List Expr) (n : Nat),
        (inCaptures n es).flatMap branches = inCaptures n es := by
      intro es
      induction es with
      | nil => exact fun n => rfl
      | cons e es ih =>
        intro n
        rw [inCaptures, List.flatMap_cons, ih]
        rfl
    have hmem : .capture (n + 1) e ∈ inCaptures n (e :: e' :: es) := List.mem_cons_self
    show choice (inCaptures n (e :: e' :: es)) = _
    rw [choice, hbranches, merged?, drawnOut?, mapM_eq_none hmem rfl, mapM_eq_none hmem rfl,
      mapM_eq_none hmem rfl]
    rfl

/-- A choice has one group for each branch that has one. -/
theorem captureCount_ofBranches {es : List Expr} (hes : ∀ e ∈ es, e.captureCount = 1) :
    (ofBranches es).captureCount = es.length := by
  fun_induction ofBranches es with
  | case1 => rfl
  | case2 e => exact hes e List.mem_cons_self
  | case3 e es _ ih =>
    obtain ⟨he, hes⟩ := List.forall_mem_cons.1 hes
    rw [captureCount, he, ih hes, List.length_cons, Nat.add_comm]

/-- **There is one group for each expression,** if there are none in the expressions. -/
theorem captureCount_unionOf_inCaptures {es : List Expr} (hne : es ≠ [])
    (hes : ∀ e ∈ es, e.renumber (· + 1) = e) (n : Nat) :
    (unionOf (inCaptures n es)).captureCount = es.length := by
  have hone : ∀ e ∈ inCaptures n es, e.captureCount = 1 := by
    clear hne
    induction es generalizing n with
    | nil => exact List.forall_mem_nil _
    | cons e es ih =>
      obtain ⟨he, hes⟩ := List.forall_mem_cons.1 hes
      refine List.forall_mem_cons.2 ⟨?_, ih hes (n + 1)⟩
      rw [captureCount, captureCount_of_renumber he]
  rw [unionOf_inCaptures hne, captureCount_ofBranches hone, length_inCaptures]

/-- **Expressions in capture groups** find what the first of them finds that finds anything, and
its group takes part with all of it. -/
theorem findSome?_inCaptures {es : List Expr} (hes : ∀ e ∈ es, e.renumber (· + 1) = e) (n : Nat)
    (behind ahead : List Char) : (inCaptures n es).findSome? (·.match? behind ahead)
      = (es.zipIdx n).findSome? fun (e, i) => ((e.match? behind ahead).map Found.width).map
        fun width => ⟨width, [⟨i + 1, 0, width⟩]⟩ := by
  induction es generalizing n with
  | nil => rfl
  | cons e es ih =>
    obtain ⟨he, hes⟩ := List.forall_mem_cons.1 hes
    rw [inCaptures, List.findSome?_cons, match?_capture he, ih hes, List.zipIdx_cons,
      List.findSome?_cons]

end Expr

/-! ## Reading what was combined -/

/-- What a flattened pattern means has no capture groups. -/
theorem Pattern.renumber_of_groupCount {p : Pattern} (hp : p.groupCount = 0) {e : Expr} {f : Flags}
    (h : p.meaning {} = .ok (e, f)) : e.renumber (· + 1) = e := by
  have hnumbered := p.meaning_numbered 0 1 {}
  rw [p.numbered_of_groupCount _ hp, p.numbered_of_groupCount _ hp, p.meaning_unplaced, h]
    at hnumbered
  exact (Prod.mk.inj (Option.some.inj hnumbered)).1.symm

/-- A flattened pattern in a capture group means what it means in that group. -/
theorem Pattern.meaning_inCapture {p : Pattern} (hp : p.groupCount = 0) {e : Expr} {f : Flags}
    (h : p.meaning {} = .ok (e, f)) (n : Nat) :
    (p.inCapture.inGroup.numbered n).meaning {} = .ok (.capture (n + 1) e, {}) := by
  have hsub : (p.numbered (n + 1)).meaning {} = .ok (e, f) := by
    rw [← toOption_eq_some, p.numbered_of_groupCount _ hp, p.meaning_unplaced, h]
    rfl
  have hcapture : (p.inCapture.numbered n).meaning {} = .ok (.capture (n + 1) e, {}) :=
    bind_eq_ok.2 ⟨(e, f), hsub, rfl⟩
  exact meaning_inGroup hcapture

/-- **What the groups of flattened patterns mean,** one behind the other. -/
theorem Pattern.meanings_inCaptures {ps : List Pattern} {gs : List Expr}
    (h : List.Forall₂ (fun p g => ∃ f, p.withoutCaptures.meaning {} = .ok (g, f)) ps gs) (n : Nat) :
    Pattern.meanings {} (Pattern.allNumbered n
        ((ps.map fun p => p.withoutCaptures.inCapture).map inGroup))
      = .ok (Expr.inCaptures n gs, {}) := by
  induction h generalizing n with
  | nil => rfl
  | @cons p g ps gs hp _ ih =>
    obtain ⟨f, hp⟩ := hp
    have hcount : p.withoutCaptures.inCapture.inGroup.groupCount = 1 := by
      show 0 + (1 + p.withoutCaptures.groupCount) = 1
      rw [p.groupCount_withoutCaptures]
    have hmeaning := meaning_inCapture p.groupCount_withoutCaptures hp n
    rw [List.map_cons, List.map_cons, allNumbered, hcount]
    exact bind_eq_ok.2 ⟨_, hmeaning, bind_eq_ok.2 ⟨_, ih (n + 1), rfl⟩⟩

/-- The pattern was read from a legible text. -/
structure Compiled.IsLegible (c : Compiled) : Prop where
  tree : c.tree.legible false = true
  expr : ∃ f, c.tree.meaning {} = .ok (c.expr, f)

/-- What the expression of a compiled pattern is flattened to. -/
structure Compiled.FlattensTo (c : Compiled) (g : Expr) : Prop where
  meaning : ∃ f, c.tree.withoutCaptures.meaning {} = .ok (g, f)
  flat : c.expr.FlattensTo (c.tree.flattensWell {}) g

namespace Compiled

/-- What was read of a text is legible, unless it is verbose. -/
theorem IsLegible.of_ofText {text : List Char} {c : Compiled} (h : ofText text = .ok c)
    (hlegible : c.tree.isVerbose = true → c.tree.legible false = true) : c.IsLegible := by
  obtain ⟨tree, htree, h⟩ := bind_eq_ok.1 h
  obtain ⟨⟨e, f⟩, hmeaning, h⟩ := bind_eq_ok.1 h
  cases Except.ok.inj h
  refine ⟨?_, f, hmeaning⟩
  cases hverbose : tree.isVerbose with
  | true => exact hlegible hverbose
  | false => exact Pattern.legible_of_parse htree hverbose

theorem FlattensTo.renumber {c : Compiled} {g : Expr} (h : c.FlattensTo g) :
    g.renumber (· + 1) = g := by
  obtain ⟨f, hmeaning⟩ := h.meaning
  exact Pattern.renumber_of_groupCount c.tree.groupCount_withoutCaptures hmeaning

/-- It finds matches of the same width, if the pattern flattens well. -/
theorem FlattensTo.width_match? {c : Compiled} {g : Expr} (h : c.FlattensTo g)
    (hwell : c.tree.flattensWell {} = true) (behind ahead : List Char) :
    (g.match? behind ahead).map Found.width = (c.expr.match? behind ahead).map Found.width :=
  Expr.Alike.width_match? (h.flat.alike hwell) behind ahead

theorem IsLegible.exists_flattened {c : Compiled} (h : c.IsLegible) : ∃ g, c.FlattensTo g := by
  obtain ⟨f, hexpr⟩ := h.expr
  obtain ⟨g, hg, hflat⟩ := c.tree.meaning_withoutCaptures {} ⟨false, h.tree⟩ hexpr
  exact ⟨g, ⟨f, hg⟩, hflat⟩

/-- **A flattened pattern is read again,** has no capture group, and finds matches of the same
width if the pattern flattens well. -/
theorem exists_ofText_withoutCaptures {c : Compiled} (h : c.IsLegible)
    (hroom : c.tree.height ≤ nestingLimit) :
    ∃ flat, ofText c.tree.withoutCaptures.render = .ok flat ∧ flat.expr.captureCount = 0 ∧
      (c.tree.flattensWell {} = true → ∀ behind ahead,
        (flat.expr.match? behind ahead).map Found.width
          = (c.expr.match? behind ahead).map Found.width) := by
  obtain ⟨g, hg⟩ := h.exists_flattened
  obtain ⟨f, hmeaning⟩ := hg.meaning
  have hcount := c.tree.groupCount_withoutCaptures
  have hnames := Pattern.names_of_groupCount _ hcount
  have hnumbered : ((c.tree.withoutCaptures.numbered 0).meaning {}).toOption = some (g, f) := by
    rw [Pattern.numbered_of_groupCount 0 _ hcount, Pattern.meaning_unplaced, hmeaning]
    rfl
  obtain ⟨flat, hflat, _, hexpr⟩ := exists_of_render (Pattern.legible_withoutCaptures h.tree)
    (hnames ▸ List.nodup_nil)
    (.inr (by rw [Nat.zero_add, Pattern.height_withoutCaptures]; exact hroom)) hnumbered
  refine ⟨flat, hflat, ?_, fun hwell behind ahead => ?_⟩
  · rw [hexpr]
    exact Expr.captureCount_of_renumber hg.renumber
  · rw [hexpr]
    exact hg.width_match? hwell behind ahead

/-- What patterns are flattened to, one by one. -/
theorem exists_flattened {cs : List Compiled} (hcs : ∀ c ∈ cs, c.IsLegible) :
    ∃ gs, List.Forall₂ FlattensTo cs gs := by
  induction cs with
  | nil => exact ⟨[], .nil⟩
  | cons c cs ih =>
    obtain ⟨hc, hcs⟩ := List.forall_mem_cons.1 hcs
    obtain ⟨g, hg⟩ := hc.exists_flattened
    obtain ⟨gs, hgs⟩ := ih hcs
    exact ⟨g :: gs, .cons hg hgs⟩

theorem forall_renumber {cs : List Compiled} {gs : List Expr}
    (h : List.Forall₂ FlattensTo cs gs) : ∀ g ∈ gs, g.renumber (· + 1) = g := by
  induction h with
  | nil => exact nofun
  | cons hg _ ih => exact List.forall_mem_cons.2 ⟨hg.renumber, ih⟩

/-- **What is read of legible patterns combined into one,** if there is room for their groups:
a capture group for each pattern, around what it was flattened to. -/
theorem ofText_combinedText {cs : List Compiled} (hne : cs ≠ []) (hcs : ∀ c ∈ cs, c.IsLegible)
    (hroom : ∀ c ∈ cs, c.tree.height + 4 ≤ nestingLimit) :
    ∃ combined gs, Compiled.ofText (combinedText cs) = .ok combined ∧
      combined.tree.groupCount = cs.length ∧ List.Forall₂ FlattensTo cs gs ∧
      combined.expr = Expr.unionOf (Expr.inCaptures 0 gs) := by
  obtain ⟨gs, hgs⟩ := exists_flattened hcs
  have heach {P : Pattern → Prop} (h : ∀ c ∈ cs, P c.tree) : ∀ p ∈ cs.map tree, P p := by
    intro p hp
    obtain ⟨c, hc, rfl⟩ := List.mem_map.1 hp
    exact h c hc
  have hne' : cs.map tree ≠ [] := List.map_eq_nil_iff.not.2 hne
  have hlegible := Pattern.legible_combined hne' (heach fun c hc => (hcs c hc).tree)
  have hheight : (Pattern.combined (cs.map tree)).height ≤ (nestingLimit - 4) + 4 :=
    Pattern.height_combined_le (heach fun c hc => Nat.le_sub_of_add_le (hroom c hc))
  have hmeaning := Pattern.meaning_union (List.map_eq_nil_iff.not.2 hne')
    (Pattern.meanings_inCaptures (List.forall₂_map_left_iff.2 (hgs.imp fun _ _ h => h.meaning)) 0)
  obtain ⟨combined, hread, hof, hexpr⟩ := exists_of_render hlegible
    (Pattern.names_combined _ ▸ List.nodup_nil)
    (.inr (Nat.le_trans (Nat.add_le_add_left hheight 0) (by decide)))
    (congrArg Except.toOption hmeaning)
  rw [Pattern.render_combined] at hread
  refine ⟨combined, gs, hread, ?_, hgs, hexpr⟩
  rw [hof.groupCount, Pattern.groupCount_combined, List.length_map]

/-- Flattened patterns find, one by one, what the patterns find, if these flatten well. -/
theorem findSome?_flattened {cs : List Compiled} {gs : List Expr}
    (hgs : List.Forall₂ FlattensTo cs gs) (hwell : ∀ c ∈ cs, c.tree.flattensWell {} = true)
    (n : Nat) (behind ahead : List Char) :
    ((gs.zipIdx n).findSome? fun (e, i) => ((e.match? behind ahead).map Found.width).map
        fun width => (⟨width, [⟨i + 1, 0, width⟩]⟩ : Found))
      = (cs.zipIdx n).findSome? fun (c, i) => ((c.expr.match? behind ahead).map Found.width).map
        fun width => ⟨width, [⟨i + 1, 0, width⟩]⟩ := by
  induction hgs generalizing n with
  | nil => rfl
  | @cons c g cs gs hg _ ih =>
    obtain ⟨hc, hcs⟩ := List.forall_mem_cons.1 hwell
    rw [List.zipIdx_cons, List.zipIdx_cons, List.findSome?_cons, List.findSome?_cons, ih hcs]
    dsimp only
    rw [hg.width_match? hc]

/-- **Combined patterns find** what the first of them finds that finds anything, and its group
takes part with all of it, if they flatten well. -/
theorem match?_combined {cs : List Compiled} (hne : cs ≠ []) {gs : List Expr}
    (hgs : List.Forall₂ FlattensTo cs gs) (hwell : ∀ c ∈ cs, c.tree.flattensWell {} = true)
    (behind ahead : List Char) :
    (Expr.unionOf (Expr.inCaptures 0 gs)).match? behind ahead
      = cs.zipIdx.findSome? fun (c, i) => ((c.expr.match? behind ahead).map Found.width).map
        fun width => ⟨width, [⟨i + 1, 0, width⟩]⟩ := by
  have hne' : gs ≠ [] := by
    rintro rfl
    cases hgs
    exact hne rfl
  rw [Expr.unionOf_inCaptures hne', match?_ofBranches,
    Expr.findSome?_inCaptures (forall_renumber hgs), findSome?_flattened hgs hwell]

end Compiled

end StatefulLexer.Regex
