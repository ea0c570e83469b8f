/-
Hierarchies of categories.

What a category falls under is worked out when it is made, from the lists that its parents
carry: each parent and what stands in the parent's list, nothing further. The hierarchy is
never walked. Still the list has everything in it that can be reached by going from parent to
parent, however far. Parents are made first, so their lists are complete by the time they are
asked for, and a category that is made later changes nothing for the earlier ones. The
induction is on the categories in the order in which they are made.

A name stands for one category only as long as it is not used again. Without this a list of
names could not tell two categories apart, and a category could fall under one that merely has
the name of its parent.

Main statement: `CategoryDecl.isA_order`.
-/
import Mathlib.Logic.Relation
import Mathlib.Order.Defs.Unbundled
import StatefulLexer.Proofs.Category

set_option autoImplicit false

namespace StatefulLexer

/-- A category as it is declared: its name and its parents. -/
structure CategoryDecl where
  name : String
  parents : List Category
deriving DecidableEq

namespace CategoryDecl

/-! ## Declaring categories -/

/-- The category that is made. -/
def category (d : CategoryDecl) : Category := .under d.name d.parents

@[simp] theorem name_category (d : CategoryDecl) : d.category.name = d.name := rfl

theorem ancestors_category (d : CategoryDecl) :
    d.category.ancestors = Category.flatten d.parents := rfl

/-- **Categories made one after the other,** the latest first. The parents of each were made
before it, and no name is used twice. -/
inductive Made : List CategoryDecl → Prop where
  | nothing : Made []
  | next {ds : List CategoryDecl} {d : CategoryDecl} (made : Made ds)
      (parents : ∀ p ∈ d.parents, p ∈ ds.map category)
      (fresh : d.name ∉ ds.map CategoryDecl.name) : Made (d :: ds)

/-- The category was declared with the other one as a parent. -/
def Parent (ds : List CategoryDecl) (a b : Category) : Prop :=
  ∃ d ∈ ds, d.category = a ∧ b ∈ d.parents

/-- From the category the other one is reached by going to a parent, any number of times. -/
def Reaches (ds : List CategoryDecl) : Category → Category → Prop :=
  Relation.ReflTransGen (Parent ds)

variable {ds : List CategoryDecl} {d : CategoryDecl} {a b c : Category}

/-! ## One category more -/

/-- The name of a category that was made is one that was used. -/
theorem name_mem (h : c ∈ ds.map category) : c.name ∈ ds.map CategoryDecl.name := by
  simp only [List.mem_map] at h ⊢
  obtain ⟨e, he, rfl⟩ := h
  exact ⟨e, he, rfl⟩

theorem Made.earlier (h : Made (d :: ds)) : Made ds := by
  cases h with
  | next made _ _ => exact made

theorem Made.parents_mem (h : Made (d :: ds)) : ∀ p ∈ d.parents, p ∈ ds.map category := by
  cases h with
  | next _ parents _ => exact parents

theorem Made.name_notMem (h : Made (d :: ds)) : d.name ∉ ds.map CategoryDecl.name := by
  cases h with
  | next _ _ fresh => exact fresh

/-- The latest category is a new one, since its name is. -/
theorem Made.category_notMem (h : Made (d :: ds)) : d.category ∉ ds.map category := by
  intro hmem
  exact h.name_notMem (name_mem hmem)

/-- **Names tell categories apart.** -/
theorem Made.eq_of_name (h : Made ds) (ha : a ∈ ds.map category) (hb : b ∈ ds.map category)
    (hname : a.name = b.name) : a = b := by
  induction h with
  | nothing => cases ha
  | next made parents fresh ih =>
    rw [List.map_cons, List.mem_cons] at ha hb
    rcases ha with rfl | ha
    · rcases hb with rfl | hb
      · rfl
      · rw [← name_category, hname] at fresh
        exact absurd (name_mem hb) fresh
    · rcases hb with rfl | hb
      · rw [← name_category, ← hname] at fresh
        exact absurd (name_mem ha) fresh
      · exact ih ha hb

/-- The parents of the latest category are those that it was declared with. -/
theorem Made.parent_latest_iff (h : Made (d :: ds)) :
    Parent (d :: ds) d.category b ↔ b ∈ d.parents := by
  constructor
  · rintro ⟨e, he, hcategory, hb⟩
    rcases List.mem_cons.1 he with rfl | he
    · exact hb
    · exact absurd (hcategory ▸ List.mem_map_of_mem he) h.category_notMem
  · intro hb
    exact ⟨d, List.mem_cons_self, rfl, hb⟩

/-- The parents of an earlier category stay what they are. -/
theorem Made.parent_earlier_iff (h : Made (d :: ds)) (ha : a ∈ ds.map category) :
    Parent (d :: ds) a b ↔ Parent ds a b := by
  constructor
  · rintro ⟨e, he, hcategory, hb⟩
    rcases List.mem_cons.1 he with rfl | he
    · rw [← hcategory] at ha
      exact absurd ha h.category_notMem
    · exact ⟨e, he, hcategory, hb⟩
  · rintro ⟨e, he, hcategory, hb⟩
    exact ⟨e, List.mem_cons_of_mem d he, hcategory, hb⟩

/-- Parents are categories that were made. -/
theorem Made.mem_of_parent (h : Made ds) (hparent : Parent ds a b) : b ∈ ds.map category := by
  induction h with
  | nothing =>
    obtain ⟨e, he, _⟩ := hparent
    cases he
  | next made parents fresh ih =>
    rw [List.map_cons]
    apply List.mem_cons_of_mem
    obtain ⟨e, he, hcategory, hb⟩ := hparent
    rcases List.mem_cons.1 he with rfl | he
    · exact parents b hb
    · exact ih ⟨e, he, hcategory, hb⟩

/-- Only categories that were made are reached from one. -/
theorem Made.mem_of_reaches (h : Made ds) (ha : a ∈ ds.map category) (hreach : Reaches ds a b) :
    b ∈ ds.map category := by
  induction hreach with
  | refl => exact ha
  | tail _ hparent _ => exact h.mem_of_parent hparent

/-- **A later category changes nothing for an earlier one:** it reaches what it reached. -/
theorem Made.reaches_earlier_iff (h : Made (d :: ds)) (ha : a ∈ ds.map category) :
    Reaches (d :: ds) a b ↔ Reaches ds a b := by
  constructor
  · intro hreach
    induction hreach with
    | refl => exact .refl
    | tail _ hparent ih =>
      have hmem := h.earlier.mem_of_reaches ha ih
      exact ih.tail ((h.parent_earlier_iff hmem).1 hparent)
  · intro hreach
    have hmore : Parent ds ≤ Parent (d :: ds) := by
      rintro x y ⟨e, he, hcategory, hy⟩
      exact ⟨e, List.mem_cons_of_mem d he, hcategory, hy⟩
    exact Relation.ReflTransGen.mono hmore a b hreach

/-- **The latest category reaches** itself and what its parents reach. -/
theorem Made.reaches_latest_iff (h : Made (d :: ds)) :
    Reaches (d :: ds) d.category b ↔ b = d.category ∨ ∃ p ∈ d.parents, Reaches ds p b := by
  constructor
  · intro hreach
    rcases Relation.ReflTransGen.cases_head hreach with rfl | ⟨p, hparent, hrest⟩
    · exact .inl rfl
    · have hp := h.parent_latest_iff.1 hparent
      exact .inr ⟨p, hp, (h.reaches_earlier_iff (h.parents_mem p hp)).1 hrest⟩
  · rintro (rfl | ⟨p, hp, hrest⟩)
    · exact .refl
    · have hrest := (h.reaches_earlier_iff (h.parents_mem p hp)).2 hrest
      exact .head (h.parent_latest_iff.2 hp) hrest

/-! ## What a category brings with it -/

/-- **A category has the names of all that it reaches,** and no others. -/
theorem Made.mem_names_iff (h : Made ds) (hc : c ∈ ds.map category) (name : String) :
    name ∈ c.names ↔ ∃ b ∈ ds.map category, b.name = name ∧ Reaches ds c b := by
  induction h generalizing c name with
  | nothing => cases hc
  | @next ds d made parents fresh ih =>
    have hmade : Made (d :: ds) := .next made parents fresh
    rw [List.map_cons, List.mem_cons] at hc
    rcases hc with rfl | hc
    · -- The lists of the parents are complete, and nothing else is asked.
      rw [Category.mem_names, ancestors_category, Category.mem_flatten]
      constructor
      · rintro (rfl | ⟨p, hp, hname⟩)
        · exact ⟨d.category, List.mem_cons_self, rfl, .refl⟩
        · obtain ⟨b, hb, hbname, hreach⟩ := (ih (parents p hp) name).1 hname
          exact ⟨b, List.mem_cons_of_mem _ hb, hbname,
            hmade.reaches_latest_iff.2 (.inr ⟨p, hp, hreach⟩)⟩
      · rintro ⟨b, _, rfl, hreach⟩
        rcases hmade.reaches_latest_iff.1 hreach with rfl | ⟨p, hp, hreach⟩
        · exact .inl rfl
        · have hb := made.mem_of_reaches (parents p hp) hreach
          exact .inr ⟨p, hp, (ih (parents p hp) b.name).2 ⟨b, hb, rfl, hreach⟩⟩
    · rw [ih hc name]
      constructor
      · rintro ⟨b, hb, hbname, hreach⟩
        exact ⟨b, List.mem_cons_of_mem _ hb, hbname, (hmade.reaches_earlier_iff hc).2 hreach⟩
      · rintro ⟨b, _, hbname, hreach⟩
        have hreach := (hmade.reaches_earlier_iff hc).1 hreach
        exact ⟨b, made.mem_of_reaches hc hreach, hbname, hreach⟩

/-- **To fall under a category is to reach it.** -/
theorem Made.isA_iff_reaches (h : Made ds) (ha : a ∈ ds.map category) (hb : b ∈ ds.map category) :
    a.isA b = true ↔ Reaches ds a b := by
  rw [Category.isA_iff, h.mem_names_iff ha]
  constructor
  · rintro ⟨b', hb', hname, hreach⟩
    rwa [h.eq_of_name hb' hb hname] at hreach
  · intro hreach
    exact ⟨b, hb, rfl, hreach⟩

/-- **No two categories reach each other:** the later one is out of reach for the earlier. -/
theorem Made.eq_of_reaches (h : Made ds) (ha : a ∈ ds.map category) (hab : Reaches ds a b)
    (hba : Reaches ds b a) : a = b := by
  induction h with
  | nothing => cases ha
  | @next ds d made parents fresh ih =>
    have hmade : Made (d :: ds) := .next made parents fresh
    rw [List.map_cons, List.mem_cons] at ha
    by_cases hold : a ∈ ds.map category
    · have hab := (hmade.reaches_earlier_iff hold).1 hab
      have hb := made.mem_of_reaches hold hab
      exact ih hold hab ((hmade.reaches_earlier_iff hb).1 hba)
    · -- The latest one is not reached from the others.
      have hlate : a = d.category := ha.resolve_right hold
      rw [hlate] at hab hba ⊢
      rcases hmade.reaches_latest_iff.1 hab with rfl | ⟨p, hp, hreach⟩
      · rfl
      · have hb := made.mem_of_reaches (parents p hp) hreach
        have hback := (hmade.reaches_earlier_iff hb).1 hba
        exact absurd (made.mem_of_reaches hb hback) hmade.category_notMem

/-- A category is not among its own ancestors. -/
theorem Made.name_notMem_ancestors (h : Made ds) (hc : c ∈ ds.map category) :
    c.name ∉ c.ancestors := by
  induction h with
  | nothing => cases hc
  | @next ds d made parents fresh ih =>
    rw [List.map_cons, List.mem_cons] at hc
    rcases hc with rfl | hc
    · intro hmem
      rw [ancestors_category, Category.mem_flatten] at hmem
      obtain ⟨p, hp, hname⟩ := hmem
      obtain ⟨b, hb, hbname, _⟩ := (made.mem_names_iff (parents p hp) _).1 hname
      rw [← name_category, ← hbname] at fresh
      exact fresh (name_mem hb)
    · exact ih hc

/-- The ancestors of a category are what it reaches, less the category itself. -/
theorem Made.mem_ancestors_iff (h : Made ds) (hc : c ∈ ds.map category) (name : String) :
    name ∈ c.ancestors ↔ ∃ b ∈ ds.map category, b.name = name ∧ b ≠ c ∧ Reaches ds c b := by
  have hself := h.name_notMem_ancestors hc
  constructor
  · intro hmem
    have hnames : name ∈ c.names := (Category.mem_names c name).2 (.inr hmem)
    obtain ⟨b, hb, rfl, hreach⟩ := (h.mem_names_iff hc name).1 hnames
    refine ⟨b, hb, rfl, ?_, hreach⟩
    rintro rfl
    exact hself hmem
  · rintro ⟨b, hb, rfl, hne, hreach⟩
    have hnames := (h.mem_names_iff hc b.name).2 ⟨b, hb, rfl, hreach⟩
    rcases (Category.mem_names c b.name).1 hnames with hname | hmem
    · exact absurd (h.eq_of_name hb hc hname) hne
    · exact hmem

/-! ## The order -/

/-- **Falling under is an order.** One category falls under another if it reaches it from
parent to parent; this is a partial order on the categories that were made. The ancestors of
each are all others that it reaches, each of them once, and they are in the order in which they
are met when each parent is followed by its own ancestors. -/
theorem isA_order (ds : List CategoryDecl) (h : Made ds) :
    (∀ a ∈ ds.map category, ∀ b ∈ ds.map category, a.isA b = true ↔ Reaches ds a b) ∧
    IsPartialOrder { c : Category // c ∈ ds.map category } (fun a b => a.val.isA b.val = true) ∧
    ∀ d ∈ ds,
      (∀ name, name ∈ d.category.ancestors ↔
        ∃ b ∈ ds.map category, b.name = name ∧ b ≠ d.category ∧ Reaches ds d.category b) ∧
      d.category.ancestors.Nodup ∧
      d.name ∉ d.category.ancestors ∧
      d.category.ancestors.Pairwise fun a b =>
        (d.parents.flatMap fun p => p.name :: p.ancestors).idxOf a
          < (d.parents.flatMap fun p => p.name :: p.ancestors).idxOf b := by
  have hreach : ∀ a ∈ ds.map category, ∀ b ∈ ds.map category, a.isA b = true ↔ Reaches ds a b := by
    intro a ha b hb
    exact h.isA_iff_reaches ha hb
  refine ⟨hreach, ?_, ?_⟩
  · exact
      { refl := fun a => a.val.isA_refl
        trans := by
          rintro ⟨a, ha⟩ ⟨b, hb⟩ ⟨c, hc⟩ hab hbc
          rw [hreach a ha b hb] at hab
          rw [hreach b hb c hc] at hbc
          rw [hreach a ha c hc]
          exact hab.trans hbc
        antisymm := by
          rintro ⟨a, ha⟩ ⟨b, hb⟩ hab hba
          rw [hreach a ha b hb] at hab
          rw [hreach b hb a ha] at hba
          exact Subtype.ext (h.eq_of_reaches ha hab hba) }
  · intro d hd
    have hc : d.category ∈ ds.map category := List.mem_map_of_mem hd
    refine ⟨h.mem_ancestors_iff hc, ?_, h.name_notMem_ancestors hc, ?_⟩
    · rw [ancestors_category]
      exact Category.nodup_flatten d.parents
    · rw [ancestors_category]
      exact Category.pairwise_flatten d.parents

/-- Four categories that form a diamond. The last one names the top as a parent of its own,
although both other parents fall under it. -/
def diamond : List CategoryDecl :=
  let top : CategoryDecl := { name := "top", parents := [] }
  let left : CategoryDecl := { name := "left", parents := [top.category] }
  let right : CategoryDecl := { name := "right", parents := [top.category] }
  [{ name := "bottom", parents := [left.category, top.category, right.category] }, right, left, top]

/-- The top is reached from the bottom and stands behind the first category that brings it in;
the two sides do not reach each other. -/
theorem isA_order_diamond :
    ∃ bottom right left top, diamond = [bottom, right, left, top] ∧ Made diamond ∧
      bottom.category.ancestors = ["left", "top", "right"] ∧
      Reaches diamond bottom.category top.category ∧
      ¬Reaches diamond left.category right.category := by
  have hmade : Made diamond :=
    .next (.next (.next (.next .nothing (by decide) (by decide)) (by decide) (by decide))
      (by decide) (by decide)) (by decide) (by decide)
  obtain ⟨hreach, _, _⟩ := isA_order diamond hmade
  refine ⟨_, _, _, _, rfl, hmade, by decide, ?_, ?_⟩
  · exact (hreach _ (by decide) _ (by decide)).1 (by decide)
  · intro hsides
    exact absurd ((hreach _ (by decide) _ (by decide)).2 hsides) (by decide)

end CategoryDecl

end StatefulLexer
