/-
Flattened lists of categories.

What a token carries is not categories but names: those of its categories and of all that
these fall under, gathered once. A test for a category is then a search for a name. So it
has to be known what is in such a list, and in which order. The order is that of the first
occurrence, which is said by the places where names are first met. One more name at the end
is kept if it is new and changes nothing otherwise, and all that is shown here of the order
follows from that.

Main statements: `Category.mem_flatten`, `Category.pairwise_flatten`, `Category.flatten_again`.
-/
import Mathlib.Data.List.Basic
import Mathlib.Data.List.Induction
import StatefulLexer.Category

set_option autoImplicit false

namespace StatefulLexer

/-! ## First occurrences -/

/-- One more element is kept if it was not there before. -/
theorem eraseDups_concat (names : List String) (name : String) :
    (names ++ [name]).eraseDups
      = if name ∈ names then names.eraseDups else names.eraseDups ++ [name] := by
  rw [List.eraseDups_append, List.removeAll]
  by_cases hmem : name ∈ names <;> simp [hmem, List.eraseDups_cons]

/-- **The elements are kept in the order in which they are first met.** -/
theorem pairwise_eraseDups (names : List String) :
    names.eraseDups.Pairwise fun a b => names.idxOf a < names.idxOf b := by
  induction names using List.reverseRecOn with
  | nil => exact .nil
  | append_singleton names name ih =>
    -- An element that was met before is first met where it was.
    have hold : names.eraseDups.Pairwise
        fun a b => (names ++ [name]).idxOf a < (names ++ [name]).idxOf b := by
      refine ih.imp_of_mem fun {a b} ha hb hlt => ?_
      rw [List.mem_eraseDups] at ha hb
      rw [List.idxOf_append_of_mem ha, List.idxOf_append_of_mem hb]
      exact hlt
    rw [eraseDups_concat]
    split
    · exact hold
    · rename_i hnew
      refine List.pairwise_append.2 ⟨hold, List.pairwise_singleton _ _, ?_⟩
      intro a ha b hb
      rw [List.mem_singleton.1 hb, List.idxOf_append_of_notMem hnew,
        List.idxOf_append_of_mem (List.mem_eraseDups.1 ha)]
      have hlt := List.idxOf_lt_length_of_mem (List.mem_eraseDups.1 ha)
      omega

theorem nodup_eraseDups (names : List String) : names.eraseDups.Nodup := by
  refine (pairwise_eraseDups names).imp fun {a b} hlt heq => ?_
  rw [heq] at hlt
  exact Nat.lt_irrefl _ hlt

namespace Category

variable {cs ds : List Category} {name : String}

/-! ## What is in the list -/

/-- **A name is in the list** if it is one that a category brings with it. -/
theorem mem_flatten : name ∈ flatten cs ↔ ∃ c ∈ cs, name ∈ c.names := by
  rw [flatten, List.mem_eraseDups, List.mem_flatMap]

/-- No name is there twice. -/
theorem nodup_flatten (cs : List Category) : (flatten cs).Nodup := nodup_eraseDups _

/-- **The names are in the order in which they are first met,** where each category is
followed by what it falls under. -/
theorem pairwise_flatten (cs : List Category) :
    (flatten cs).Pairwise fun a b => (cs.flatMap names).idxOf a < (cs.flatMap names).idxOf b :=
  pairwise_eraseDups _

/-- The names that categories add to those of other ones. -/
def newNames (cs ds : List Category) : List String :=
  ((ds.flatMap names).filter fun name => !(flatten cs).contains name).eraseDups

/-- What is declared behind other categories adds the names that are new. -/
theorem flatten_append (cs ds : List Category) :
    flatten (cs ++ ds) = flatten cs ++ newNames cs ds := by
  rw [flatten, List.flatMap_append, List.eraseDups_append]
  refine congrArg (fun names => flatten cs ++ List.eraseDups names) ?_
  refine List.filter_congr fun name _ => ?_
  rw [Bool.eq_iff_iff]
  simp [flatten, List.mem_eraseDups]

theorem mem_newNames :
    name ∈ newNames cs ds ↔ name ∉ flatten cs ∧ ∃ c ∈ ds, name ∈ c.names := by
  rw [newNames, List.mem_eraseDups, List.mem_filter, List.mem_flatMap, and_comm]
  simp

/-- **To declare again** what is there changes nothing. -/
theorem flatten_again
    (h : ∀ d ∈ ds, d.name ∈ flatten cs ∧ ∀ a ∈ d.ancestors, a ∈ flatten cs) :
    flatten (cs ++ ds) = flatten cs := by
  have hnone : newNames cs ds = [] := by
    refine List.eq_nil_iff_forall_not_mem.2 fun name hname => ?_
    obtain ⟨hnew, d, hd, hmem⟩ := mem_newNames.1 hname
    rcases (mem_names d name).1 hmem with rfl | hancestor
    · exact hnew (h d hd).1
    · exact hnew ((h d hd).2 name hancestor)
  rw [flatten_append, hnone, List.append_nil]

/-- **A category comes before what it brings in:** before those of its ancestors that no
category in front of it brought with it. -/
theorem sublist_flatten (front : List Category) (c : Category) (back : List Category) {a : String}
    (ha : a ∈ c.ancestors) (hname : a ≠ c.name) (hnew : a ∉ flatten front) :
    [c.name, a].Sublist (flatten (front ++ c :: back)) := by
  have hsplit : flatten (front ++ c :: back)
      = flatten (front ++ [c]) ++ newNames (front ++ [c]) back := by
    rw [List.append_cons, flatten_append]
  rw [hsplit]
  refine List.Sublist.trans ?_ (List.sublist_append_left _ _)
  rw [flatten_append]
  have hadded : a ∈ newNames front [c] :=
    mem_newNames.2 ⟨hnew, c, List.mem_singleton_self c, (mem_names c a).2 (.inr ha)⟩
  by_cases hmem : c.name ∈ flatten front
  · exact List.Sublist.append (List.singleton_sublist.2 hmem) (List.singleton_sublist.2 hadded)
  · -- The name of the category is the first one that it adds.
    obtain ⟨rest, hrest⟩ : ∃ rest, newNames front [c] = c.name :: rest := by
      rw [newNames, List.flatMap_singleton, names, List.filter_cons_of_pos (by simp [hmem]),
        List.eraseDups_cons]
      exact ⟨_, rfl⟩
    rw [hrest] at hadded ⊢
    have hbehind : a ∈ rest := (List.mem_cons.1 hadded).resolve_left hname
    exact (List.cons_sublist_cons.2 (List.singleton_sublist.2 hbehind)).trans
      (List.sublist_append_right _ _)

/-- **A name is in the list** if a category is one of that name or falls under one. -/
theorem mem_flatten_iff_isA (c : Category) :
    c.name ∈ flatten cs ↔ ∃ d ∈ cs, d.isA c = true := by
  rw [mem_flatten]
  refine exists_congr fun d => and_congr_right fun _ => ?_
  exact (isA_iff d c).symm

end Category

end StatefulLexer
