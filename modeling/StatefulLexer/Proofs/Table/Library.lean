/-
The token library of a table.

The library is gathered in one pass over all producers: the rules of every state, and the
keywords of every rule. A type enters it with the categories it is first produced with, and
the pass ends at the first producer that disagrees with them. What has been gathered is an
invariant of the pass: it is described by the producers that were passed.

Main statement: `Table.tokenLibrary_cases`.
-/
import StatefulLexer.Table

set_option autoImplicit false

namespace StatefulLexer

namespace Table

/-! ## Producers -/

/-- **Something of the table produces tokens** with that type and those categories: a rule
of a state, or keywords of such a rule. -/
def Produces (t : Table) (p : KeywordOverride) : Prop :=
  ∃ st ∈ t.states, ∃ r ∈ st.rules,
    p = ⟨r.tokenType, r.categories⟩ ∨ p ∈ r.keywords.overrides

/-- Two producers disagree: they have the same type and different categories. -/
def Disagree (p q : KeywordOverride) : Prop :=
  p.tokenType = q.tokenType ∧ p.categories ≠ q.categories

theorem mem_producers_iff {t : Table} {p : KeywordOverride} : p ∈ t.producers ↔ t.Produces p := by
  simp only [producers, Produces, List.mem_flatMap, Rule.producers, List.mem_cons]

/-- The types that a table has are those that it produces. -/
theorem has_iff {t : Table} {tokenType : String} :
    t.has tokenType = true ↔ ∃ p, t.Produces p ∧ p.tokenType = tokenType := by
  simp only [has, List.any_eq_true, mem_producers_iff, beq_iff_eq]

/-! ## The pass -/

/-- **A library describes producers:** it has each of their types once, and no other, with
the categories that all producers of the type have. -/
structure Describes (library : List (String × List String)) (ps : List KeywordOverride) :
    Prop where
  nodup : (library.map Prod.fst).Nodup
  mem_iff : ∀ tokenType, tokenType ∈ library.map Prod.fst ↔ ∃ p ∈ ps, p.tokenType = tokenType
  lookup : ∀ p ∈ ps, library.lookup p.tokenType = some p.categories

theorem Describes.nil : Describes [] [] where
  nodup := .nil
  mem_iff _ := by simp
  lookup _ h := by cases h

/-- A type is found in a library if it is one of its types. -/
theorem mem_of_lookup {library : List (String × List String)} {tokenType : String}
    {categories : List String} (h : library.lookup tokenType = some categories) :
    tokenType ∈ library.map Prod.fst := by
  obtain ⟨front, back, rfl, _⟩ := List.lookup_eq_some_iff.1 h
  simp

/-- What a library describes has the categories that are found. -/
theorem Describes.exists_producer {library : List (String × List String)}
    {ps : List KeywordOverride} (h : Describes library ps) {tokenType : String}
    {categories : List String} (hfound : library.lookup tokenType = some categories) :
    ∃ p ∈ ps, p.tokenType = tokenType ∧ p.categories = categories := by
  obtain ⟨p, hp, rfl⟩ := (h.mem_iff tokenType).1 (mem_of_lookup hfound)
  rw [h.lookup p hp] at hfound
  exact ⟨p, hp, rfl, Option.some.inj hfound⟩

/-- A producer of a new type is described by a new entry. -/
theorem Describes.push_new {library : List (String × List String)} {ps : List KeywordOverride}
    (h : Describes library ps) {p : KeywordOverride} (hnew : library.lookup p.tokenType = none) :
    Describes (library ++ [(p.tokenType, p.categories)]) (ps ++ [p]) where
  nodup := by
    rw [List.map_append, List.nodup_append]
    refine ⟨h.nodup, List.pairwise_singleton _ _, ?_⟩
    intro name hname other hother heq
    have hother : other = p.tokenType := List.mem_singleton.1 hother
    obtain ⟨q, hq, hqname⟩ := (h.mem_iff name).1 hname
    have hfound := h.lookup q hq
    rw [hqname, heq, hother, hnew] at hfound
    cases hfound
  mem_iff tokenType := by
    have hcases : tokenType ∈ (library ++ [(p.tokenType, p.categories)]).map Prod.fst ↔
        tokenType ∈ library.map Prod.fst ∨ p.tokenType = tokenType := by
      rw [List.map_append, List.mem_append]
      exact or_congr_right (List.mem_singleton.trans eq_comm)
    simp only [hcases, h.mem_iff, List.mem_append, List.mem_singleton, or_and_right, exists_or,
      exists_eq_left]
  lookup q hq := by
    rw [List.lookup_append]
    rcases List.mem_append.1 hq with hq | hq
    · rw [h.lookup q hq]
      rfl
    · rw [List.mem_singleton.1 hq, hnew, Option.none_or]
      simp

/-- A producer of a known type that agrees is described already. -/
theorem Describes.push_known {library : List (String × List String)} {ps : List KeywordOverride}
    (h : Describes library ps) {p : KeywordOverride}
    (hknown : library.lookup p.tokenType = some p.categories) :
    Describes library (ps ++ [p]) where
  nodup := h.nodup
  mem_iff tokenType := by
    rw [h.mem_iff]
    constructor
    · rintro ⟨q, hq, hname⟩
      exact ⟨q, List.mem_append_left [p] hq, hname⟩
    · rintro ⟨q, hq, hname⟩
      rcases List.mem_append.1 hq with hq | hq
      · exact ⟨q, hq, hname⟩
      · rw [List.mem_singleton.1 hq] at hname
        rw [← hname, ← h.mem_iff]
        exact mem_of_lookup hknown
  lookup q hq := by
    rcases List.mem_append.1 hq with hq | hq
    · exact h.lookup q hq
    · rw [List.mem_singleton.1 hq]
      exact hknown

/-- **The pass ends** with a library that describes all producers, or at a producer that
disagrees with one before it. -/
theorem libraryFrom_cases {library : List (String × List String)} {passed : List KeywordOverride}
    (h : Describes library passed) (ps : List KeywordOverride) :
    (∃ last, libraryFrom library ps = .ok last ∧ Describes last (passed ++ ps)) ∨
    (∃ p ∈ passed ++ ps, ∃ q ∈ passed ++ ps, Disagree p q ∧
      libraryFrom library ps = .error (.overlappingTokenType p.tokenType)) := by
  induction ps generalizing library passed with
  | nil =>
    rw [List.append_nil]
    exact .inl ⟨library, rfl, h⟩
  | cons p ps ih =>
    have hnext : passed ++ p :: ps = passed ++ [p] ++ ps := List.append_cons passed p ps
    rw [libraryFrom, hnext]
    split
    · rename_i hnew
      exact ih (h.push_new hnew)
    · rename_i categories hfound
      split
      · rename_i heq
        rw [heq] at hfound
        exact ih (h.push_known hfound)
      · rename_i hne
        obtain ⟨q, hq, hname, hcategories⟩ := h.exists_producer hfound
        have hmem : p ∈ passed ++ [p] ++ ps := by simp
        refine .inr ⟨p, hmem, q, ?_, ⟨hname.symm, ?_⟩, rfl⟩
        · exact List.mem_append_left ps (List.mem_append_left [p] hq)
        · rw [hcategories]
          exact Ne.symm hne

/-- Producers that are described do not disagree. -/
theorem Describes.agree {library : List (String × List String)} {ps : List KeywordOverride}
    (h : Describes library ps) {p q : KeywordOverride} (hp : p ∈ ps) (hq : q ∈ ps) :
    ¬ Disagree p q := by
  rintro ⟨hname, hne⟩
  have hfound := h.lookup p hp
  rw [hname, h.lookup q hq] at hfound
  exact hne (Option.some.inj hfound).symm

/-- **The token library** describes the producers of the table, unless two of them disagree. -/
theorem tokenLibrary_cases (t : Table) :
    (∃ library, t.tokenLibrary = .ok library ∧ Describes library t.producers) ∨
    (∃ p q, t.Produces p ∧ t.Produces q ∧ Disagree p q ∧
      t.tokenLibrary = .error (.overlappingTokenType p.tokenType)) := by
  rcases libraryFrom_cases .nil t.producers with ⟨library, hok, hlibrary⟩ | ⟨p, hp, q, hq, h⟩
  · exact .inl ⟨library, hok, hlibrary⟩
  · exact .inr ⟨p, q, mem_producers_iff.1 hp, mem_producers_iff.1 hq, h⟩

end Table

end StatefulLexer
