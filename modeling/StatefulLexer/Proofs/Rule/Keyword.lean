/-
The keywords of a rule.

All words of a rule are put into one table, declaration by declaration, and a word that is
there already is kept. The table has two levels, first the length of a word and then the
word, and keeps the number of its declaration. What is found there is what a search through
the declarations finds: the number of the first one that has the word. A declaration without
words is found by nothing, but takes a number like the others. That is all that is known of
the table: it is hashed, and its order means nothing.

Main statements: `KeywordTable.number?_ofSpecs`, `KeywordTable.lookup_ofSpecs`,
`Rule.produce_mem_producers`.
-/
import StatefulLexer.Proofs.Rule.Compile
import StatefulLexer.Scanner

set_option autoImplicit false

namespace StatefulLexer

/-! ## Tables of keywords -/

namespace KeywordTable

variable (cs : List Category)

/-- One more word changes nothing for the others, and nothing for itself if it was there. -/
theorem number?_insertWord (table : KeywordTable) (number : Nat) (value text : String) :
    ({ table with words := insertWord number table.words value }).number? text =
      (table.number? text).or (if value = text then some number else none) := by
  unfold number? insertWord
  rw [Std.HashMap.getElem?_alter]
  by_cases hlength : value.utf8ByteSize = text.utf8ByteSize
  · rw [if_pos (beq_iff_eq.2 hlength), hlength, Option.bind_some, Std.HashMap.getElem?_insertIfNew]
    -- A length that is new has no words, like an empty bucket.
    have hbucket : (table.words[text.utf8ByteSize]?.getD ∅)[text]?
        = table.words[text.utf8ByteSize]?.bind fun bucket => bucket[text]? := by
      cases table.words[text.utf8ByteSize]? with
      | none => exact Std.HashMap.getElem?_empty
      | some bucket => rfl
    rw [← hbucket]
    generalize table.words[text.utf8ByteSize]?.getD ∅ = bucket
    by_cases hvalue : value = text
    · subst hvalue
      by_cases hmem : value ∈ bucket <;> simp [hmem]
    · simp [hvalue]
  · rw [if_neg (by simpa using hlength)]
    have hvalue : value ≠ text := by
      intro heq
      exact hlength (congrArg String.utf8ByteSize heq)
    rw [if_neg hvalue, Option.or_none]

/-- The words of a declaration, added to those of a table. -/
theorem number?_insert (table : KeywordTable) (values : List String) (o : KeywordOverride)
    (text : String) :
    (table.insert values o).number? text =
      (table.number? text).or
        (if values.contains text then some table.overrides.length else none) := by
  have words (number : Nat) (table : KeywordTable) :
      ({ table with words := values.foldl (insertWord number) table.words }).number? text =
        (table.number? text).or (if values.contains text then some number else none) := by
    induction values generalizing table with
    | nil =>
      rw [List.foldl_nil, List.contains_nil]
      exact Option.or_none.symm
    | cons value values ih =>
      have hrest := ih { table with words := insertWord number table.words value }
      rw [List.foldl_cons]
      refine hrest.trans ?_
      rw [number?_insertWord, Option.or_assoc, List.contains_cons]
      by_cases hvalue : value = text
      · simp [hvalue]
      · simp [hvalue, Ne.symm hvalue]
  exact words table.overrides.length table

/-- The overrides of a table are those of its declarations. -/
theorem overrides_ofSpecs (specs : List KeywordSpec) :
    (ofSpecs specs cs).overrides = specs.map (·.override cs) := by
  have from_table (table : KeywordTable) :
      (specs.foldl (fun table spec => table.insert spec.values (spec.override cs)) table).overrides
        = table.overrides ++ specs.map (·.override cs) := by
    induction specs generalizing table with
    | nil => exact (List.append_nil _).symm
    | cons spec specs ih =>
      rw [List.foldl_cons, ih, insert, List.map_cons, List.append_assoc]
      rfl
  exact from_table {}

/-- **A word has the number of the first declaration of it.** -/
theorem number?_ofSpecs (specs : List KeywordSpec) (text : String) :
    (ofSpecs specs cs).number? text = specs.findIdx? (·.values.contains text) := by
  have from_table (table : KeywordTable) :
      (specs.foldl (fun table spec => table.insert spec.values (spec.override cs)) table).number?
        text = (table.number? text).or
          ((specs.findIdx? (·.values.contains text)).map (· + table.overrides.length)) := by
    induction specs generalizing table with
    | nil => exact Option.or_none.symm
    | cons spec specs ih =>
      -- The next declarations are counted from the table that has this one.
      have hlength : (table.insert spec.values (spec.override cs)).overrides.length
          = table.overrides.length + 1 := List.length_append
      rw [List.foldl_cons, ih, number?_insert, hlength, Option.or_assoc, List.findIdx?_cons]
      cases spec.values.contains text with
      | true => simp
      | false =>
        simp only [Bool.false_eq_true, if_false, Option.none_or, Option.map_map]
        congr 2
        funext number
        simp only [Function.comp_apply]
        omega
  have hnone : ({} : KeywordTable).number? text = none := by
    rw [number?, Std.HashMap.getElem?_empty]
    rfl
  rw [ofSpecs, from_table, hnone, Option.none_or]
  exact Option.map_id'

/-- **A word has what it was first declared with.** -/
theorem lookup_ofSpecs (specs : List KeywordSpec) (text : String) :
    (ofSpecs specs cs).lookup text =
      (specs.find? (·.values.contains text)).map (·.override cs) := by
  rw [lookup, number?_ofSpecs, overrides_ofSpecs]
  induction specs with
  | nil => rfl
  | cons spec specs ih =>
    rw [List.findIdx?_cons, List.find?_cons]
    cases spec.values.contains text with
    | true => rfl
    | false =>
      rw [← ih]
      cases specs.findIdx? (·.values.contains text) <;> rfl

/-- What a text gets was declared. -/
theorem mem_overrides_of_lookup {specs : List KeywordSpec} {text : String} {o : KeywordOverride}
    (h : (ofSpecs specs cs).lookup text = some o) : o ∈ (ofSpecs specs cs).overrides := by
  rw [lookup_ofSpecs] at h
  obtain ⟨spec, hspec, rfl⟩ := Option.map_eq_some_iff.1 h
  rw [overrides_ofSpecs]
  exact List.mem_map_of_mem (List.mem_of_find?_eq_some hspec)

end KeywordTable

/-! ## Rules -/

/-- The keywords and the categories of a compiled rule are those of its options. -/
theorem RuleDecl.produced_of_compile {d : RuleDecl} {ctx : RuleContext} {r : Rule}
    (h : d.compile ctx = .ok r) :
    r.keywords = KeywordTable.ofSpecs d.options.keywords d.options.categories ∧
      r.categories = Category.flatten d.options.categories := by
  unfold RuleDecl.compile at h
  dsimp only at h
  split at h
  · cases h
  · obtain ⟨transition, _, h⟩ := bind_eq_ok.1 h
    split at h
    · cases h
    · obtain ⟨pattern, _, h⟩ := bind_eq_ok.1 h
      cases h
      exact ⟨rfl, rfl⟩

/-- **What a text gets** is one of the things that the rule can give. -/
theorem Rule.produce_mem_producers {d : RuleDecl} {ctx : RuleContext} {r : Rule}
    (h : d.compile ctx = .ok r) (text : String) : r.produce text ∈ r.producers := by
  obtain ⟨hkeywords, _⟩ := RuleDecl.produced_of_compile h
  rw [Rule.produce]
  cases hlookup : r.keywords.lookup text with
  | none => exact List.mem_cons_self
  | some o =>
    rw [hkeywords] at hlookup
    rw [Rule.producers, hkeywords]
    exact List.mem_cons_of_mem _ (KeywordTable.mem_overrides_of_lookup _ hlookup)

end StatefulLexer
