/-
States in another order.

A rule knows the number of the state that it was written in, and the number is that of the
declaration. If the states are declared in another order, then the numbers are others, and
nothing else is: a directive has the name of a state, and finds it wherever it stands. In
the definition it does not show, since rules are compared there by their numbers. But what
taking over gives is an expansion, and an expansion takes the lists of the states from
anywhere. So the same rules are taken over, in the same order.

Main statement: `LexerSpec.Permuted.rules`.
-/
import StatefulLexer.Proofs.Inclusion.Expand

set_option autoImplicit false

namespace StatefulLexer

/-! ## Other numbers -/

/-- **The number of a state in another order:** the place of its name there. What is not the
number of a state stays as it is. -/
def renumbering (names names' : List String) (id : Nat) : Nat :=
  (names[id]?.map names'.idxOf).getD id

/-- At its number in the other order there is the state of the same name. -/
theorem getElem?_renumbering {names names' : List String} (h : names'.Perm names) (id : Nat) :
    names'[renumbering names names' id]? = names[id]? := by
  rw [renumbering]
  cases hname : names[id]? with
  | none =>
    have hle := List.getElem?_eq_none_iff.1 hname
    exact List.getElem?_eq_none (h.length_eq ▸ hle)
  | some name =>
    exact List.getElem?_idxOf (h.mem_iff.2 (List.mem_of_getElem? hname))

/-- The number of a name in the other order. -/
theorem idxOf?_renumbering {names names' : List String} (h : names'.Perm names) (name : String) :
    names'.idxOf? name = (names.idxOf? name).map (renumbering names names') := by
  cases hid : names.idxOf? name with
  | none =>
    rw [List.idxOf?_eq_none_iff] at hid
    exact List.idxOf?_eq_none_iff.2 fun hmem => hid (h.mem_iff.1 hmem)
  | some id =>
    obtain ⟨hlt, heq, _⟩ := List.findIdx?_eq_some_iff_getElem.1 hid
    have hget : names[id]? = some name := List.getElem?_eq_some_iff.2 ⟨hlt, beq_iff_eq.1 heq⟩
    obtain ⟨id', hid'⟩ := Option.isSome_iff_exists.1
      (List.isSome_idxOf?.2 (h.mem_iff.2 (List.mem_of_getElem? hget)))
    rw [Option.map_some, renumbering, hget, Option.map_some, Option.getD_some,
      List.idxOf_eq_getD_idxOf?, hid', Option.getD_some]

/-- Every number in the other order is that of a state. -/
theorem exists_renumbering {names names' : List String} (h : names'.Perm names)
    (hnames : names.Nodup) {id' : Nat} (hid' : id' < names'.length) :
    ∃ id < names.length, renumbering names names' id = id' := by
  have hmem : names'[id'] ∈ names := h.mem_iff.1 (List.getElem_mem hid')
  refine ⟨names.idxOf names'[id'], List.idxOf_lt_length_of_mem hmem, ?_⟩
  rw [renumbering, List.getElem?_idxOf hmem, Option.map_some, Option.getD_some]
  exact (h.nodup_iff.2 hnames).idxOf_getElem id' hid'

variable {f : Nat → Nat}

namespace LocatedEntry

/-- The entry of a state that has another number. -/
def renumber (f : Nat → Nat) : LocatedEntry → LocatedEntry
  | rule origin decl => rule { origin with owner := origin.owner.map f } decl
  | splice state => splice state

@[simp] theorem isShared_renumber (e : LocatedEntry) : (e.renumber f).isShared = e.isShared := by
  cases e with
  | splice state => rfl
  | rule origin decl => exact Option.isNone_map

@[simp] theorem decl?_renumber (e : LocatedEntry) : (e.renumber f).decl? = e.decl? := by
  cases e <;> rfl

theorem renumber_ofEntries (owner : Option Nat) (entries : List RuleEntry) :
    (ofEntries owner entries).map (renumber f) = ofEntries (owner.map f) entries := by
  rw [ofEntries, ofEntries, List.map_map]
  refine List.map_congr_left fun p _ => ?_
  obtain ⟨entry, number⟩ := p
  cases entry <;> rfl

end LocatedEntry

namespace EntryList

/-- The list of a state, where states have other numbers. -/
def renumber (f : Nat → Nat) (q : EntryList) : EntryList :=
  { q with entries := q.entries.map (LocatedEntry.renumber f) }

theorem own_renumber (q : EntryList) :
    (q.renumber f).own = q.own.map (LocatedEntry.renumber f) := by
  rw [own, own, renumber, List.filter_map]
  simp only [Function.comp_def, LocatedEntry.isShared_renumber]

variable {lists lists' : List EntryList}

/-- **An expansion has no use for numbers,** nor for the order of the states. -/
theorem Expansion.renumber (hlists : ∀ q ∈ lists, q.renumber f ∈ lists') {name : String}
    {taken new : List String} {todo out : List LocatedEntry}
    (h : Expansion lists name taken todo out new) :
    Expansion lists' name taken (todo.map (LocatedEntry.renumber f))
      (out.map (LocatedEntry.renumber f)) new := by
  induction h with
  | nil taken => exact .nil taken
  | rule origin decl _ ih => exact .rule _ decl ih
  | again htarget _ ih => exact .again htarget ih
  | @splice _ _ _ _ _ _ q hq hname htaken _ _ ih_inner ih =>
    rw [← own_renumber] at ih_inner
    rw [List.map_append]
    exact splice (q := q.renumber f) (hlists q hq) hname htaken ih_inner ih

/-- Taking over succeeds where there is an expansion. -/
theorem Expansion.expand_eq (hl : Located lists) {s : EntryList} (hs : s ∈ lists)
    {out : List LocatedEntry} {new : List String}
    (h : Expansion lists s.name [] s.entries out new) :
    expand lists s.name [] [] s.entries = .ok out := by
  rcases (Working.start hl hs).expand_cases hl hs with
    ⟨out', new', hok, hexpansion, _⟩ | ⟨target, _, hreach, hunknown⟩
  · rw [hok, (h.unique hl.names hexpansion).1]
    rfl
  · obtain ⟨q, hq, hname⟩ := h.known_of_reaches hl hs hreach
    exact absurd hname (hunknown q hq)

end EntryList

/-! ## The states of a lexer -/

namespace LexerSpec

/-- **Two lexers are the same but for the order of the states.** -/
structure Permuted (spec spec' : LexerSpec) : Prop where
  states : spec'.states.Perm spec.states
  shared : spec'.shared = spec.shared

/-- The numbers that the states of a lexer have in another one. -/
def numberIn (spec spec' : LexerSpec) : Nat → Nat :=
  renumbering (spec.states.map (·.name)) (spec'.states.map (·.name))

namespace Permuted

variable {spec spec' : LexerSpec}

theorem names (h : Permuted spec spec') :
    (spec'.states.map (·.name)).Perm (spec.states.map (·.name)) := h.states.map _

/-- A state is found at its number. -/
theorem getElem?_states (h : Permuted spec spec') (hnames : (spec.states.map (·.name)).Nodup)
    (id : Nat) : spec'.states[spec.numberIn spec' id]? = spec.states[id]? := by
  have hname := getElem?_renumbering h.names id
  rw [List.getElem?_map, List.getElem?_map] at hname
  change (spec'.states[spec.numberIn spec' id]?).map _ = _ at hname
  cases hstate : spec.states[id]? with
  | none =>
    rw [hstate] at hname
    exact Option.map_eq_none_iff.1 hname
  | some state =>
    rw [hstate] at hname
    obtain ⟨state', hstate', hsame⟩ := Option.map_eq_some_iff.1 hname
    -- Names are distinct, so the state of the name is the same one.
    have hmem : state' ∈ spec.states := h.states.mem_iff.1 (List.mem_of_getElem? hstate')
    rw [hstate', List.inj_on_of_nodup_map hnames hmem (List.mem_of_getElem? hstate) hsame]

/-- And so is its list, with its rules renumbered. -/
theorem getElem?_entryLists (h : Permuted spec spec') (hnames : (spec.states.map (·.name)).Nodup)
    (id : Nat) : spec'.entryLists[spec.numberIn spec' id]?
      = spec.entryLists[id]?.map (·.renumber (spec.numberIn spec')) := by
  rw [LexerSpec.getElem?_entryLists, LexerSpec.getElem?_entryLists, h.getElem?_states hnames,
    Option.map_map, h.shared]
  simp only [Function.comp_def, EntryList.renumber, List.map_append,
    LocatedEntry.renumber_ofEntries, Option.map_some, Option.map_none]

/-- There are no other lists. -/
theorem exists_entryList (h : Permuted spec spec') (hnames : (spec.states.map (·.name)).Nodup)
    {q' : EntryList} (hq' : q' ∈ spec'.entryLists) :
    ∃ q ∈ spec.entryLists, q.renumber (spec.numberIn spec') = q' := by
  obtain ⟨id', hid'⟩ := List.mem_iff_getElem?.1 hq'
  have hlt' : id' < (spec'.states.map (·.name)).length := by
    rw [← names_entryLists, List.length_map]
    exact (List.getElem?_eq_some_iff.1 hid').1
  obtain ⟨id, _, rfl⟩ := exists_renumbering h.names hnames hlt'
  obtain ⟨q, hq, hsame⟩ := Option.map_eq_some_iff.1 ((h.getElem?_entryLists hnames id).symm.trans hid')
  exact ⟨q, List.mem_of_getElem? hq, hsame⟩

/-- **The rules of a state do not depend on the order of the states.** If it takes over what
it can, then it takes over the same in the other order. -/
theorem rules (h : Permuted spec spec') (hnames : (spec.states.map (·.name)).Nodup)
    {q : EntryList} (hq : q ∈ spec.entryLists) {decls : List RuleDecl}
    (hdecls : EntryList.rules spec.entryLists q = .ok decls) :
    EntryList.rules spec'.entryLists (q.renumber (spec.numberIn spec')) = .ok decls := by
  obtain ⟨out, hout, hdecls⟩ := bind_eq_ok.1 hdecls
  cases hdecls
  have hlists : ∀ q ∈ spec.entryLists, q.renumber (spec.numberIn spec') ∈ spec'.entryLists := by
    intro q hq
    obtain ⟨id, hid⟩ := List.mem_iff_getElem?.1 hq
    refine List.mem_of_getElem? (i := spec.numberIn spec' id) ?_
    rw [h.getElem?_entryLists hnames, hid, Option.map_some]
  -- What was given is the one expansion, and that is an expansion in the other order too.
  obtain ⟨⟨new, hexpansion, _⟩, _⟩ := (EntryList.expand_entryLists hnames hq).2.2 out hout
  have hexpansion' := hexpansion.renumber hlists
  have hl' := located_entryLists (h.names.nodup_iff.2 hnames)
  refine bind_eq_ok.2 ⟨_, EntryList.Expansion.expand_eq hl' (hlists q hq) hexpansion', ?_⟩
  rw [List.filterMap_map]
  simp only [Function.comp_def, LocatedEntry.decl?_renumber]
  rfl

end Permuted

end LexerSpec

end StatefulLexer
