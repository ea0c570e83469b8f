/-
Resets in place.

A scanner is changed in place, and a change that fails half way could leave it half
changed. A reset looks up all names before it sets the first field. So a name that is no
state of the table leaves everything as it was, a match that waits included, at whatever
depth of the stack it is; and behind a reset that succeeds every field is set, and nothing
is left of what the scanner was before.

Main statements: `Change.outcome_reset`, by which a reset in place is all or nothing, and
`reset_atomic`.
-/
import StatefulLexer.Proofs.Run.Sound

set_option autoImplicit false

namespace StatefulLexer

/-! ## Names of states -/

/-- The names of all states, in the order of their declaration. -/
def Table.stateNames (t : Table) : List String := t.states.map (·.name)

/-- The names that a saved place is looked up by. -/
def SavedPlace.names (p : SavedPlace) : List String := p.state :: p.stack

/-- The first name that no state has. -/
def Table.unknown? (t : Table) (names : List String) : Option String :=
  names.find? fun name => decide (name ∉ t.stateNames)

namespace Table

variable {t : Table} {name : String} {names : List String}

theorem stateId?_eq_none_iff : t.stateId? name = none ↔ name ∉ t.stateNames := by
  rw [stateId?, List.findIdx?_eq_none_iff, stateNames, List.mem_map]
  constructor
  · rintro h ⟨st, hst, rfl⟩
    exact absurd (h st hst) (by rw [beq_self_eq_true]; exact Bool.true_eq_false.mp)
  · intro h st hst
    exact beq_false_of_ne fun heq => h ⟨st, hst, heq⟩

/-- The state that is found by a name has that name. -/
theorem name_of_stateId? {id : StateId} (h : t.stateId? name = some id) :
    (t.state id).name = name := by
  obtain ⟨hid, heq, _⟩ := List.findIdx?_eq_some_iff_getElem.1 h
  rw [state_of_getElem? (List.getElem?_eq_getElem hid)]
  exact beq_iff_eq.1 heq

theorem unknown?_eq_none_iff : t.unknown? names = none ↔ ∀ name ∈ names, name ∈ t.stateNames := by
  rw [unknown?, List.find?_eq_none]
  refine forall₂_congr fun name _ => ?_
  rw [decide_eq_true_iff, Classical.not_not]

end Table

namespace Scanner

/-! ## Looking names up -/

section

variable {s : Scanner} {name : String} {names : List String}

theorem resolve_eq_error (h : name ∉ s.table.stateNames) :
    s.resolve name = .error (.unknownState name) := by
  rw [resolve, Table.stateId?_eq_none_iff.2 h]

/-- **Known names** lead to states that have them. -/
theorem mapM_resolve_eq_ok (h : s.table.unknown? names = none) :
    ∃ ids, names.mapM s.resolve = .ok ids ∧ ids.map (fun id => (s.table.state id).name) = names := by
  rw [Table.unknown?_eq_none_iff] at h
  induction names with
  | nil => exact ⟨[], rfl, rfl⟩
  | cons name names ih =>
    obtain ⟨hname, hnames⟩ := List.forall_mem_cons.1 h
    obtain ⟨ids, hids, hmap⟩ := ih hnames
    obtain ⟨id, hid⟩ := Option.ne_none_iff_exists'.1 fun hnone =>
      Table.stateId?_eq_none_iff.1 hnone hname
    refine ⟨id :: ids, mapM_cons_eq_ok.2 ⟨id, ids, ?_, hids, rfl⟩, ?_⟩
    · rw [resolve, hid]
    · rw [List.map_cons, hmap, Table.name_of_stateId? hid]

/-- **The first unknown name** is the one that is reported, however many known ones there are
in front of it. -/
theorem mapM_resolve_eq_error (h : s.table.unknown? names = some name) :
    names.mapM s.resolve = .error (.unknownState name) := by
  induction names with
  | nil => cases h
  | cons first names ih =>
    rw [Table.unknown?, List.find?_cons] at h
    rw [List.mapM_cons]
    by_cases hfirst : first ∈ s.table.stateNames
    · rw [decide_eq_false (Classical.not_not.2 hfirst)] at h
      obtain ⟨id, hid⟩ := Option.ne_none_iff_exists'.1 fun hnone =>
        Table.stateId?_eq_none_iff.1 hnone hfirst
      have hknown : s.resolve first = .ok id := by rw [resolve, hid]
      rw [hknown, ok_bind, ih h]
      rfl
    · rw [decide_eq_true hfirst] at h
      rw [← Option.some.inj h, resolve_eq_error hfirst]
      rfl

end

/-- The scanner of a table at the start of a buffer, with a place and states of its own. -/
def begun (t : Table) (buffer : List Char) (position : Position) (state : StateId)
    (stack : List StateId) : Scanner :=
  { t.scanner buffer with position, state, stack }

/-- A reset looks the names of the place up in one go. -/
theorem reset_some (s : Scanner) (buffer : List Char) (p : SavedPlace) :
    s.reset buffer (some p) = (p.names.mapM s.resolve).map fun ids =>
      begun s.table buffer ⟨p.line, p.col⟩ (ids.headD s.table.start) ids.tail.reverse := by
  rw [reset, SavedPlace.names, List.mapM_cons]
  cases s.resolve p.state with
  | error e => rfl
  | ok state =>
    rw [ok_bind, ok_bind]
    cases p.stack.mapM s.resolve with
    | error e => rfl
    | ok stack => rfl

/-! ## Changes in place -/

/-- A change of a scanner in place. Where it fails, what it changed before stays changed. -/
abbrev Change (α : Type) : Type := ExceptT LexError (StateM Scanner) α

namespace Change

/-- What comes of a change, and the scanner as it is then. -/
def outcome {α : Type} (x : Change α) (s : Scanner) : Except LexError α × Scanner :=
  ((ExceptT.run x).run s).run

/-- The number of a state that exists. -/
def resolve (name : String) : Change StateId := do
  match (← get).table.stateId? name with
  | some id => return id
  | none => throw (.unknownState name)

/-- The position and the states that a scanner starts in. -/
def origin : Option SavedPlace → Change (Position × StateId × List StateId)
  | none => do
    return ({}, (← get).table.start, [])
  | some p => do
    let state ← resolve p.state
    let stack ← p.stack.mapM resolve
    return (⟨p.line, p.col⟩, state, stack.reverse)

/-- To another buffer, from its start. -/
def reset (buffer : List Char) (saved : Option SavedPlace) : Change Unit := do
  let (position, state, stack) ← origin saved
  modify fun s => { s with cursor := Cursor.start buffer }
  modify fun s => { s with position }
  modify fun s => { s with state }
  modify fun s => { s with stack }
  modify fun s => { s with pending := [] }

/-- To the named state, by a transition of the one kind or the other. -/
def transit (kind : StateId → Transition) (name : String) : Change Unit := do
  let state ← resolve name
  modify fun s => s.transit (kind state)

/-- To the named state. -/
def setState (name : String) : Change Unit := transit .next name

/-- To the named state, with the present one remembered. -/
def pushState (name : String) : Change Unit := transit .push name

section

variable {α β : Type} {x : Change α} {f : α → Change β} {s s' : Scanner}

/-- The next change begins where the first one ended. -/
theorem outcome_bind {a : α} (h : x.outcome s = (.ok a, s')) :
    (x >>= f).outcome s = (f a).outcome s' := by
  show ExceptT.bindCont f (x.outcome s).1 (x.outcome s).2 = _
  rw [h]
  rfl

/-- There is no next change where the first one fails. -/
theorem outcome_bind_of_error {e : LexError} (h : x.outcome s = (.error e, s')) :
    (x >>= f).outcome s = (.error e, s') := by
  show ExceptT.bindCont f (x.outcome s).1 (x.outcome s).2 = _
  rw [h]
  rfl

end

/-- Looking a name up changes nothing. -/
theorem outcome_resolve (name : String) (s : Scanner) :
    (resolve name).outcome s = (s.resolve name, s) := by
  have hget : (get : Change Scanner).outcome s = (.ok s, s) := rfl
  rw [resolve, outcome_bind hget, Scanner.resolve]
  cases s.table.stateId? name with
  | none => rfl
  | some id => rfl

/-- Looking names up changes nothing, wherever it ends. -/
theorem outcome_mapM_resolve (names : List String) (s : Scanner) :
    (names.mapM resolve).outcome s = (names.mapM s.resolve, s) := by
  induction names with
  | nil => rfl
  | cons name names ih =>
    have hname := outcome_resolve name s
    rw [List.mapM_cons, List.mapM_cons]
    cases hr : s.resolve name with
    | error e =>
      rw [hr] at hname
      rw [outcome_bind_of_error hname]
      rfl
    | ok id =>
      rw [hr] at hname
      rw [outcome_bind hname, ok_bind]
      cases hrs : names.mapM s.resolve with
      | error e =>
        rw [hrs] at ih
        rw [outcome_bind_of_error ih]
        rfl
      | ok ids =>
        rw [hrs] at ih
        rw [outcome_bind ih]
        rfl

/-- All or nothing: the scanner that was asked for, or the one there was. -/
def allOrNothing (s : Scanner) : Except LexError Scanner → Except LexError Unit × Scanner
  | .ok s' => (.ok (), s')
  | .error e => (.error e, s)

/-- **A reset in place is all or nothing:** no field is set before all names were found. -/
theorem outcome_reset (s : Scanner) (buffer : List Char) (saved : Option SavedPlace) :
    (reset buffer saved).outcome s = allOrNothing s (s.reset buffer saved) := by
  cases saved with
  | none => rfl
  | some p =>
    have hstate := outcome_resolve p.state s
    have hstack := outcome_mapM_resolve p.stack s
    rw [reset, origin, Scanner.reset]
    cases hr : s.resolve p.state with
    | error e =>
      rw [hr] at hstate
      exact outcome_bind_of_error (outcome_bind_of_error hstate)
    | ok state =>
      rw [hr] at hstate
      rw [ok_bind]
      cases hrs : p.stack.mapM s.resolve with
      | error e =>
        rw [hrs] at hstack
        exact outcome_bind_of_error ((outcome_bind hstate).trans (outcome_bind_of_error hstack))
      | ok stack =>
        rw [hrs] at hstack
        have horigin : (origin (some p)).outcome s
            = (.ok (⟨p.line, p.col⟩, state, stack.reverse), s) := by
          rw [origin, outcome_bind hstate, outcome_bind hstack]
          rfl
        exact outcome_bind horigin

/-- So is a transition in place to a named state. -/
theorem outcome_transit (kind : StateId → Transition) (name : String) (s : Scanner) :
    (transit kind name).outcome s
      = allOrNothing s (do return s.transit (kind (← s.resolve name))) := by
  have hname := outcome_resolve name s
  rw [transit]
  cases hr : s.resolve name with
  | error e =>
    rw [hr] at hname
    exact outcome_bind_of_error hname
  | ok id =>
    rw [hr] at hname
    exact outcome_bind hname

end Change

/-! ## Atomicity -/

/-- What the names of a saved place lead to has those names again. -/
theorem save_begun {t : Table} {buffer : List Char} {p : SavedPlace} {ids : List StateId}
    (h : ids.map (fun id => (t.state id).name) = p.names) :
    (begun t buffer ⟨p.line, p.col⟩ (ids.headD t.start) ids.tail.reverse).save = p := by
  cases ids with
  | nil => cases h
  | cons state stack =>
    obtain ⟨hstate, hstack⟩ := List.cons.inj h
    rw [save, stackNames, stateName, begun, List.tail_cons, List.headD_cons, List.reverse_reverse]
    exact congrArg₂ (SavedPlace.mk p.line p.col) hstate hstack

section

variable {s : Scanner} {p : SavedPlace} {name : String}

/-- A reset to a place with a state that does not exist changes nothing. -/
theorem outcome_reset_of_unknown (h : s.table.unknown? p.names = some name) (buffer : List Char) :
    (Change.reset buffer (some p)).outcome s = (.error (.unknownState name), s) := by
  rw [Change.outcome_reset, reset_some, mapM_resolve_eq_error h]
  rfl

/-- A reset to a place whose states exist begins there, and what the scanner was has no part
in it. -/
theorem outcome_reset_of_known (h : s.table.unknown? p.names = none) (buffer : List Char) :
    ∃ state stack, (begun s.table buffer ⟨p.line, p.col⟩ state stack).save = p ∧
      ∀ other : Scanner, other.table = s.table → (Change.reset buffer (some p)).outcome other
        = (.ok (), begun s.table buffer ⟨p.line, p.col⟩ state stack) := by
  obtain ⟨ids, hids, hnames⟩ := mapM_resolve_eq_ok h
  refine ⟨_, _, save_begun hnames, fun other hother => ?_⟩
  have hresolve : other.resolve = s.resolve := by
    funext name
    rw [resolve, resolve, hother]
  rw [Change.outcome_reset, reset_some, hresolve, hids, hother]
  rfl

end

/-- **A reset is atomic and leaves no history behind.** Without a saved place the scanner is
a new one. With one, it is as if the table had begun the buffer in that place, exactly if all
states of the place exist; and if one does not, the first of those is reported, and the
scanner is as it was. So it is for another state. What was saved by any scanner of the
table is a place that is accepted, and that is saved again. -/
theorem reset_atomic {spec : LexerSpec} {t : Table} (ht : spec.compile = .ok t) {s : Scanner}
    (hs : Reachable t s) (buffer : List Char) :
    (Change.reset buffer none).outcome s = (.ok (), t.scanner buffer) ∧
    (∀ p : SavedPlace,
      (((Change.reset buffer (some p)).outcome s).1 = .ok () ↔
        ∀ name ∈ p.names, name ∈ t.stateNames) ∧
      (∀ name, t.unknown? p.names = some name →
        (Change.reset buffer (some p)).outcome s = (.error (.unknownState name), s)) ∧
      (∀ fresh, (Change.reset buffer (some p)).outcome s = (.ok (), fresh) →
        (∃ state stack, fresh = begun t buffer ⟨p.line, p.col⟩ state stack) ∧ fresh.save = p ∧
        ∀ other, Reachable t other → (Change.reset buffer (some p)).outcome other = (.ok (), fresh))) ∧
    (∀ name, name ∉ t.stateNames →
      (Change.setState name).outcome s = (.error (.unknownState name), s) ∧
      (Change.pushState name).outcome s = (.error (.unknownState name), s)) ∧
    ∀ other, Reachable t other → ∃ fresh, fresh.save = other.save ∧
      (Change.reset buffer (some other.save)).outcome s = (.ok (), fresh) := by
  obtain ⟨_, htable⟩ := hs.sound ht
  refine ⟨?_, fun p => ?_, fun name hname => ?_, fun other hother => ?_⟩
  · rw [Change.outcome_reset, reset, htable]
    rfl
  · rw [← Table.unknown?_eq_none_iff]
    cases hunknown : t.unknown? p.names with
    | some name =>
      rw [← htable] at hunknown
      have hreset := outcome_reset_of_unknown hunknown buffer
      rw [hreset]
      refine ⟨iff_of_false nofun nofun, ?_, fun fresh hfresh => nomatch hfresh⟩
      rintro _ ⟨⟩
      rfl
    | none =>
      rw [← htable] at hunknown
      obtain ⟨state, stack, hsave, hreset⟩ := outcome_reset_of_known hunknown buffer
      rw [hreset s rfl]
      refine ⟨iff_of_true rfl rfl, nofun, ?_⟩
      rintro fresh ⟨⟩
      refine ⟨⟨state, stack, by rw [htable]⟩, hsave, fun other hother => ?_⟩
      exact hreset other ((hother.sound ht).2.trans htable.symm)
  · rw [← htable] at hname
    rw [Change.setState, Change.pushState, Change.outcome_transit, Change.outcome_transit,
      resolve_eq_error hname]
    exact ⟨rfl, rfl⟩
  · -- The names of the states that a scanner is and was in are names of states.
    obtain ⟨hsound, hother_table⟩ := hother.sound ht
    have hmem {id : StateId} (hid : id < other.table.states.length) :
        (other.table.state id).name ∈ t.stateNames := by
      rw [hother_table] at hid ⊢
      exact List.mem_map.2 ⟨_, List.mem_of_getElem? (Table.getElem?_state hid), rfl⟩
    have hknown : s.table.unknown? other.save.names = none := by
      rw [Table.unknown?_eq_none_iff, htable]
      refine List.forall_mem_cons.2 ⟨hmem hsound.inTable.state, fun name hname => ?_⟩
      obtain ⟨id, hid, rfl⟩ := List.mem_map.1 hname
      exact hmem (hsound.inTable.stack id (List.mem_reverse.1 hid))
    obtain ⟨state, stack, hsave, hreset⟩ := outcome_reset_of_known hknown buffer
    exact ⟨_, hsave, hreset s rfl⟩

/-- A place whose second remembered state is no state of `templateLexer`. -/
def strayPlace : SavedPlace := { line := 3, col := 7, state := "start", stack := ["start", "note"] }

/-- The match that waits is still waiting behind the reset that fails. -/
theorem reset_atomic_template :
    ∃ t s, templateLexer.compile = .ok t ∧ (t.scanner "ab$(c".toList).next.2 = s ∧
      s.pending = [(0, { rule := 0, span := ⟨2, 4⟩ })] ∧
      (Change.reset [] (some strayPlace)).outcome s = (.error (.unknownState "note"), s) ∧
      ∃ fresh, fresh.save = s.save ∧ (Change.reset [] (some s.save)).outcome s = (.ok (), fresh) := by
  have hfacts : (templateLexer.compile.toOption.map fun t =>
      (t.unknown? strayPlace.names, (t.scanner "ab$(c".toList).next.2.pending))
      = some (some "note", [(0, { rule := 0, span := ⟨2, 4⟩ })]) := by cbv
  obtain ⟨t, ht, hfacts⟩ := exists_ok_of_map hfacts
  rw [Prod.mk.injEq] at hfacts
  have hs : Reachable t (t.scanner "ab$(c".toList).next.2 := (Reachable.new _).call .next
  obtain ⟨_, hplaces, _, hsaved⟩ := reset_atomic ht hs []
  exact ⟨t, _, ht, rfl, hfacts.2, (hplaces strayPlace).2.1 _ hfacts.1, hsaved _ hs⟩

end Scanner

end StatefulLexer
