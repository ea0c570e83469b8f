/-
Rules taken over from other states.

A directive stands for the rules of another state. Each rule declaration has an
origin, the list it was written in and its number there, so that one that is
reached twice can be told from two that look alike. Taking over works through a
list from the left; what a directive brings in is worked through next, so that
its own directives are replaced as well.
-/
import StatefulLexer.Declaration.Normal
import StatefulLexer.LexError

set_option autoImplicit false

namespace StatefulLexer

/-- Where a declaration was written: among the rules of a state, or among the
shared ones, and its number there. -/
structure Origin where
  /-- The number of the state, or nothing for shared rules. -/
  owner : Option Nat
  number : Nat
deriving DecidableEq, Repr

/-- An entry of a rule list that knows where it was written. -/
inductive LocatedEntry where
  | rule (origin : Origin) (decl : RuleDecl)
  | splice (state : String)

namespace LocatedEntry

/-- Where the rule of an entry was written. -/
def origin? : LocatedEntry → Option Origin
  | rule origin _ => some origin
  | splice _ => none

/-- The rule of an entry. -/
def decl? : LocatedEntry → Option RuleDecl
  | rule _ decl => some decl
  | splice _ => none

/-- The entries of a list, each with its origin. -/
def ofEntries (owner : Option Nat) (entries : List RuleEntry) : List LocatedEntry :=
  entries.zipIdx.map fun (entry, number) =>
    match entry with
    | .rule decl => .rule ⟨owner, number⟩ decl
    | .splice state => .splice state

/-- The rule of the entry is among the given ones. A directive is among none. -/
def isAmong (entry : LocatedEntry) (entries : List LocatedEntry) : Bool :=
  match entry.origin? with
  | some origin => entries.any fun e => e.origin? == some origin
  | none => false

/-- The entries that are not among the given ones, and each rule once. -/
def newIn (present : List LocatedEntry) : List LocatedEntry → List LocatedEntry
  | [] => []
  | entry :: entries =>
    if entry.isAmong present then newIn present entries
    else entry :: newIn (present ++ [entry]) entries

end LocatedEntry

/-- A state with its entries. -/
structure EntryList where
  name : String
  entries : List LocatedEntry

namespace EntryList

/-- The number of states that were not taken over yet. -/
def remaining (states : List EntryList) (taken : List String) : Nat :=
  states.countP fun s => !taken.contains s.name

/-- To take over one more state leaves fewer. -/
theorem remaining_lt {states : List EntryList} {taken : List String} {s : EntryList}
    (hs : s ∈ states) (ht : taken.contains s.name = false) :
    remaining states (s.name :: taken) < remaining states taken := by
  have le (rest : List EntryList) : remaining rest (s.name :: taken) ≤ remaining rest taken := by
    refine List.countP_mono_left fun q _ h => ?_
    simp only [List.contains_cons, Bool.not_or, Bool.and_eq_true] at h
    exact h.2
  induction states with
  | nil => cases hs
  | cons q states ih =>
    have hle := le states
    simp only [remaining, List.countP_cons, List.contains_cons] at ih hle ⊢
    rcases List.mem_cons.1 hs with rfl | hs
    · simp only [ht, BEq.rfl, Bool.true_or, Bool.not_true, Bool.not_false, if_true]
      simp only [Bool.false_eq_true, if_false]
      omega
    · have := ih hs
      by_cases hq : q.name = s.name
      · simp only [hq, BEq.rfl, Bool.true_or, Bool.not_true, Bool.false_eq_true, if_false]
        omega
      · have hb : (q.name == s.name) = false := by simpa using hq
        simp only [hb, Bool.false_or]
        omega

/-- **Taking over.** `done` are the entries of the state `name` that have been
worked through, last one first, and `todo` the ones that have not; `taken` are
the states that were taken over already. Each state is taken over at most once,
the state itself never, and no rule that is in the list already comes in
again. -/
def expand (states : List EntryList) (name : String) (taken : List String)
    (done : List LocatedEntry) : List LocatedEntry → Except LexError (List LocatedEntry)
  | [] => .ok done.reverse
  | .rule origin decl :: todo => expand states name taken (.rule origin decl :: done) todo
  | .splice target :: todo =>
    -- A state has its own rules anyway, and those of a state taken over before.
    if target = name then expand states name taken done todo
    else if ht : taken.contains target then expand states name taken done todo
    else
      match hs : states.find? (·.name == target) with
      | none => .error (.missingInclude target name)
      | some s =>
        have : remaining states (target :: taken) < remaining states taken := by
          have hn : s.name = target := by simpa using List.find?_some hs
          have hm : s ∈ states := List.mem_of_find?_eq_some hs
          have := @remaining_lt states taken s hm (by simpa [hn] using ht)
          rwa [hn] at this
        -- What comes in is worked through next: it may hold directives itself.
        expand states name (target :: taken) done
          (LocatedEntry.newIn (done.reverse ++ todo) s.entries ++ todo)
termination_by todo => (remaining states taken, todo.length)

/-- The rules of a state, with those it takes over. -/
def rules (states : List EntryList) (s : EntryList) : Except LexError (List RuleDecl) := do
  return (← expand states s.name [] [] s.entries).filterMap LocatedEntry.decl?

end EntryList

end StatefulLexer
