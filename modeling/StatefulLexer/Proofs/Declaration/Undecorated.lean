/-
Declarations without decoration.

Some options of a rule are only about the tokens that are made of its matches: their type,
their value, keywords, categories, and whether they are left out. The others are about what
is matched, and where that leads to. Decoration can be taken off: as it was written, in
normal form, or where a state takes over the rules of others, it comes to the same. So two
declarations that differ in decoration alone have the same rules in the same states, but
for the decoration.

Main statements: `LexerSpec.cutting_undecorated`, `EntryList.rules_undecorated`.
-/
import Mathlib.Data.List.Basic
import StatefulLexer.Proofs.Table.Compile

set_option autoImplicit false

namespace StatefulLexer

/-! ## As it was written -/

/-- Options without decoration. -/
def RuleOptions.undecorated (o : RuleOptions) : RuleOptions :=
  { o with value := none, keywords := [], categories := [], ignore := false }

/-! What is matched, and where it leads to, is not decoration. -/

@[simp] theorem RuleOptions.matchers_undecorated (o : RuleOptions) :
    o.undecorated.matchers = o.matchers := rfl

@[simp] theorem RuleOptions.lineBreaks_undecorated (o : RuleOptions) :
    o.undecorated.lineBreaks = o.lineBreaks := rfl

@[simp] theorem RuleOptions.takesUnmatched_undecorated (o : RuleOptions) :
    o.undecorated.takesUnmatched = o.takesUnmatched := rfl

@[simp] theorem RuleOptions.role_undecorated (o : RuleOptions) :
    o.undecorated.role = o.role := rfl

@[simp] theorem RuleOptions.transition_undecorated (o : RuleOptions) (tokenType : String)
    (ctx : RuleContext) : o.undecorated.transition tokenType ctx = o.transition tokenType ctx := rfl

mutual

/-- A rule without decoration. -/
def RuleSpec.undecorated : RuleSpec → RuleSpec
  | .literal text => .literal text
  | .regex pattern => .regex pattern
  | .list specs => .list (RuleSpec.undecoratedList specs)
  | .options o => .options o.undecorated
  | .splice state => .splice state

/-- The rules of a list without decoration. -/
def RuleSpec.undecoratedList : List RuleSpec → List RuleSpec
  | [] => []
  | spec :: specs => spec.undecorated :: RuleSpec.undecoratedList specs

end

/-- Named rules without decoration. Their names are part of it. -/
def RuleList.undecorated (rules : RuleList) : RuleList :=
  rules.map fun (_, spec) => ("", spec.undecorated)

/-- A lexer without decoration. -/
def LexerSpec.undecorated (spec : LexerSpec) : LexerSpec where
  states := spec.states.map fun s => { s with rules := RuleList.undecorated s.rules }
  shared := RuleList.undecorated spec.shared
  start := spec.start

/-! ## In normal form -/

/-- A rule in normal form without decoration. -/
def RuleDecl.undecorated (d : RuleDecl) : RuleDecl where
  tokenType := ""
  options := d.options.undecorated

/-- An entry without decoration. A directive has none. -/
def RuleEntry.undecorated : RuleEntry → RuleEntry
  | .rule d => .rule d.undecorated
  | .splice state => .splice state

@[simp] theorem RuleEntry.undecorated_undecorated (e : RuleEntry) :
    e.undecorated.undecorated = e.undecorated := by
  cases e <;> rfl

/-- The rule of a run of matchers has no decoration but its name. -/
theorem RuleEntry.ofRun_undecorated (tokenType : String) (run : List Matcher) :
    RuleEntry.ofRun "" run = (RuleEntry.ofRun tokenType run).map RuleEntry.undecorated := by
  unfold RuleEntry.ofRun
  split <;> rfl

mutual

/-- **Normal form comes to the same** without decoration. -/
theorem RuleSpec.normalize_undecorated (tokenType : String) (spec : RuleSpec) :
    spec.undecorated.normalize "" = (spec.normalize tokenType).map RuleEntry.undecorated := by
  match spec with
  | .literal text => rfl
  | .regex pattern => rfl
  | .list specs =>
    rw [undecorated, normalize, normalize]
    exact normalizeList_undecorated tokenType [] specs
  | .options o => rfl
  | .splice state => rfl

/-- The rest of a list, behind the matchers of `run`. -/
theorem RuleSpec.normalizeList_undecorated (tokenType : String) (run : List Matcher)
    (specs : List RuleSpec) :
    RuleSpec.normalizeList "" run (RuleSpec.undecoratedList specs)
      = (RuleSpec.normalizeList tokenType run specs).map RuleEntry.undecorated := by
  match specs with
  | [] => exact RuleEntry.ofRun_undecorated tokenType run
  | .literal text :: specs => exact normalizeList_undecorated tokenType _ specs
  | .regex pattern :: specs => exact normalizeList_undecorated tokenType _ specs
  -- Everything else ends the run, and is a rule or several of its own.
  | .list inner :: specs =>
    have hspec := normalize_undecorated tokenType (.list inner)
    have hrest := normalizeList_undecorated tokenType [] specs
    rw [undecorated] at hspec
    rw [undecoratedList, undecorated, normalizeList, normalizeList, hspec, hrest,
      RuleEntry.ofRun_undecorated tokenType, List.map_append, List.map_append]
    all_goals simp
  | .options o :: specs =>
    have hrest := normalizeList_undecorated tokenType [] specs
    rw [undecoratedList, undecorated, normalizeList, normalizeList, hrest,
      RuleEntry.ofRun_undecorated tokenType, List.map_append, List.map_append]
    · rfl
    all_goals simp
  | .splice state :: specs =>
    have hrest := normalizeList_undecorated tokenType [] specs
    rw [undecoratedList, undecorated, normalizeList, normalizeList, hrest,
      RuleEntry.ofRun_undecorated tokenType, List.map_append, List.map_append]
    · rfl
    all_goals simp

end

theorem RuleList.normalize_undecorated (rules : RuleList) :
    RuleList.normalize (RuleList.undecorated rules)
      = (RuleList.normalize rules).map RuleEntry.undecorated := by
  unfold RuleList.normalize RuleList.undecorated
  rw [List.flatMap_map, List.map_flatMap]
  apply List.flatMap_congr
  rintro ⟨name, spec⟩ _
  exact RuleSpec.normalize_undecorated name spec

/-- **What is declared about cutting:** the rules of the states and the shared ones, in
normal form and without decoration, and the start state. -/
structure Cutting where
  states : List (String × List RuleEntry)
  shared : List RuleEntry
  start : Option String

/-- What a lexer declares about cutting. -/
def LexerSpec.cutting (spec : LexerSpec) : Cutting where
  states := spec.states.map fun s =>
    (s.name, (RuleList.normalize s.rules).map RuleEntry.undecorated)
  shared := (RuleList.normalize spec.shared).map RuleEntry.undecorated
  start := spec.start

/-- **Decoration as it was written** has no part in it. -/
theorem LexerSpec.cutting_undecorated (spec : LexerSpec) :
    spec.undecorated.cutting = spec.cutting := by
  have hentries (rules : RuleList) :
      (RuleList.normalize (RuleList.undecorated rules)).map RuleEntry.undecorated
        = (RuleList.normalize rules).map RuleEntry.undecorated := by
    rw [RuleList.normalize_undecorated, List.map_map]
    apply List.map_congr_left
    intro e _
    exact e.undecorated_undecorated
  simp only [cutting, undecorated, List.map_map, hentries, Function.comp_def]

/-! ## Where rules are taken over -/

namespace LocatedEntry

/-- An entry without decoration, written at the same place. -/
def undecorated : LocatedEntry → LocatedEntry
  | rule origin d => rule origin d.undecorated
  | splice state => splice state

@[simp] theorem origin?_undecorated (e : LocatedEntry) : e.undecorated.origin? = e.origin? := by
  cases e <;> rfl

theorem decl?_undecorated (e : LocatedEntry) :
    e.undecorated.decl? = e.decl?.map RuleDecl.undecorated := by
  cases e <;> rfl

theorem ofEntries_undecorated (owner : Option Nat) (entries : List RuleEntry) :
    ofEntries owner (entries.map RuleEntry.undecorated)
      = (ofEntries owner entries).map undecorated := by
  unfold ofEntries
  rw [List.zipIdx_map, List.map_map, List.map_map]
  apply List.map_congr_left
  rintro ⟨e, number⟩ _
  cases e <;> rfl

/-- Rules are told apart by where they were written. -/
theorem isAmong_undecorated (e : LocatedEntry) (entries : List LocatedEntry) :
    e.undecorated.isAmong (entries.map undecorated) = e.isAmong entries := by
  simp only [isAmong, origin?_undecorated, List.any_map, Function.comp_def]

theorem newIn_undecorated (present entries : List LocatedEntry) :
    newIn (present.map undecorated) (entries.map undecorated)
      = (newIn present entries).map undecorated := by
  induction entries generalizing present with
  | nil => rfl
  | cons e entries ih =>
    have hpresent := ih (present ++ [e])
    rw [List.map_append] at hpresent
    rw [List.map_cons, newIn, newIn, isAmong_undecorated, ih]
    split
    · rfl
    · rw [List.map_cons, ← hpresent]
      rfl

end LocatedEntry

namespace EntryList

/-- A state with its entries without decoration. -/
def undecorated (s : EntryList) : EntryList where
  name := s.name
  entries := s.entries.map LocatedEntry.undecorated

@[simp] theorem name_undecorated (s : EntryList) : s.undecorated.name = s.name := rfl

/-- **Taking over comes to the same** without decoration. -/
theorem expand_undecorated (lists : List EntryList) (name : String) (taken : List String)
    (done todo : List LocatedEntry) :
    expand (lists.map undecorated) name taken (done.map LocatedEntry.undecorated)
        (todo.map LocatedEntry.undecorated)
      = (expand lists name taken done todo).map (List.map LocatedEntry.undecorated) := by
  have hfind (target : String) : (lists.map undecorated).find? (·.name == target)
      = (lists.find? (·.name == target)).map undecorated := by
    rw [List.find?_map]
    rfl
  fun_induction expand lists name taken done todo with
  | case1 taken done =>
    rw [List.map_nil, expand, ← List.map_reverse]
    rfl
  | case2 taken done origin d todo ih =>
    rw [List.map_cons, LocatedEntry.undecorated, expand]
    exact ih
  | case3 taken done todo ih =>
    rw [List.map_cons, LocatedEntry.undecorated, expand, if_pos rfl]
    exact ih
  | case4 taken done target todo hname htaken ih =>
    rw [List.map_cons, LocatedEntry.undecorated, expand, if_neg hname, dif_pos htaken]
    exact ih
  | case5 taken done target todo hname htaken hnone =>
    have hnone := (hfind target).trans (congrArg (Option.map undecorated) hnone)
    rw [List.map_cons, LocatedEntry.undecorated, expand, if_neg hname, dif_neg htaken]
    split
    · rfl
    · rename_i hsome
      rw [hnone] at hsome
      cases hsome
  | case6 taken done target todo hname htaken q hsome _ ih =>
    have hsome := (hfind target).trans (congrArg (Option.map undecorated) hsome)
    rw [List.unattach_reverse, List.unattach_attach, List.map_append,
      ← LocatedEntry.newIn_undecorated, List.map_append, List.map_reverse] at ih
    rw [List.map_cons, LocatedEntry.undecorated, expand, if_neg hname, dif_neg htaken]
    split
    · rename_i hnone
      rw [hsome] at hnone
      cases hnone
    · rename_i q' hq'
      have heq : q.undecorated = q' := Option.some.inj (hsome.symm.trans hq')
      subst heq
      exact ih

/-- **The rules of a state,** with those it takes over, are the same but for the
decoration. -/
theorem rules_undecorated (lists : List EntryList) (s : EntryList) :
    rules (lists.map undecorated) s.undecorated
      = (rules lists s).map (List.map RuleDecl.undecorated) := by
  have hexpand := expand_undecorated lists s.name [] [] s.entries
  rw [List.map_nil] at hexpand
  have hdecls (entries : List LocatedEntry) :
      (entries.map LocatedEntry.undecorated).filterMap LocatedEntry.decl?
        = (entries.filterMap LocatedEntry.decl?).map RuleDecl.undecorated := by
    rw [List.filterMap_map, List.map_filterMap]
    apply List.filterMap_congr
    intro e _
    exact e.decl?_undecorated
  rw [rules, rules, undecorated, hexpand]
  cases expand lists s.name [] [] s.entries with
  | error e => rfl
  | ok entries => exact congrArg Except.ok (hdecls entries)

end EntryList

/-- **Lexers that declare the same about cutting** have the same entries in the same states,
but for the decoration. -/
theorem LexerSpec.entryLists_undecorated {spec spec' : LexerSpec}
    (h : spec.cutting = spec'.cutting) :
    spec.entryLists.map EntryList.undecorated = spec'.entryLists.map EntryList.undecorated := by
  -- The entries without decoration can be told from what is declared about cutting.
  have hlists (spec : LexerSpec) : spec.entryLists.map EntryList.undecorated
      = spec.cutting.states.zipIdx.map fun ((name, entries), number) =>
        { name
          entries := LocatedEntry.ofEntries (some number) entries
            ++ LocatedEntry.ofEntries none spec.cutting.shared } := by
    unfold entryLists cutting
    dsimp only
    rw [List.zipIdx_map, List.map_map, List.map_map]
    apply List.map_congr_left
    rintro ⟨s, number⟩ _
    simp only [Function.comp_apply, EntryList.undecorated, List.map_append,
      LocatedEntry.ofEntries_undecorated, Prod.map, id]
  rw [hlists, hlists, h]

end StatefulLexer
