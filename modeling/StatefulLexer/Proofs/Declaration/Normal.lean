/-
What becomes of a declaration in normal form.

A rule as declared is a tree: its inner nodes are lists, and its leaves are matchers, records
of options and directives. Normal form is read off the tree from left to right. A record is a
rule, a directive stays what it is, and matchers that follow each other in one list are a rule
together. What ends such a run is anything else in the list, another list included, and the
end of the list itself; a run never goes on inside a list or behind it.

Here the tree is first divided into these pieces, by a relation that says of each list where
its runs begin and end, and knows nothing of matchers that still wait for their rule. There is
one way to divide a tree, and the pieces put together again are its leaves. The entries of the
normal form are then one for each piece.

Main statement: `RuleSpec.normalize_divided`.
-/
import Mathlib.Data.List.Forall2
import StatefulLexer.Declaration.Normal
import StatefulLexer.Proofs.Declaration.Matcher

set_option autoImplicit false

namespace StatefulLexer

/-! ## Pieces -/

/-- A piece of a rule as declared: what becomes one rule, or stays a directive. -/
inductive Piece where
  /-- Matchers that follow each other. -/
  | run (matchers : List Matcher)
  | record (options : RuleOptions)
  | splice (state : String)

namespace RuleSpec

/-- The matcher that the rule is, if it is nothing else. -/
def matcher? : RuleSpec → Option Matcher
  | .literal text => some (.literal text)
  | .regex pattern => some (.regex pattern)
  | _ => none

@[simp] theorem matcher?_ofMatcher (m : Matcher) : (ofMatcher m).matcher? = some m := by
  cases m <;> rfl

/-- No matcher comes first. -/
def EndsRun (specs : List RuleSpec) : Prop :=
  ∀ spec ∈ specs.head?, spec.matcher? = none

mutual

/-- **The pieces of a rule,** from left to right. -/
inductive Divided : RuleSpec → List Piece → Prop where
  | literal (text : String) : Divided (.literal text) [.run [.literal text]]
  | regex (pattern : String) : Divided (.regex pattern) [.run [.regex pattern]]
  | record (o : RuleOptions) : Divided (.options o) [.record o]
  | splice (state : String) : Divided (.splice state) [.splice state]
  | list {specs : List RuleSpec} {pieces : List Piece} (divided : DividedList specs pieces) :
      Divided (.list specs) pieces

/-- **The pieces of a list.** A run takes all matchers up to the first thing that is none, or
to the end of the list; behind anything else a new run may begin. -/
inductive DividedList : List RuleSpec → List Piece → Prop where
  | nil : DividedList [] []
  | run {specs rest : List RuleSpec} {ms : List Matcher} {pieces : List Piece}
      (split : specs = ms.map ofMatcher ++ rest) (nonempty : ms ≠ []) (ends : EndsRun rest)
      (divided : DividedList rest pieces) : DividedList specs (.run ms :: pieces)
  | other {spec : RuleSpec} {specs : List RuleSpec} {inner pieces : List Piece}
      (ends : spec.matcher? = none) (first : Divided spec inner)
      (divided : DividedList specs pieces) : DividedList (spec :: specs) (inner ++ pieces)

end

/-! ## One way to divide -/

/-- **A run ends in one place:** where the matchers end. -/
theorem run_unique {ms ms' : List Matcher} {rest rest' : List RuleSpec} (h : EndsRun rest)
    (h' : EndsRun rest') (hsplit : ms.map ofMatcher ++ rest = ms'.map ofMatcher ++ rest') :
    ms = ms' ∧ rest = rest' := by
  -- A rest cannot begin with a matcher of the other run.
  have hnever : ∀ (m : Matcher) (specs : List RuleSpec), ¬EndsRun (ofMatcher m :: specs) := by
    intro m specs hends
    have hnone := hends (ofMatcher m) rfl
    rw [matcher?_ofMatcher] at hnone
    cases hnone
  induction ms generalizing ms' with
  | nil =>
    cases ms' with
    | nil => exact ⟨rfl, hsplit⟩
    | cons m' ms' =>
      rw [List.map_nil, List.nil_append, List.map_cons, List.cons_append] at hsplit
      rw [hsplit] at h
      exact absurd h (hnever m' _)
  | cons m ms ih =>
    cases ms' with
    | nil =>
      rw [List.map_nil, List.nil_append, List.map_cons, List.cons_append] at hsplit
      rw [← hsplit] at h'
      exact absurd h' (hnever m _)
    | cons m' ms' =>
      simp only [List.map_cons, List.cons_append, List.cons.injEq] at hsplit
      obtain ⟨hfirst, hsplit⟩ := hsplit
      have hm : some m = some m' := by
        rw [← matcher?_ofMatcher m, hfirst, matcher?_ofMatcher]
      obtain ⟨hms, hrest⟩ := ih hsplit
      rw [Option.some.inj hm, hms]
      exact ⟨rfl, hrest⟩

/-- What begins with a matcher begins with a run. -/
theorem not_other_of_run {spec : RuleSpec} {specs rest : List RuleSpec} {ms : List Matcher}
    (hsplit : spec :: specs = ms.map ofMatcher ++ rest) (hms : ms ≠ [])
    (hnone : spec.matcher? = none) : False := by
  cases ms with
  | nil => exact hms rfl
  | cons m ms =>
    rw [List.map_cons, List.cons_append, List.cons.injEq] at hsplit
    rw [hsplit.1, matcher?_ofMatcher] at hnone
    cases hnone

mutual

/-- **A rule is divided in one way.** -/
theorem Divided.unique {spec : RuleSpec} {ps qs : List Piece} (h : Divided spec ps)
    (h' : Divided spec qs) : ps = qs := by
  match h, h' with
  | .literal text, .literal _ => rfl
  | .regex pattern, .regex _ => rfl
  | .record o, .record _ => rfl
  | .splice state, .splice _ => rfl
  | .list divided, .list divided' => exact divided.unique divided'

/-- A list is divided in one way. -/
theorem DividedList.unique {specs : List RuleSpec} {ps qs : List Piece} (h : DividedList specs ps)
    (h' : DividedList specs qs) : ps = qs := by
  match h, h' with
  | .nil, .nil => rfl
  | .nil, .run split nonempty _ _ =>
    have hempty := List.append_eq_nil_iff.1 split.symm
    exact absurd (List.map_eq_nil_iff.1 hempty.1) nonempty
  | .run split nonempty _ _, .nil =>
    have hempty := List.append_eq_nil_iff.1 split.symm
    exact absurd (List.map_eq_nil_iff.1 hempty.1) nonempty
  | .run split _ ends divided, .run split' _ ends' divided' =>
    obtain ⟨hms, hrest⟩ := run_unique ends ends' (split.symm.trans split')
    subst hms hrest
    rw [divided.unique divided']
  | .run split nonempty _ _, .other ends _ _ => exact (not_other_of_run split nonempty ends).elim
  | .other ends _ _, .run split nonempty _ _ => exact (not_other_of_run split nonempty ends).elim
  | .other _ first divided, .other _ first' divided' =>
    rw [first.unique first', divided.unique divided']

end

/-! ## Nothing is lost -/

mutual

/-- **The leaves of a rule,** from left to right: its matchers, records and directives. -/
def leaves : RuleSpec → List RuleSpec
  | .list specs => leavesList specs
  | spec => [spec]

/-- The leaves of a list of rules. -/
def leavesList : List RuleSpec → List RuleSpec
  | [] => []
  | spec :: specs => spec.leaves ++ leavesList specs

end

end RuleSpec

/-- The leaves that a piece is made of. -/
def Piece.leaves : Piece → List RuleSpec
  | .run ms => ms.map RuleSpec.ofMatcher
  | .record o => [.options o]
  | .splice state => [.splice state]

namespace RuleSpec

/-- Matchers in a list are leaves. -/
theorem leavesList_run (ms : List Matcher) (rest : List RuleSpec) :
    leavesList (ms.map ofMatcher ++ rest) = ms.map ofMatcher ++ leavesList rest := by
  induction ms with
  | nil => rfl
  | cons m ms ih =>
    have hleaf : (ofMatcher m).leaves = [ofMatcher m] := by cases m <;> rfl
    rw [List.map_cons, List.cons_append, leavesList, hleaf, ih]
    rfl

mutual

/-- **The pieces put together are the leaves:** none is missing, none is there twice, and all
are in their places. -/
theorem Divided.leaves_eq {spec : RuleSpec} {pieces : List Piece} (h : Divided spec pieces) :
    pieces.flatMap Piece.leaves = spec.leaves := by
  match h with
  | .literal text => rfl
  | .regex pattern => rfl
  | .record o => rfl
  | .splice state => rfl
  | .list divided =>
    rw [leaves]
    exact divided.leaves_eq

/-- The pieces of a list put together are its leaves. -/
theorem DividedList.leaves_eq {specs : List RuleSpec} {pieces : List Piece}
    (h : DividedList specs pieces) : pieces.flatMap Piece.leaves = leavesList specs := by
  match h with
  | .nil => rfl
  | .run split _ _ divided =>
    rw [split, leavesList_run, List.flatMap_cons, divided.leaves_eq, Piece.leaves]
  | .other _ first divided =>
    rw [leavesList, List.flatMap_append, first.leaves_eq, divided.leaves_eq]

end

end RuleSpec

/-! ## Entries -/

/-- **The rule has the name and the options,** with the matchers in the order in which they are
tried. -/
structure RuleDecl.Sorts (d : RuleDecl) (name : String) (o : RuleOptions) : Prop where
  name : d.tokenType = name
  others : { d.options with matchers := o.matchers } = o
  perm : d.options.matchers.Perm o.matchers
  sorted : d.options.matchers = Matcher.sort o.matchers

theorem RuleDecl.sorts_ofOptions (name : String) (o : RuleOptions) :
    (ofOptions name o).Sorts name o where
  name := rfl
  others := rfl
  perm := Matcher.sort_perm o.matchers
  sorted := rfl

/-- **The entry that a piece becomes.** A run is a rule without other options, a record is a rule
with its own, and a directive stays as it is. -/
inductive Piece.Becomes (name : String) : Piece → RuleEntry → Prop where
  | run {ms : List Matcher} {d : RuleDecl} (sorts : d.Sorts name { matchers := ms }) :
      Becomes name (.run ms) (.rule d)
  | record {o : RuleOptions} {d : RuleDecl} (sorts : d.Sorts name o) :
      Becomes name (.record o) (.rule d)
  | splice (state : String) : Becomes name (.splice state) (.splice state)

namespace RuleSpec

/-- What is no matcher ends the run in front of it. -/
theorem endsRun_cons {spec : RuleSpec} (h : spec.matcher? = none) (specs : List RuleSpec) :
    EndsRun (spec :: specs) := by
  intro first hfirst
  rw [List.head?_cons, Option.mem_some_iff] at hfirst
  rw [← hfirst]
  exact h

/-- What is no matcher comes behind the rule of the run in front of it. -/
theorem normalizeList_other (name : String) (run : List Matcher) {spec : RuleSpec}
    (h : spec.matcher? = none) (specs : List RuleSpec) :
    normalizeList name run (spec :: specs)
      = RuleEntry.ofRun name run ++ (spec.normalize name ++ normalizeList name [] specs) := by
  rw [← List.append_assoc]
  cases spec with
  | literal text => cases h
  | regex pattern => cases h
  | list inner => rfl
  | options o => rfl
  | splice state => rfl

/-- Waiting matchers in front of something else are a run, if there are any. -/
theorem exists_divided_run (name : String) (run : List Matcher) {rest : List RuleSpec}
    {pieces : List Piece} {entries : List RuleEntry} (hends : EndsRun rest)
    (hdivided : DividedList rest pieces)
    (hentries : List.Forall₂ (Piece.Becomes name) pieces entries) :
    ∃ ps, DividedList (run.map ofMatcher ++ rest) ps ∧
      List.Forall₂ (Piece.Becomes name) ps (RuleEntry.ofRun name run ++ entries) := by
  by_cases hrun : run = []
  · rw [hrun]
    exact ⟨pieces, hdivided, hentries⟩
  · have hflush : RuleEntry.ofRun name run = [.rule (.ofOptions name { matchers := run })] := by
      rw [RuleEntry.ofRun, if_neg (by simp [hrun])]
    refine ⟨.run run :: pieces, .run rfl hrun hends hdivided, ?_⟩
    rw [hflush]
    exact .cons (.run (RuleDecl.sorts_ofOptions name _)) hentries

/-- Waiting matchers, and then something else with pieces of its own. -/
theorem exists_divided_other (name : String) (run : List Matcher) {spec : RuleSpec}
    {specs : List RuleSpec} (hnone : spec.matcher? = none)
    (hspec : ∃ inner, Divided spec inner ∧
      List.Forall₂ (Piece.Becomes name) inner (spec.normalize name))
    (hspecs : ∃ pieces, DividedList specs pieces ∧
      List.Forall₂ (Piece.Becomes name) pieces (normalizeList name [] specs)) :
    ∃ ps, DividedList (run.map ofMatcher ++ spec :: specs) ps ∧
      List.Forall₂ (Piece.Becomes name) ps (normalizeList name run (spec :: specs)) := by
  obtain ⟨inner, hinner, hfirst⟩ := hspec
  obtain ⟨pieces, hpieces, hrest⟩ := hspecs
  rw [normalizeList_other name run hnone]
  exact exists_divided_run name run (endsRun_cons hnone specs) (.other hnone hinner hpieces)
    (List.rel_append hfirst hrest)

mutual

/-- The entries of a rule are one for each of its pieces. -/
theorem exists_divided (name : String) (spec : RuleSpec) :
    ∃ pieces, Divided spec pieces ∧
      List.Forall₂ (Piece.Becomes name) pieces (spec.normalize name) := by
  match spec with
  | .literal text =>
    exact ⟨_, .literal text, .cons (.run (RuleDecl.sorts_ofOptions name _)) .nil⟩
  | .regex pattern =>
    exact ⟨_, .regex pattern, .cons (.run (RuleDecl.sorts_ofOptions name _)) .nil⟩
  | .options o => exact ⟨_, .record o, .cons (.record (RuleDecl.sorts_ofOptions name o)) .nil⟩
  | .splice state => exact ⟨_, .splice state, .cons (.splice state) .nil⟩
  | .list specs =>
    obtain ⟨pieces, hdivided, hentries⟩ := exists_dividedList name [] specs
    rw [normalize]
    exact ⟨pieces, .list hdivided, hentries⟩

/-- The entries of the rest of a list are one for each piece, where the matchers that wait are
the beginning of the list. -/
theorem exists_dividedList (name : String) (run : List Matcher) (specs : List RuleSpec) :
    ∃ pieces, DividedList (run.map ofMatcher ++ specs) pieces ∧
      List.Forall₂ (Piece.Becomes name) pieces (normalizeList name run specs) := by
  match specs with
  | [] =>
    -- The list ends, and so does the run.
    have hnone : EndsRun [] := by
      intro spec hspec
      cases hspec
    have hend := exists_divided_run name run hnone .nil .nil
    rwa [List.append_nil (RuleEntry.ofRun name run)] at hend
  -- One more matcher waits.
  | .literal text :: specs =>
    have hmore := exists_dividedList name (run ++ [.literal text]) specs
    rwa [List.map_append, List.append_assoc] at hmore
  | .regex pattern :: specs =>
    have hmore := exists_dividedList name (run ++ [.regex pattern]) specs
    rwa [List.map_append, List.append_assoc] at hmore
  -- Nothing waits any more.
  | .list inner :: specs =>
    exact exists_divided_other name run rfl (exists_divided name (.list inner))
      (exists_dividedList name [] specs)
  | .options o :: specs =>
    exact exists_divided_other name run rfl (exists_divided name (.options o))
      (exists_dividedList name [] specs)
  | .splice state :: specs =>
    exact exists_divided_other name run rfl (exists_divided name (.splice state))
      (exists_dividedList name [] specs)

end

/-- **Normal form has one entry for each piece.** A tree is divided in one way: into its records,
its directives, its matchers outside of lists, and in each list the longest runs of matchers
that follow each other. These pieces are all leaves of the tree, each once and from left to
right. The entries of the normal form are these pieces in their order, all under the one name:
a rule without other options for a run, a rule with its own options for a record, either with
its matchers sorted, and each directive in its place. -/
theorem normalize_divided (name : String) (spec : RuleSpec) :
    ∃ pieces, (∀ ps, Divided spec ps ↔ ps = pieces) ∧
      pieces.flatMap Piece.leaves = spec.leaves ∧
      List.Forall₂ (Piece.Becomes name) pieces (spec.normalize name) := by
  obtain ⟨pieces, hdivided, hentries⟩ := exists_divided name spec
  refine ⟨pieces, ?_, hdivided.leaves_eq, hentries⟩
  intro ps
  constructor
  · intro hps
    exact hps.unique hdivided
  · rintro rfl
    exact hdivided

/-- A list inside of a list ends the run in front of it, and behind it another one begins. -/
example : ((RuleSpec.list
      [.literal "+", .literal "++", .list [.literal "-"], .regex "!+", .literal "!"]).normalize
        "op").map (fun | .rule d => d.options.matchers | .splice _ => [])
    = [[.literal "++", .literal "+"], [.literal "-"], [.literal "!", .regex "!+"]] := by cbv

end RuleSpec

end StatefulLexer
