/-
Cutting without regard to decoration.

Two lexers that differ in decoration make different tokens of the same matches. They need
not answer a call alike: what one of them ignores the other may hand out, so the calls of
the one are longer than those of the other. Match by match they are in step. A scanner goes
on in the table of the other lexer as it would in its own, since all that it reads of its
table, the tokens apart, is the same there.

So operations are taken apart first. Where a call for an item is one match, ignored or not,
the scanners are compared; and every run of either is a run of single matches, of which
just those are handed out whose rule is not ignored.

Main statement: `cuts_undecorated`.
-/
import StatefulLexer.Proofs.Run.LineBreaks
import StatefulLexer.Proofs.Run.Reachable
import StatefulLexer.Proofs.Table.Undecorated

set_option autoImplicit false

namespace StatefulLexer

namespace Scanner

/-! ## One match at a time -/

/-- The scanner behind an operation, if a call for an item is a single step. At the end of
the buffer there is none to take. -/
def singleStep (s : Scanner) : Operation → Scanner
  | .call .next => (s.pass?.map Prod.snd).getD s
  | operation => s.operate operation

/-- What such an operation passes, and the scanner behind it. -/
def singlePass? (s : Scanner) : Operation → Option (Passage × Scanner)
  | .call .next => s.pass?
  | _ => none

/-- The scanner behind several such operations. -/
def singleRun (s : Scanner) (operations : List Operation) : Scanner :=
  operations.foldl singleStep s

/-- What they pass, each with the scanner behind it. -/
def singlePasses (s : Scanner) : List Operation → List (Passage × Scanner)
  | [] => []
  | operation :: operations =>
    (s.singlePass? operation).toList ++ (s.singleStep operation).singlePasses operations

theorem singleRun_append (s : Scanner) (front back : List Operation) :
    s.singleRun (front ++ back) = (s.singleRun front).singleRun back := List.foldl_append

theorem singlePasses_append (s : Scanner) (front back : List Operation) :
    s.singlePasses (front ++ back)
      = s.singlePasses front ++ (s.singleRun front).singlePasses back := by
  induction front generalizing s with
  | nil => rfl
  | cons operation front ih =>
    rw [List.cons_append, singlePasses, singlePasses, ih, List.append_assoc]
    rfl

/-- The single steps of an operation: those that it takes, if it is a call for an item. -/
def stepsOf (s : Scanner) : Operation → List Operation
  | .call .next => List.replicate s.passed.length (.call .next)
  | operation => [operation]

/-- **The single steps of several operations.** -/
def singly (s : Scanner) : List Operation → List Operation
  | [] => []
  | operation :: operations => s.stepsOf operation ++ (s.operate operation).singly operations

/-- What an operation hands out. -/
def handedOutBy (s : Scanner) : Operation → List Item
  | .call c => (s.itemOf? c).toList
  | _ => []

/-- **What operations hand out.** -/
def handedOut (s : Scanner) : List Operation → List Item
  | [] => []
  | operation :: operations =>
    s.handedOutBy operation ++ (s.operate operation).handedOut operations

/-- Steps that follow each other are as many single steps. -/
theorem Steps.singly {s last : Scanner} {ps : List Passage} (h : s.Steps ps last) :
    s.singleRun (List.replicate ps.length (.call .next)) = last ∧
      (s.singlePasses (List.replicate ps.length (.call .next))).map Prod.fst = ps := by
  induction h with
  | nil s => exact ⟨rfl, rfl⟩
  | @cons s mid last p ps hpass _ ih =>
    have hstep : s.singleStep (.call .next) = mid := by
      rw [singleStep, hpass]
      rfl
    have hpassed : s.singlePass? (.call .next) = some (p, mid) := hpass
    rw [List.length_cons, List.replicate_succ]
    constructor
    · rw [singleRun, List.foldl_cons, hstep]
      exact ih.1
    · rw [singlePasses, hstep, hpassed, List.map_append, ih.2]
      rfl

/-- An operation that is not a call for an item is its only step, and passes nothing. -/
theorem single_of_ne {operation : Operation} (h : operation ≠ .call .next) (s : Scanner) :
    s.singleStep operation = s.operate operation ∧ s.singlePass? operation = none ∧
      s.stepsOf operation = [operation] ∧ s.handedOutBy operation = [] := by
  cases operation with
  | reset buffer saved => exact ⟨rfl, rfl, rfl, rfl⟩
  | clone => exact ⟨rfl, rfl, rfl, rfl⟩
  | call c =>
    cases c with
    | next => exact absurd rfl h
    | feed text => exact ⟨rfl, rfl, rfl, rfl⟩
    | setState name => exact ⟨rfl, rfl, rfl, rfl⟩
    | pushState name => exact ⟨rfl, rfl, rfl, rfl⟩
    | popState => exact ⟨rfl, rfl, rfl, rfl⟩

/-- The single steps of an operation lead where it leads, and it hands out what they do. -/
theorem operate_singly (s : Scanner) (operation : Operation) :
    s.singleRun (s.stepsOf operation) = s.operate operation ∧
      s.handedOutBy operation
        = (s.singlePasses (s.stepsOf operation)).filterMap fun q => q.1.item? := by
  by_cases hnext : operation = .call .next
  · subst hnext
    obtain ⟨hrun, hpasses⟩ := s.steps_passed.singly
    refine ⟨hrun, ?_⟩
    have hitems : s.handedOutBy (.call .next)
        = ((s.singlePasses (s.stepsOf (.call .next))).map Prod.fst).filterMap Passage.item? := by
      rw [stepsOf, hpasses]
      exact s.toList_next
    rw [hitems, List.filterMap_map]
    rfl
  · obtain ⟨hstep, hpass, hsteps, hitems⟩ := single_of_ne hnext s
    rw [hsteps, hitems, singlePasses, hpass]
    exact ⟨hstep, rfl⟩

/-- **Operations are single steps.** Of what these pass, that is handed out which is not
ignored. -/
theorem operateAll_singly (s : Scanner) (operations : List Operation) :
    s.operateAll operations = s.singleRun (s.singly operations) ∧
      s.handedOut operations
        = (s.singlePasses (s.singly operations)).filterMap fun q => q.1.item? := by
  induction operations generalizing s with
  | nil => exact ⟨rfl, rfl⟩
  | cons operation operations ih =>
    obtain ⟨hrun, hitems⟩ := s.operate_singly operation
    obtain ⟨hruns, hallItems⟩ := ih (s.operate operation)
    constructor
    · rw [singly, singleRun_append, hrun]
      exact hruns
    · rw [handedOut, singly, singlePasses_append, hrun, List.filterMap_append, hitems, hallItems]

end Scanner

/-! ## Cuts -/

/-- The error that a passage reports. -/
def Passage.error? : Passage → Option LexError
  | consumed _ _ _ => none
  | skipped s => some s.unmatchedError

/-- **A cut:** what is passed, where that stands, the error that is reported for it, and
what is saved behind it, which are line, column and states. -/
structure Cut where
  span : Span
  line : Nat
  col : Nat
  lineBreaks : Nat
  error : Option LexError
  behind : SavedPlace
deriving DecidableEq, Repr

/-- The cut of a passage. -/
def Passage.cut (p : Passage) (behind : Scanner) : Cut where
  span := p.span
  line := p.before.position.line
  col := p.before.position.col
  lineBreaks := p.lineBreaks
  error := p.error?
  behind := behind.save

/-- **The cuts** of operations, where a call for an item is a single step. -/
def Scanner.cuts (s : Scanner) (operations : List Scanner.Operation) : List Cut :=
  (s.singlePasses operations).map fun q => q.1.cut q.2

theorem Scanner.cuts_cons (s : Scanner) (operation : Scanner.Operation)
    (operations : List Scanner.Operation) :
    s.cuts (operation :: operations)
      = ((s.singlePass? operation).toList.map fun q => q.1.cut q.2)
        ++ (s.singleStep operation).cuts operations := List.map_append

/-! ## Going on in another table -/

/-- The scanner with another table. -/
def Scanner.withTable (s : Scanner) (t : Table) : Scanner := { s with table := t }

/-- The passage of a scanner with another table. -/
def Passage.withTable (t : Table) : Passage → Passage
  | consumed s state m => consumed (s.withTable t) state m
  | skipped s => skipped (s.withTable t)

namespace Scanner

variable {s : Scanner} {t : Table}

/-- A transition does not look at the table. -/
theorem transit_withTable (s : Scanner) (t : Table) (transition : Transition) :
    (s.withTable t).transit transition = (s.transit transition).withTable t := by
  cases transition with
  | pop =>
    cases s with
    | mk table cursor position state stack pending => cases stack <;> rfl
  | _ => rfl

/-- The rule of a match differs in decoration. -/
theorem ruleOf_withTable (h : s.table.CutsAlike t) (state : StateId) (m : RuleMatch) :
    ((s.withTable t).ruleOf state m).undecorated = (s.ruleOf state m).undecorated :=
  (h.rule state m.rule).symm

/-- So it counts lines alike. -/
theorem lineBreaks_withTable (h : s.table.CutsAlike t) (state : StateId) (m : RuleMatch) :
    ((s.withTable t).ruleOf state m).lineBreaks = (s.ruleOf state m).lineBreaks := by
  rw [← Rule.lineBreaks_undecorated, ruleOf_withTable h, Rule.lineBreaks_undecorated]

theorem consume_withTable (h : s.table.CutsAlike t) (state : StateId) (m : RuleMatch) :
    (s.withTable t).consume state m = (s.consume state m).withTable t := by
  have htransition :
      ((s.withTable t).ruleOf state m).transition = (s.ruleOf state m).transition := by
    rw [← Rule.transition_undecorated, ruleOf_withTable h, Rule.transition_undecorated]
  rw [consume, consume, lineBreaks_withTable h, htransition, ← transit_withTable]
  rfl

/-- The same is saved. -/
theorem save_withTable (h : s.table.CutsAlike t) : (s.withTable t).save = s.save := by
  simp only [save, stateName, stackNames, withTable, h.name]

/-- **A step is the same in both tables.** -/
theorem pass?_withTable (h : s.table.CutsAlike t) :
    (s.withTable t).pass? = s.pass?.map fun q => (q.1.withTable t, q.2.withTable t) := by
  -- What waits and what is chosen is consumed alike, whatever waits behind it.
  have hconsume (pending : List (StateId × RuleMatch)) (state : StateId) (m : RuleMatch) :
      ({ s.withTable t with pending }).consume state m
        = ({ s with pending }.consume state m).withTable t :=
    consume_withTable (s := { s with pending }) h state m
  cases hpending : s.pending with
  | cons q pending =>
    rw [pass?, pass?, step_of_pending hpending, step_of_pending (s := s.withTable t) hpending,
      hconsume]
    rfl
  | nil =>
    by_cases hend : s.cursor.atEnd = true
    · rw [pass?, pass?, step_of_atEnd hpending hend,
        step_of_atEnd (s := s.withTable t) hpending hend]
      rfl
    · have hahead : s.cursor.ahead ≠ [] := fun hnil => hend (List.isEmpty_iff.2 hnil)
      have hend := Bool.eq_false_iff.2 hend
      have hchoose := h.choose s.state s.cursor hahead
      cases hchosen : (s.table.state s.state).choose s.cursor with
      | some choice =>
        rw [pass?, pass?, step_of_choose hpending hend hchosen,
          step_of_choose (s := s.withTable t) hpending hend (hchoose.symm.trans hchosen), hconsume]
        rfl
      | none =>
        rw [pass?, pass?, step_of_choose_none hpending hend hchosen,
          step_of_choose_none (s := s.withTable t) hpending hend (hchoose.symm.trans hchosen)]
        rfl

/-- A name is that of the same state. -/
theorem resolve_withTable (h : s.table.CutsAlike t) (name : String) :
    (s.withTable t).resolve name = s.resolve name := by
  rw [resolve, resolve, h.stateId? name]
  rfl

/-- **A reset is the same in both tables,** or fails in both. -/
theorem reset_withTable (h : s.table.CutsAlike t) (buffer : List Char)
    (saved : Option SavedPlace) :
    (s.withTable t).reset buffer saved = (s.reset buffer saved).map fun s' => s'.withTable t := by
  cases saved with
  | none =>
    refine congrArg Except.ok ?_
    simp only [withTable, Table.scanner, h.start]
  | some p =>
    have hresolve : (s.withTable t).resolve = s.resolve := funext (resolve_withTable h)
    simp only [reset, hresolve]
    cases s.resolve p.state with
    | error e => rfl
    | ok state =>
      cases hstack : p.stack.mapM s.resolve <;> rfl

/-- **An operation is the same in both tables** if a call for an item is a single step. -/
theorem singleStep_withTable (h : s.table.CutsAlike t) (operation : Operation) :
    (s.withTable t).singleStep operation = (s.singleStep operation).withTable t := by
  cases operation with
  | clone => rfl
  | reset buffer saved =>
    show (((s.withTable t).reset buffer saved).toOption.getD _)
      = ((s.reset buffer saved).toOption.getD s).withTable t
    rw [reset_withTable h]
    cases s.reset buffer saved <;> rfl
  | call c =>
    cases c with
    | next =>
      rw [singleStep, singleStep, pass?_withTable h]
      cases s.pass? <;> rfl
    | feed text => rfl
    | setState name =>
      show (((s.withTable t).setState name).toOption.getD _)
        = ((s.setState name).toOption.getD s).withTable t
      rw [setState, setState, resolve_withTable h]
      cases s.resolve name <;> rfl
    | pushState name =>
      show (((s.withTable t).pushState name).toOption.getD _)
        = ((s.pushState name).toOption.getD s).withTable t
      rw [pushState, pushState, resolve_withTable h]
      cases s.resolve name <;> rfl
    | popState => exact transit_withTable s t .pop

/-- The table of a scanner stays. -/
theorem table_singleStep (s : Scanner) (operation : Operation) :
    (s.singleStep operation).table = s.table := by
  by_cases hnext : operation = .call .next
  · subst hnext
    rw [singleStep]
    cases hpass : s.pass? with
    | none => rfl
    | some q => exact table_pass? hpass
  · rw [(single_of_ne hnext s).1]
    exact s.table_operate operation

theorem table_singleRun (s : Scanner) (operations : List Operation) :
    (s.singleRun operations).table = s.table := by
  induction operations generalizing s with
  | nil => rfl
  | cons operation operations ih =>
    rw [singleRun, List.foldl_cons]
    exact (ih _).trans (s.table_singleStep operation)

/-- **A passage is cut alike in both tables.** -/
theorem cut_withTable {p : Passage} {behind : Scanner} (hp : s.pass? = some (p, behind))
    (h : s.table.CutsAlike t) : (p.withTable t).cut (behind.withTable t) = p.cut behind := by
  have hbehind : (behind.withTable t).save = behind.save := by
    rw [← table_pass? hp] at h
    exact save_withTable h
  have hbefore := before_of_pass? hp
  unfold Passage.cut
  rw [hbehind]
  cases p with
  | skipped before => rfl
  | consumed before state m =>
    rw [← hbefore] at h
    have hlines := lineBreaks_withTable (s := before) h state m
    simp only [Passage.withTable, Passage.lineBreaks, tokenOf, hlines]
    rfl

/-- **Single steps are the same in both tables:** they cut alike, and lead to the same. -/
theorem cuts_withTable (h : s.table.CutsAlike t) (operations : List Operation) :
    (s.withTable t).singleRun operations = (s.singleRun operations).withTable t ∧
      (s.withTable t).cuts operations = s.cuts operations := by
  induction operations generalizing s with
  | nil => exact ⟨rfl, rfl⟩
  | cons operation operations ih =>
    have hstep := singleStep_withTable h operation
    have hmid : (s.singleStep operation).table.CutsAlike t := by
      rw [table_singleStep]
      exact h
    obtain ⟨hrun, hcuts⟩ := ih hmid
    constructor
    · rw [singleRun, List.foldl_cons, hstep]
      exact hrun
    · have hhead : (((s.withTable t).singlePass? operation).toList.map fun q => q.1.cut q.2)
          = (s.singlePass? operation).toList.map fun q => q.1.cut q.2 := by
        by_cases hnext : operation = .call .next
        · subst hnext
          rw [singlePass?, singlePass?, pass?_withTable h]
          cases hpass : s.pass? with
          | none => rfl
          | some q => exact congrArg (fun cut => [cut]) (cut_withTable hpass h)
        · rw [(single_of_ne hnext _).2.1, (single_of_ne hnext s).2.1]
      rw [cuts_cons, cuts_cons, hhead, hstep, hcuts]

/-- **Decoration never changes how input is cut.** Two lexers that declare the same but for
names, values, keywords, categories and what is ignored are compiled. Over the same buffer
and through the same operations, taken match by match, their scanners pass the same spans at
the same lines and columns with the same line breaks, report the same errors, and have the
same states behind each of them; in the end they differ in nothing but their tables. Each
run of a scanner is a run of single matches, and hands out just the tokens of those whose
rule is not ignored, in their order, and the errors. -/
theorem cuts_undecorated {spec spec' : LexerSpec} (h : spec.cutting = spec'.cutting)
    {t t' : Table} (ht : spec.compile = .ok t) (ht' : spec'.compile = .ok t')
    (buffer : List Char) :
    (∀ operations : List Operation,
      (t.scanner buffer).cuts operations = (t'.scanner buffer).cuts operations ∧
      ((t.scanner buffer).singleRun operations).save
        = ((t'.scanner buffer).singleRun operations).save ∧
      (t'.scanner buffer).singleRun operations
        = { (t.scanner buffer).singleRun operations with table := t' }) ∧
    ∀ (s : Scanner) (operations : List Operation),
      s.operateAll operations = s.singleRun (s.singly operations) ∧
      s.handedOut operations
        = (s.singlePasses (s.singly operations)).filterMap fun q => q.1.item? := by
  have halike : (t.scanner buffer).table.CutsAlike t' := LexerSpec.cutsAlike h ht ht'
  have hstart : t'.scanner buffer = (t.scanner buffer).withTable t' := by
    simp only [withTable, Table.scanner, ← halike.start]
  refine ⟨?_, operateAll_singly⟩
  intro operations
  obtain ⟨hrun, hcuts⟩ := cuts_withTable halike operations
  have htable : ((t.scanner buffer).singleRun operations).table.CutsAlike t' := by
    rw [table_singleRun]
    exact halike
  rw [hstart, hrun, hcuts, save_withTable htable]
  exact ⟨rfl, rfl, rfl⟩

/-- A lexer for sums in brackets. -/
def sumsLexer : LexerSpec where
  states := [
    { name := "sum"
      rules := [
        ("sign", .options { matchers := [.literal "+", .literal "-"] }),
        ("blank", .options { matchers := [.literal " "] }),
        ("name", .options { matchers := [.regex "[a-z]+"] }),
        ("open", .options { matchers := [.literal "("], push := some "inner" })] },
    { name := "inner"
      rules := [
        ("close", .options { matchers := [.literal ")"], pop := some 1 }),
        ("sum", .splice "sum")] }]

/-- The same with a keyword among the signs, with names in capitals and without blanks. -/
def decoratedSumsLexer (keyword : KeywordSpec) : LexerSpec where
  states := [
    { name := "sum"
      rules := [
        ("operator", .options
          { matchers := [.literal "+", .literal "-"]
            keywords := [keyword]
            categories := [{ name := "operators" }] }),
        ("space", .options { matchers := [.literal " "], ignore := true }),
        ("name", .options { matchers := [.regex "[a-z]+"], value := some String.toUpper }),
        ("open", .options { matchers := [.literal "("], push := some "inner" })] },
    { name := "inner"
      rules := [
        ("close", .options { matchers := [.literal ")"], pop := some 1 }),
        ("sum", .splice "sum")] }]

/-- The keyword for a plus sign. -/
def plusKeyword : KeywordSpec := { tokenType := "plus", values := ["+"] }

/-- Without decoration, signs and blanks are in the table. The keyword keeps all rules out of
it, and blanks are ignored, but the cuts are the same. -/
theorem cuts_undecorated_sums :
    ∃ t t', sumsLexer.cutting = (decoratedSumsLexer plusKeyword).cutting ∧
      sumsLexer.compile = .ok t ∧ (decoratedSumsLexer plusKeyword).compile = .ok t' ∧
      (t.state 0).fast = [('+', 0), ('-', 0), (' ', 1)] ∧ (t'.state 0).fast = [] ∧
      (t.state 0).rules.map (·.ignore) = [false, false, false, false] ∧
      (t'.state 0).rules.map (·.ignore) = [false, true, false, false] ∧
      ((t.scanner "a +(b".toList).cuts (List.replicate 6 (.call .next))).map (·.span)
        = [⟨0, 1⟩, ⟨1, 2⟩, ⟨2, 3⟩, ⟨3, 4⟩, ⟨4, 5⟩] ∧
      ((t'.scanner "a +(b".toList).singleRun (List.replicate 6 (.call .next))).save
        = ⟨1, 6, "inner", ["sum"]⟩ ∧
      ∀ operations, (t.scanner "a +(b".toList).cuts operations
        = (t'.scanner "a +(b".toList).cuts operations := by
  have hfacts : (sumsLexer.compile.toOption.map fun t =>
      ((t.state 0).fast, (t.state 0).rules.map (·.ignore),
        ((t.scanner "a +(b".toList).cuts (List.replicate 6 (.call .next))).map (·.span),
        ((t.scanner "a +(b".toList).singleRun (List.replicate 6 (.call .next))).save))
      = some ([('+', 0), ('-', 0), (' ', 1)], [false, false, false, false],
        [⟨0, 1⟩, ⟨1, 2⟩, ⟨2, 3⟩, ⟨3, 4⟩, ⟨4, 5⟩], ⟨1, 6, "inner", ["sum"]⟩) := by cbv
  -- Words are hashed, which does not compute here, so the keyword stays a variable.
  have hfacts' (keyword : KeywordSpec) :
      ((decoratedSumsLexer keyword).compile.toOption.map fun t' =>
        ((t'.state 0).fast, (t'.state 0).rules.map (·.ignore)))
      = some ([], [false, true, false, false]) := by cbv
  have hcutting : sumsLexer.cutting = (decoratedSumsLexer plusKeyword).cutting := by
    have hsame : sumsLexer.undecorated = (decoratedSumsLexer plusKeyword).undecorated := rfl
    rw [← LexerSpec.cutting_undecorated, hsame, LexerSpec.cutting_undecorated]
  obtain ⟨t, ht, hfacts⟩ := exists_ok_of_map hfacts
  obtain ⟨t', ht', hfacts'⟩ := exists_ok_of_map (hfacts' plusKeyword)
  rw [Prod.mk.injEq, Prod.mk.injEq, Prod.mk.injEq] at hfacts
  rw [Prod.mk.injEq] at hfacts'
  obtain ⟨hfast, hignore, hspans, hsave⟩ := hfacts
  obtain ⟨hfast', hignore'⟩ := hfacts'
  obtain ⟨hcuts, _⟩ := cuts_undecorated hcutting ht ht' "a +(b".toList
  have hbehind := (hcuts (List.replicate 6 (.call .next))).2.1
  exact ⟨t, t', hcutting, ht, ht', hfast, hfast', hignore, hignore', hspans,
    hbehind.symm.trans hsave, fun operations => (hcuts operations).1⟩

end Scanner

end StatefulLexer
