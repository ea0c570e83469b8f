/-
Going on in another buffer.

A caller may save the place of a scanner, and have another scanner go on from there over
the rest of the buffer. The two work on different buffers at different offsets, and what
waits behind a gap is lost on the way. Still they hand out the same, as long as no rule
looks behind the place: every offset is smaller by what lies behind, and nothing else.

The proof is a simulation. `Resumes` relates two scanners that have the same text ahead;
they take the same steps, and so answer the same calls. That the saved scanner may forget
what waits, and that names lead back to the states that they were saved for, is what
lets the simulation begin.

Main statement: `save_reset_resumes`.
-/
import StatefulLexer.Proofs.Run.Waiting
import StatefulLexer.Proofs.State.Later

set_option autoImplicit false

namespace StatefulLexer

/-- What the states of a table search for has no assertions if their rules have none. -/
theorem Table.Spec.searched_lookFree {t : Table} {names : List String} (h : t.Spec names)
    (hlook : ∀ st ∈ t.states, st.LookFree) (id : StateId) :
    ∀ q ∈ (t.state id).searched, q.2.expr.hasLook = false := by
  rw [Table.state, List.getD_eq_getElem?_getD]
  rcases Option.eq_none_or_eq_some t.states[id]? with hget | ⟨st, hget⟩
  · rw [hget]
    exact List.forall_mem_nil _
  · rw [hget]
    have hst := List.mem_of_getElem? hget
    obtain ⟨decls, ctx, _, hcompile⟩ := h.states st hst
    exact (hlook st hst).searched (State.compile_spec hcompile)

namespace Scanner

/-- **The same is handed out,** `o` bytes later. The messages of errors quote the buffer, so
they are left out. -/
inductive Item.Later (o : Nat) : Item → Item → Prop
  | token (t : Token) : Later o (.token { t with offset := t.offset + o }) (.token t)
  | unmatched (offset line col : Nat) (message message' : String) :
    Later o (.error (.unmatchedInput (offset + o) line col message))
      (.error (.unmatchedInput offset line col message'))

/-! ## Scanners that have the same text ahead -/

/-- **Two scanners are alike** if they stand in front of the same text, `o` bytes later in
the first buffer, in the same states of the same table. -/
structure Alike (o : Nat) (s s' : Scanner) : Prop where
  table : s.table = s'.table
  cursor : s.cursor.Later o s'.cursor
  position : s.position = s'.position
  state : s.state = s'.state
  stack : s.stack = s'.stack

namespace Alike

variable {o : Nat} {s s' : Scanner}

theorem transit (h : s.Alike o s') (t : Transition) : (s.transit t).Alike o (s'.transit t) := by
  unfold Scanner.transit
  rw [h.stack]
  split
  · exact h
  · exact ⟨h.table, h.cursor, h.position, rfl, by rw [h.state]⟩
  · exact ⟨h.table, h.cursor, h.position, rfl, rfl⟩
  · split
    · exact h
    · exact ⟨h.table, h.cursor, h.position, rfl, rfl⟩

/-- The text up to a byte is the same for both. -/
theorem slice_from (h : s.Alike o s') (stop : Nat) :
    s.cursor.slice ⟨s.offset, stop + o⟩ = s'.cursor.slice ⟨s'.offset, stop⟩ := by
  have hspan : (⟨s.offset, stop + o⟩ : Span) = Span.later o ⟨s'.offset, stop⟩ := by
    rw [Span.later, offset, h.cursor.offset]
    rfl
  rw [hspan]
  exact h.cursor.slice (Nat.le_refl _)

theorem advance (h : s.Alike o s') (stop : Nat) (countLines : Bool) :
    (s.advance (stop + o) countLines).Alike o (s'.advance stop countLines) := by
  have htext := h.slice_from stop
  refine ⟨h.table, ?_, ?_, h.state, h.stack⟩
  · simp only [Scanner.advance, htext]
    exact h.cursor.advance _
  · simp only [Scanner.advance, htext, h.position]

/-- The rule of a match is the same for both. -/
theorem ruleOf_later (h : s.Alike o s') (state : StateId) (m : RuleMatch) :
    s.ruleOf state (m.later o) = s'.ruleOf state m := by
  rw [ruleOf, ruleOf, h.table]
  rfl

theorem consume (h : s.Alike o s') (state : StateId) (m : RuleMatch) :
    (s.consume state (m.later o)).Alike o (s'.consume state m) := by
  unfold Scanner.consume
  rw [h.ruleOf_later]
  exact (h.advance m.span.stop _).transit _

/-- **The token of a match** that does not begin in front of the place is the same for both,
but for its offset. -/
theorem tokenOf_later (h : s.Alike o s') (state : StateId) {m : RuleMatch}
    (hm : s'.offset ≤ m.span.start) (hvalue : m.ValueBehind) :
    s.tokenOf state (m.later o)
      = { s'.tokenOf state m with offset := (s'.tokenOf state m).offset + o } := by
  have htext : s.cursor.slice (m.later o).span = s'.cursor.slice m.span := h.cursor.slice hm
  have hpassed : s.cursor.slice ⟨s.offset, (m.later o).span.stop⟩
      = s'.cursor.slice ⟨s'.offset, m.span.stop⟩ := h.slice_from m.span.stop
  have hsource : (m.later o).value.map (fun span => String.ofList (s.cursor.slice span))
      = m.value.map fun span => String.ofList (s'.cursor.slice span) := by
    rw [RuleMatch.later, Option.map_map]
    refine Option.map_congr fun v hv => ?_
    exact congrArg String.ofList (h.cursor.slice (Nat.le_trans hm (hvalue v hv)))
  simp only [tokenOf, h.ruleOf_later, htext, hpassed, hsource, h.position]
  rfl

/-- The error for unmatched input is the same for both, but for its offset and its
message. -/
theorem unmatchedError_later (h : s.Alike o s') :
    Item.Later o (.error s.unmatchedError) (.error s'.unmatchedError) := by
  unfold unmatchedError
  rw [h.position, offset, h.cursor.offset]
  exact .unmatched ..

/-- The same is saved for both. -/
theorem save_eq (h : s.Alike o s') : s.save = s'.save := by
  simp only [save, stateName, stackNames, h.table, h.position, h.state, h.stack]

/-- What waits has no part in it. -/
theorem forget_iff : s.forget.Alike o s' ↔ s.Alike o s' := by
  constructor
  · exact fun h => ⟨h.table, h.cursor, h.position, h.state, h.stack⟩
  · exact fun h => ⟨h.table, h.cursor, h.position, h.state, h.stack⟩

theorem left_eq (h : s.Alike o s') : s.left = s'.left := by
  rw [left, left, h.cursor.ahead]

theorem patience_eq (h : s.Alike o s') : s.patience = s'.patience := by
  rw [patience, patience, h.stack, h.table]

end Alike

/-! ## The simulation -/

/-- **The first scanner is resumed by the second:** they are alike, and have the same
matches waiting. No rule of their table looks behind the place. -/
structure Resumes (o : Nat) (s s' : Scanner) : Prop extends s.Alike o s' where
  pending : s.pending = s'.pending.map (Prod.map id (RuleMatch.later o))
  wellPlaced : s'.WellPlaced
  values : ∀ q ∈ s'.pending, q.2.ValueBehind
  lookFree : ∀ id : StateId, ∀ q ∈ (s'.table.state id).searched, q.2.expr.hasLook = false

/-- **The same step:** both end, or both skip what lies ahead, or both consume the same match,
`o` bytes later in the first buffer. The scanners behind it resume each other. -/
inductive SameStep (o : Nat) (s s' : Scanner) : Step → Step → Prop
  | finished : SameStep o s s' .finished .finished
  | unmatched {behind behind' : Scanner} : behind.Resumes o behind' →
    SameStep o s s' (.unmatched s.unmatchedError behind) (.unmatched s'.unmatchedError behind')
  | matched {state : StateId} {m : RuleMatch} {behind behind' : Scanner} :
    s'.offset ≤ m.span.start → m.ValueBehind → behind.Resumes o behind' →
      SameStep o s s' (.matched state (m.later o) behind) (.matched state m behind')

namespace Resumes

variable {o : Nat} {s s' behind' : Scanner}

/-- To consume the same match leaves both alike, with the same matches waiting. -/
theorem consume (h : s.Resumes o s') (state : StateId) (m : RuleMatch)
    (pending : List (StateId × RuleMatch)) (hvalues : ∀ q ∈ pending, q.2.ValueBehind)
    (hplaced : ({ s' with pending }.consume state m).WellPlaced) :
    ({ s with pending := pending.map (Prod.map id (RuleMatch.later o)) }.consume state
      (m.later o)).Resumes o ({ s' with pending }.consume state m) := by
  have halike : Alike o
      { s with pending := pending.map (Prod.map id (RuleMatch.later o)) }
      { s' with pending } := ⟨h.table, h.cursor, h.position, h.state, h.stack⟩
  refine ⟨halike.consume state m, ?_, hplaced, ?_, ?_⟩
  · rw [Scanner.consume, Scanner.consume, pending_transit, pending_transit]
    rfl
  · rw [Scanner.consume, pending_transit]
    exact hvalues
  · rw [Scanner.consume, table_transit]
    exact h.lookFree

/-- Both states choose the same. -/
theorem choose (h : s.Resumes o s') :
    (s.table.state s.state).choose s.cursor
      = ((s'.table.state s'.state).choose s'.cursor).map
          (Prod.map (RuleMatch.later o) (Option.map (RuleMatch.later o))) := by
  rw [h.table, h.state]
  exact State.choose_later (h.lookFree s'.state) h.cursor

/-- **Both take the same step,** and resume each other behind it. -/
theorem step (h : s.Resumes o s') : SameStep o s s' s.step s'.step := by
  have hplaced {p : Passage} {behind' : Scanner} (hpass : s'.pass? = some (p, behind')) :
      behind'.WellPlaced := (pass?_passing h.wellPlaced hpass).wellPlaced
  have hwaits := h.pending
  have hchoose := h.choose
  cases hpending : s'.pending with
  | cons q pending =>
    obtain ⟨state, m⟩ := q
    rw [hpending, List.map_cons] at hwaits
    have hstep' := step_of_pending hpending
    have hbehind := hplaced (by rw [pass?, hstep'])
    have hmem : ∀ q ∈ (state, m) :: pending, q ∈ s'.pending := by
      rw [hpending]
      exact fun q hq => hq
    obtain ⟨text, htext⟩ := h.wellPlaced.next (state, m) (hmem _ List.mem_cons_self)
    rw [step_of_pending hwaits, hstep']
    refine .matched (Nat.le_of_eq htext.start.symm) (h.values _ (hmem _ List.mem_cons_self)) ?_
    refine h.consume state m pending (fun q hq => ?_) hbehind
    exact h.values q (hmem q (List.mem_cons_of_mem _ hq))
  | nil =>
    rw [hpending, List.map_nil] at hwaits
    by_cases hend' : s'.cursor.atEnd = true
    · have hend : s.cursor.atEnd = true := h.cursor.atEnd.trans hend'
      rw [step_of_atEnd hwaits hend, step_of_atEnd hpending hend']
      exact .finished
    · have hend' := Bool.eq_false_iff.2 hend'
      have hend : s.cursor.atEnd = false := h.cursor.atEnd.trans hend'
      rcases Option.eq_none_or_eq_some ((s'.table.state s'.state).choose s'.cursor) with
        hchoose' | ⟨⟨m, queued⟩, hchoose'⟩
      · rw [hchoose', Option.map_none] at hchoose
        have hstep' := step_of_choose_none hpending hend' hchoose'
        have hbehind := hplaced (by rw [pass?, hstep'])
        rw [step_of_choose_none hwaits hend hchoose, hstep']
        have halike := h.toAlike.advance s'.cursor.finish true
        rw [← h.cursor.finish] at halike
        exact .unmatched ⟨halike, h.pending, hbehind, h.values, h.lookFree⟩
      · rw [hchoose', Option.map_some] at hchoose
        have hstep' : s'.step = .matched s.state m
            ({ s' with pending := queued.toList.map fun q => (s.state, q) }.consume s.state m) := by
          rw [h.state]
          exact step_of_choose hpending hend' hchoose'
        have hbehind := hplaced (by rw [pass?, hstep'])
        obtain ⟨_, htext, _⟩ := State.choose_comesNext hchoose'
        obtain ⟨hvalue, hqueued⟩ := State.valueBehind_choose hchoose'
        rw [step_of_choose hwaits hend hchoose, hstep']
        refine .matched (Nat.le_of_eq htext.start.symm) hvalue ?_
        -- What both leave waiting was found by the same search.
        have hvalues : ∀ q ∈ queued.toList.map (fun q => (s.state, q)), q.2.ValueBehind := by
          intro q hq
          obtain ⟨q', hq', rfl⟩ := List.mem_map.1 hq
          exact hqueued q' (Option.mem_toList.1 hq')
        have hresumes := h.consume s.state m _ hvalues hbehind
        rw [List.map_map] at hresumes
        cases queued with
        | none => exact hresumes
        | some q => exact hresumes

/-- A match of the one is a match of the other. -/
theorem matched (h : s.Resumes o s') {state : StateId} {m : RuleMatch}
    (hstep' : s'.step = .matched state m behind') :
    ∃ behind, s.step = .matched state (m.later o) behind ∧ s'.offset ≤ m.span.start ∧
      m.ValueBehind ∧ behind.Resumes o behind' := by
  have hsame := h.step
  rw [hstep'] at hsame
  generalize s.step = step at hsame ⊢
  cases hsame with
  | matched hm hvalue hbehind => exact ⟨_, rfl, hm, hvalue, hbehind⟩

/-- Behind a step both have the same patience left. -/
theorem patienceBehind_eq (h : s.Resumes o s') {behind : Scanner}
    (hbehind : behind.Resumes o behind') (patience : Nat) :
    patienceBehind patience s behind = patienceBehind patience s' behind' := by
  rw [patienceBehind, patienceBehind, h.left_eq, hbehind.left_eq, hbehind.patience_eq]

/-- **A call gives the same item,** and leaves the one scanner resumed by the other. -/
theorem nextWithin (h : s.Resumes o s') (patience : Nat) :
    Option.Rel (Item.Later o) (s.nextWithin patience).1 (s'.nextWithin patience).1 ∧
      (s.nextWithin patience).2.Resumes o (s'.nextWithin patience).2 := by
  -- The cases are those of the call of the second scanner. The first one takes the same.
  fun_induction Scanner.nextWithin patience s' generalizing s with
  | case1 patience s' hstep' =>
    have hsame := h.step
    rw [hstep'] at hsame
    generalize hstep : s.step = step at hsame
    cases hsame with
    | finished =>
      rw [nextWithin_of_finished hstep]
      exact ⟨.none, h⟩
  | case2 patience s' e behind' hstep' =>
    have hsame := h.step
    rw [hstep'] at hsame
    generalize hstep : s.step = step at hsame
    cases hsame with
    | unmatched hbehind =>
      rw [nextWithin_of_unmatched hstep]
      exact ⟨.some h.unmatchedError_later, hbehind⟩
  | case3 patience s' state m behind' hstep' higno rest hrest ih =>
    obtain ⟨behind, hstep, _, _, hbehind⟩ := h.matched hstep'
    rw [← h.ruleOf_later] at higno
    rw [← h.patienceBehind_eq hbehind] at hrest
    rw [nextWithin_of_ignored hstep higno hrest]
    exact ih hbehind
  | case4 patience s' state m behind' hstep' higno hrest =>
    obtain ⟨behind, hstep, _, _, hbehind⟩ := h.matched hstep'
    rw [← h.ruleOf_later] at higno
    rw [← h.patienceBehind_eq hbehind] at hrest
    rw [nextWithin_of_given_up hstep higno hrest]
    exact ⟨.none, hbehind⟩
  | case5 patience s' state m behind' hstep' higno =>
    obtain ⟨behind, hstep, hm, hvalue, hbehind⟩ := h.matched hstep'
    rw [← h.ruleOf_later] at higno
    rw [nextWithin_of_handed_out hstep (Bool.eq_false_iff.2 higno), h.tokenOf_later state hm hvalue]
    exact ⟨.some (.token _), hbehind⟩

theorem next (h : s.Resumes o s') :
    Option.Rel (Item.Later o) s.next.1 s'.next.1 ∧ s.next.2.Resumes o s'.next.2 := by
  unfold Scanner.next
  rw [h.patience_eq]
  exact h.nextWithin s'.patience

end Resumes

/-! ## Saving and going on -/

/-- The scanner behind `n` calls for an item. -/
def asked (n : Nat) (s : Scanner) : Scanner := s.run (List.replicate n .next)

theorem asked_succ (n : Nat) (s : Scanner) : s.asked (n + 1) = s.next.2.asked n := by
  rw [asked, List.replicate_succ, run]
  rfl

/-- Scanners that resume each other do so behind each call. -/
theorem Resumes.asked {o : Nat} {s s' : Scanner} (h : s.Resumes o s') (n : Nat) :
    (s.asked n).Resumes o (s'.asked n) := by
  induction n generalizing s s' with
  | zero => exact h
  | succ n ih =>
    rw [asked_succ, asked_succ]
    exact ih h.next.2

/-- Calls for items leave a scanner undisturbed. -/
theorem Undisturbed.asked {s : Scanner} (hs : s.Undisturbed) {names : List String}
    (ht : s.table.Spec names) (hlook : ∀ st ∈ s.table.states, st.LookFree) (n : Nat) :
    (s.asked n).Undisturbed ∧ (s.asked n).table = s.table := by
  induction n generalizing s with
  | zero => exact ⟨hs, rfl⟩
  | succ n ih =>
    have hnext : s.next.2.Undisturbed ∧ s.next.2.table = s.table := by
      refine s.steps_passed.keeps (P := fun mid => mid.Undisturbed ∧ mid.table = s.table) ?_ ⟨hs, rfl⟩
      intro mid p behind hmid hpass
      have hmid_spec := ht
      have hmid_look := hlook
      rw [← hmid.2] at hmid_spec hmid_look
      exact ⟨hmid.1.pass hmid_spec hmid_look hpass, (table_pass? hpass).trans hmid.2⟩
    rw [asked_succ, ← hnext.2]
    exact ih hnext.1 (by rw [hnext.2]; exact ht) (by rw [hnext.2]; exact hlook)

/-- A scanner that may forget what waits goes on as if it had. -/
theorem Undisturbed.asked_forget {s : Scanner} (hs : s.Undisturbed) (n : Nat) :
    (s.forget.asked n).next = (s.asked n).next ∧ (s.forget.asked n).forget = (s.asked n).forget := by
  cases n with
  | zero => exact ⟨hs.next_forget, rfl⟩
  | succ n =>
    rw [asked_succ, asked_succ, hs.next_forget]
    exact ⟨rfl, rfl⟩

/-- **Names lead back to the states they were saved for.** -/
theorem reset_save {s other : Scanner} (hs : s.InTable) {names : List String}
    (ht : s.table.Spec names) (hother : other.table = s.table) (rest : List Char) :
    other.reset rest (some s.save)
      = .ok { s with cursor := Cursor.start rest, pending := [] } := by
  have hresolve : ∀ id < s.table.states.length, other.resolve (s.table.state id).name = .ok id := by
    intro id hid
    rw [resolve, hother, ht.stateId?_name hid]
  have hstack : s.save.stack.mapM other.resolve = .ok s.stack.reverse :=
    mapM_map_eq_ok fun id hid => hresolve id (hs.stack id (List.mem_reverse.1 hid))
  rw [reset]
  refine bind_eq_ok.2 ⟨s.state, hresolve s.state hs.state, bind_eq_ok.2 ⟨_, hstack, ?_⟩⟩
  rw [hother, List.reverse_reverse]
  rfl

/-- **Saved scanning resumes exactly.** A scanner that was asked for items since the start
of a buffer may be saved at any time, also between a gap and the match behind it. Another
scanner of the table can go on from there over the rest of the buffer, and gives the same
items in the same states, however often it is asked: only the offsets are smaller, by what
lies behind the place where it began. -/
theorem save_reset_resumes {spec : LexerSpec} {t : Table} (ht : spec.compile = .ok t)
    (hlook : ∀ st ∈ t.states, st.LookFree) {buffer : List Char} {base : Position}
    {s₀ s other : Scanner} (hs₀ : Starts buffer base s₀) (htable : s₀.table = t) (n : Nat)
    (hs : s₀.asked n = s) (hother : other.table = t) :
    byteSize (cutAtByte s.offset buffer).1 = s.offset ∧
    ∃ resumed, other.reset (cutAtByte s.offset buffer).2 (some s.save) = .ok resumed ∧
      ∀ k : Nat,
        Option.Rel (Item.Later s.offset) (s.asked k).next.1 (resumed.asked k).next.1 ∧
        (s.asked k).offset = (resumed.asked k).offset + s.offset ∧
        (s.asked k).state = (resumed.asked k).state ∧
        (s.asked k).stack = (resumed.asked k).stack ∧
        (s.asked k).save = (resumed.asked k).save := by
  have hspec := LexerSpec.compile_spec ht
  rw [← htable] at hspec hlook
  have hstart : s₀.Undisturbed :=
    ⟨.of_nil hs₀.spec.2.2, hs₀.inTable hspec, .inl hs₀.spec.2.2⟩
  obtain ⟨hundisturbed, htable'⟩ := hstart.asked hspec hlook n
  rw [hs] at hundisturbed htable'
  rw [← htable'] at hspec hlook
  -- The buffer is what lies behind the place, and what lies ahead of it.
  have hcut : cutAtByte s.offset buffer = (s.cursor.behind.reverse, s.cursor.ahead) := by
    have hbuffer := (Course.of_run (WellPlaced.of_nil hs₀.spec.2.2) (List.replicate n .next)).buffer
    have hfed : (List.replicate n Call.next).flatMap Call.fed = [] := by
      rw [List.flatMap_replicate]
      exact List.flatten_replicate_nil
    rw [hfed, List.append_nil, show s₀.run _ = s from hs, Scanner.buffer, Scanner.buffer,
      hs₀.spec.1, Cursor.text_start] at hbuffer
    rw [← hbuffer, offset, s.cursor.offset_eq_reverse]
    exact cutAtByte_append_eq _ _
  have hresumes : s.forget.Resumes s.offset
      { s with cursor := Cursor.start s.cursor.ahead, pending := [] } := by
    refine ⟨⟨rfl, ⟨rfl, (Nat.zero_add _).symm⟩, rfl, rfl, rfl⟩, rfl, .of_nil rfl,
      List.forall_mem_nil _, ?_⟩
    exact hspec.searched_lookFree hlook
  rw [hcut]
  refine ⟨s.cursor.offset_eq_reverse.symm, _, reset_save hundisturbed.inTable hspec ?_ _, fun k => ?_⟩
  · rw [hother, htable', htable]
  · obtain ⟨hnext, hforget⟩ := hundisturbed.asked_forget k
    have hk := hresumes.asked k
    have hitem := hk.next.1
    rw [hnext] at hitem
    have halike := Alike.forget_iff.2 hk.toAlike
    rw [hforget, Alike.forget_iff] at halike
    exact ⟨hitem, halike.cursor.offset, halike.state, halike.stack, halike.save_eq⟩

/-- A lexer for text with words in braces. -/
def bracesLexer : LexerSpec where
  states := [
    { name := "text"
      rules := [
        ("open", .options { matchers := [.literal "\x7b"], push := some "words" }),
        ("text", .options { fallback := true })] },
    { name := "words"
      rules := [
        ("close", .options { matchers := [.literal "\x7d"], pop := some 1 }),
        ("word", .regex "[a-z]+")] }]

/-- Saved between the text and the brace that waits behind it. -/
theorem save_reset_resumes_braces :
    ∃ t s resumed, bracesLexer.compile = .ok t ∧
      (t.scanner "ab\x7bc\x7d".toList).asked 1 = s ∧ s.pending.length = 1 ∧ s.offset = 2 ∧
      (t.scanner []).reset "\x7bc\x7d".toList (some s.save) = .ok resumed ∧
      ∀ k : Nat, Option.Rel (Item.Later 2) (s.asked k).next.1 (resumed.asked k).next.1 := by
  have hfacts : (bracesLexer.compile.toOption.map fun t =>
      (t.states.all fun st => st.rules.all fun r => r.pattern.all fun p => !p.expr.hasLook,
        ((t.scanner "ab\x7bc\x7d".toList).asked 1).pending.length,
        ((t.scanner "ab\x7bc\x7d".toList).asked 1).offset))
      = some (true, 1, 2) := by cbv
  obtain ⟨t, ht, hfacts⟩ := exists_ok_of_map hfacts
  rw [Prod.mk.injEq, Prod.mk.injEq] at hfacts
  obtain ⟨hall, hpending, hoffset⟩ := hfacts
  have hlook : ∀ st ∈ t.states, st.LookFree := by
    intro st hst r hr p hp
    have hall := List.all_eq_true.1 (List.all_eq_true.1 hall st hst) r hr
    rw [hp, Option.all_some, Bool.not_eq_true'] at hall
    exact hall
  obtain ⟨_, resumed, hreset, hresumes⟩ := save_reset_resumes ht hlook
    (.new t : Starts "ab\x7bc\x7d".toList {} (t.scanner "ab\x7bc\x7d".toList)) rfl 1 rfl
    (rfl : (t.scanner []).table = t)
  rw [hoffset] at hreset hresumes
  exact ⟨t, _, resumed, ht, rfl, hpending, hoffset, hreset, fun k => (hresumes k).1⟩

end Scanner

end StatefulLexer
