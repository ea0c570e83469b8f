/-
Progress, and where it ends.

The loop of a call goes round as long as the rules of its matches are ignored, and
a caller goes on as long as there is an item. The definitions bound both by a
patience, and it has to be shown that the bound is never felt. What is needed for
that is that no match is empty. Then every round takes a character off what lies
ahead, a gap and what waits behind it included, and patience is renewed before it
can run out.

To say so without the bound, `Answers` is the loop as a relation, however often it
goes round, and `Drains` is the caller who asks until there is nothing left.

Main statement: `next_progress`.
-/
import StatefulLexer.Proofs.Run.Partition
import StatefulLexer.Proofs.Run.Reachable
import StatefulLexer.Proofs.State.Empty
import StatefulLexer.Proofs.Table.Compile

set_option autoImplicit false

namespace StatefulLexer

/-- **No rule of the table matches the empty text.** -/
def Table.NeverEmpty (t : Table) : Prop :=
  ∀ st ∈ t.states, ∀ r ∈ st.rules, ∀ p, r.pattern = some p → p.expr.NeverEmpty

/-- It can be read off the patterns if none of them has assertions. -/
theorem Table.neverEmpty_of_all {t : Table}
    (h : (t.states.all fun st => st.rules.all fun r =>
      r.pattern.all fun p => !p.expr.hasLook && !p.expr.nullable none none) = true) :
    t.NeverEmpty := by
  intro st hst r hr p hp
  have hall := List.all_eq_true.1 (List.all_eq_true.1 h st hst) r hr
  rw [hp, Option.all_some, Bool.and_eq_true, Bool.not_eq_true', Bool.not_eq_true'] at hall
  exact (Regex.Expr.neverEmpty_iff_of_hasLook hall.1).2 hall.2

/-- A text has as many characters as bytes, or fewer. -/
theorem length_le_byteSize (text : List Char) : text.length ≤ byteSize text := by
  induction text with
  | nil => exact Nat.le_refl 0
  | cons c text ih =>
    have hc := c.utf8Size_pos
    rw [List.length_cons, byteSize_cons]
    omega

namespace Scanner

/-! ## Scanners that get on -/

/-- **A scanner gets on** if nothing that its states choose is empty, and neither is the
match that waits. -/
structure GetsOn (s : Scanner) : Prop where
  wellPlaced : s.WellPlaced
  choose : ∀ (id : StateId) (c : Cursor) (m : RuleMatch) (queued : Option RuleMatch),
    c.ahead ≠ [] → (s.table.state id).choose c = some (m, queued) →
      m.span.start < m.span.stop ∧ ∀ q ∈ queued, q.span.start < q.span.stop
  waiting : ∀ q ∈ s.pending, q.2.span.start < q.2.span.stop

namespace GetsOn

variable {s behind last : Scanner} {p : Passage} {ps : List Passage}

/-- **A step passes at least one byte,** and what is behind it gets on as well. -/
theorem pass (hs : s.GetsOn) (h : s.pass? = some (p, behind)) :
    behind.GetsOn ∧ p.span.start < p.span.stop := by
  have hpassing := pass?_passing hs.wellPlaced h
  have go (hp : p.span.start < p.span.stop)
      (hpending : ∀ q ∈ behind.pending, q.2.span.start < q.2.span.stop) :
      behind.GetsOn ∧ p.span.start < p.span.stop := by
    refine ⟨⟨hpassing.wellPlaced, ?_, hpending⟩, hp⟩
    rw [hpassing.table]
    exact hs.choose
  rcases pass?_cases h with ⟨state, m, pending, hpending, rfl, rfl⟩ |
    ⟨m, queued, _, hend, hchoose, rfl, rfl⟩ | ⟨hpending, hend, _, rfl, rfl⟩
  · have hwaits : ∀ q ∈ (state, m) :: pending, q.2.span.start < q.2.span.stop := by
      rw [← hpending]
      exact hs.waiting
    refine go (hwaits (state, m) List.mem_cons_self) fun q hq => ?_
    rw [consume, pending_transit] at hq
    exact hwaits q (List.mem_cons_of_mem _ hq)
  · obtain ⟨hm, hqueued⟩ := hs.choose _ _ _ _ (List.isEmpty_eq_false_iff.1 hend) hchoose
    refine go hm fun q hq => ?_
    rw [consume, pending_transit] at hq
    obtain ⟨q', hq', rfl⟩ := List.mem_map.1 hq
    exact hqueued q' (Option.mem_toList.1 hq')
  · have hsize : byteSize s.cursor.ahead ≠ 0 := fun h =>
      List.isEmpty_eq_false_iff.1 hend ((byteSize_eq_zero_iff _).1 h)
    refine go ?_ fun q hq => ?_
    · show s.offset < s.cursor.offset + byteSize s.cursor.ahead
      exact Nat.lt_add_of_pos_right (Nat.pos_of_ne_zero hsize)
    · have hq : q ∈ s.pending := hq
      rw [hpending] at hq
      cases hq

/-- Behind a step the offset is greater, and fewer characters are left. -/
theorem pass_lt (hs : s.GetsOn) (h : s.pass? = some (p, behind)) :
    s.offset < behind.offset ∧ behind.left < s.left := by
  have hpassing := pass?_passing hs.wellPlaced h
  have hspan := (hs.pass h).2
  have hstart : p.span.start = s.offset := hpassing.next.start
  refine ⟨?_, hpassing.left_lt hspan⟩
  rw [hpassing.offset, ← hstart]
  exact hspan

/-- A step that was taken gives all patience back. -/
theorem patienceBehind_eq (hs : s.GetsOn) (h : s.pass? = some (p, behind)) (patience : Nat) :
    patienceBehind patience s behind = some behind.patience := by
  rw [patienceBehind, if_pos (hs.pass_lt h).2]

/-- **Steps take a character each.** -/
theorem steps (hs : s.GetsOn) (h : s.Steps ps last) :
    last.GetsOn ∧ last.left + ps.length ≤ s.left := by
  induction h with
  | nil s => exact ⟨hs, Nat.le_refl _⟩
  | @cons s mid last p ps hpass _ ih =>
    obtain ⟨hlast, hle⟩ := ih (hs.pass hpass).1
    have hlt := (hs.pass_lt hpass).2
    rw [List.length_cons]
    exact ⟨hlast, by omega⟩

/-- Calls that are not for an item leave what waits as it is. -/
theorem call (hs : s.GetsOn) {c : Call} (hc : c ≠ .next) : (s.call c).GetsOn := by
  obtain ⟨_, _, hpending⟩ := s.call_place hc
  refine ⟨hs.wellPlaced.call hc, ?_, ?_⟩
  · rw [s.table_call hc]
    exact hs.choose
  · rw [hpending]
    exact hs.waiting

end GetsOn

/-- **Every scanner that can be reached gets on** if no rule of its table matches the empty
text. -/
theorem Reachable.getsOn {spec : LexerSpec} {t : Table} (ht : spec.compile = .ok t)
    (hrules : t.NeverEmpty) {s : Scanner} (hs : Reachable t s) : s.GetsOn := by
  refine (hs.keeps ?_ (fun hs h => (hs.pass h).1) (fun hs hc => hs.call hc)).1
  intro buffer base s hstart htable
  obtain ⟨_, _, hpending⟩ := hstart.spec
  refine ⟨.of_nil hpending, fun id c m queued hahead hchoose => ?_, fun q hq => ?_⟩
  · rw [htable] at hchoose
    have hst := Table.state_mem_of_choose hchoose
    obtain ⟨decls, ctx, hcompile⟩ := LexerSpec.states_of_compile ht _ hst
    exact (State.compile_spec hcompile).choose_span_lt (hrules _ hst) hahead hchoose
  · rw [hpending] at hq
    cases hq

/-! ## The loop of a call -/

/-- **The loop of a call,** however often it goes round: from a scanner, with what it
passes, the item that it gives and the scanner behind it. -/
inductive Answers : Scanner → List Passage → Option Item → Scanner → Prop
  | finished {s : Scanner} : s.step = .finished → Answers s [] none s
  | unmatched {s behind : Scanner} {e : LexError} : s.step = .unmatched e behind →
    Answers s [.skipped s] (some (.error e)) behind
  | handedOut {s behind : Scanner} {state : StateId} {m : RuleMatch} :
    s.step = .matched state m behind → (s.ruleOf state m).ignore = false →
      Answers s [.consumed s state m] (some (.token (s.tokenOf state m))) behind
  | ignored {s behind last : Scanner} {state : StateId} {m : RuleMatch} {ps : List Passage}
    {item : Option Item} : s.step = .matched state m behind →
      (s.ruleOf state m).ignore = true → Answers behind ps item last →
      Answers s (.consumed s state m :: ps) item last

/-- **The loop ends,** and patience has no part in it. -/
theorem GetsOn.answers {s : Scanner} (hs : s.GetsOn) (patience : Nat) :
    s.Answers (s.passedWithin patience) (s.nextWithin patience).1 (s.nextWithin patience).2 := by
  fun_induction passedWithin patience s with
  | case1 patience s hstep =>
    rw [nextWithin_of_finished hstep]
    exact .finished hstep
  | case2 patience s e behind hstep =>
    rw [nextWithin_of_unmatched hstep]
    exact .unmatched hstep
  | case3 patience s state m behind hstep higno rest hrest ih =>
    have hpass : s.pass? = some (.consumed s state m, behind) := by rw [pass?, hstep]
    rw [nextWithin_of_ignored hstep higno hrest]
    exact .ignored hstep higno (ih (hs.pass hpass).1)
  | case4 patience s state m behind hstep higno hrest =>
    have hpass : s.pass? = some (.consumed s state m, behind) := by rw [pass?, hstep]
    rw [hs.patienceBehind_eq hpass] at hrest
    cases hrest
  | case5 patience s state m behind hstep higno =>
    have higno : (s.ruleOf state m).ignore = false := Bool.eq_false_iff.2 higno
    rw [nextWithin_of_handed_out hstep higno]
    exact .handedOut hstep higno

/-- A step that finds nothing left is at the end. -/
theorem step_eq_finished_iff (s : Scanner) : s.step = .finished ↔ s.isAtEnd = true := by
  unfold isAtEnd
  cases hpending : s.pending with
  | cons q pending =>
    rw [step_of_pending hpending]
    exact iff_of_false nofun nofun
  | nil =>
    by_cases hend : s.cursor.atEnd = true
    · rw [step_of_atEnd hpending hend, hend]
      exact iff_of_true rfl rfl
    · refine iff_of_false ?_ hend
      have hend := Bool.eq_false_iff.2 hend
      rcases Option.eq_none_or_eq_some ((s.table.state s.state).choose s.cursor) with h | ⟨_, h⟩
      · rw [step_of_choose_none hpending hend h]
        exact nofun
      · rw [step_of_choose hpending hend h]
        exact nofun

namespace Answers

variable {s last : Scanner} {ps : List Passage}

/-- Without an item the loop has come to the end. -/
theorem isAtEnd (h : s.Answers ps none last) : last.isAtEnd = true := by
  generalize hitem : (none : Option Item) = item at h
  induction h with
  | @finished s hstep => exact s.step_eq_finished_iff.1 hstep
  | unmatched _ => cases hitem
  | handedOut _ _ => cases hitem
  | ignored _ _ _ ih => exact ih hitem

/-- **The last passage gives the item,** and those in front of it are of ignored rules. -/
theorem last_passage {item : Item} (h : s.Answers ps (some item) last) :
    ∃ front mid p, ps = front ++ [p] ∧ s.Steps front mid ∧ (∀ q ∈ front, q.item? = none) ∧
      mid.pass? = some (p, last) ∧ p.item? = some item := by
  generalize hitem : some item = result at h
  induction h with
  | finished _ => cases hitem
  | @unmatched s behind e hstep =>
    refine ⟨[], s, .skipped s, rfl, .nil s, List.forall_mem_nil _, ?_, ?_⟩
    · rw [pass?, hstep]
    · rw [s.step_unmatched_error hstep]
      rfl
  | @handedOut s behind state m hstep higno =>
    refine ⟨[], s, .consumed s state m, rfl, .nil s, List.forall_mem_nil _, ?_, ?_⟩
    · rw [pass?, hstep]
    · rw [Passage.item?, higno]
      rfl
  | @ignored s behind last state m ps result hstep higno _ ih =>
    obtain ⟨front, mid, p, rfl, hsteps, hfront, hpass, hp⟩ := ih hitem
    refine ⟨.consumed s state m :: front, mid, p, rfl, .cons ?_ hsteps, ?_, hpass, hp⟩
    · rw [pass?, hstep]
    · intro q hq
      rcases List.mem_cons.1 hq with rfl | hq
      · exact if_pos higno
      · exact hfront q hq

end Answers

/-! ## The end -/

/-- At the end a call gives nothing and changes nothing. -/
theorem next_of_isAtEnd {s : Scanner} (h : s.isAtEnd = true) : s.next = (none, s) :=
  nextWithin_of_finished (s.step_eq_finished_iff.2 h)

/-- A call that feeds nothing stays at the end. -/
theorem isAtEnd_call {s : Scanner} (h : s.isAtEnd = true) {c : Call} (hfed : c.fed = []) :
    (s.call c).isAtEnd = true := by
  by_cases hc : c = .next
  · rw [hc, call, next_of_isAtEnd h]
    exact h
  · obtain ⟨hcursor, _, hpending⟩ := s.call_place hc
    have hahead : (s.call c).cursor.ahead = s.cursor.ahead := by
      rw [hcursor, hfed]
      exact List.append_nil _
    unfold isAtEnd Cursor.atEnd at h ⊢
    rw [hpending, hahead]
    exact h

/-- **The end is stable:** whatever is called, there is nothing more until there is more
text. -/
theorem items_of_isAtEnd {s : Scanner} (h : s.isAtEnd = true) {calls : List Call}
    (hfed : ∀ c ∈ calls, c.fed = []) :
    s.items calls = [] ∧ (s.run calls).next = (none, s.run calls) := by
  induction calls generalizing s with
  | nil => exact ⟨rfl, next_of_isAtEnd h⟩
  | cons c calls ih =>
    obtain ⟨hitems, hnext⟩ := ih (isAtEnd_call h (hfed c List.mem_cons_self))
      fun c' hc' => hfed c' (List.mem_cons_of_mem c hc')
    have hitem : s.itemOf? c = none := by
      cases c with
      | next =>
        rw [itemOf?, next_of_isAtEnd h]
      | _ => rfl
    rw [items, hitem, hitems, run]
    exact ⟨rfl, hnext⟩

/-- **An error stands for the rest of the buffer.** The scanner is at the end, in the
states that it was in. -/
theorem skipped_of_error {s behind : Scanner} {p : Passage} {e : LexError}
    (h : s.pass? = some (p, behind)) (he : p.item? = some (.error e)) :
    p = .skipped s ∧ e = s.unmatchedError ∧ behind = s.advance s.cursor.finish true ∧
      s.pending = [] := by
  rcases pass?_cases h with ⟨state, m, _, _, rfl, _⟩ | ⟨m, queued, _, _, _, rfl, _⟩ |
    ⟨hpending, _, _, rfl, rfl⟩
  · rw [Passage.item?] at he
    split at he <;> cases he
  · rw [Passage.item?] at he
    split at he <;> cases he
  · cases he
    exact ⟨rfl, rfl, rfl, hpending⟩

/-- Behind an error the scanner is at the end of the buffer. -/
theorem isAtEnd_of_skipped {s : Scanner} (hs : s.pending = []) :
    (s.advance s.cursor.finish true).isAtEnd = true := by
  have hpassing := s.passing_skip hs
  have htext : (Passage.skipped s).text = s.cursor.ahead := s.cursor.comesNext_ahead.slice
  have hahead := hpassing.ahead
  rw [htext, List.self_eq_append_right] at hahead
  have hpending : (s.advance s.cursor.finish true).pending = [] := hs
  rw [isAtEnd, hpending, Cursor.atEnd, hahead]
  rfl

/-- At the end, the offset is the size of the buffer. -/
theorem offset_of_isAtEnd {s : Scanner} (h : s.isAtEnd = true) : s.offset = byteSize s.buffer := by
  have hahead : s.cursor.ahead = [] := List.isEmpty_iff.1 (Bool.and_eq_true_iff.1 h).2
  rw [offset, buffer, Cursor.text, hahead, List.append_nil, s.cursor.offset_eq_reverse]

/-! ## Draining -/

/-- **A caller who asks until there is nothing left,** however often. -/
inductive Drains : Scanner → List Item → Scanner → Prop
  | finished {s last : Scanner} : s.next = (none, last) → Drains s [] last
  | more {s mid last : Scanner} {item : Item} {items : List Item} :
    s.next = (some item, mid) → Drains mid items last → Drains s (item :: items) last

/-- A call that gives an item takes a character, at the least. -/
theorem GetsOn.next_lt {s mid : Scanner} (hs : s.GetsOn) {item : Item}
    (h : s.next = (some item, mid)) : mid.GetsOn ∧ mid.left < s.left := by
  have hanswers := hs.answers s.patience
  obtain ⟨hmid, hle⟩ := hs.steps s.steps_passed
  rw [← next, h] at hanswers
  rw [h] at hmid hle
  obtain ⟨front, _, p, hpassed, _⟩ := hanswers.last_passage
  have hlength : s.passed.length = front.length + 1 := by
    rw [passed, hpassed, List.length_append, List.length_singleton]
  exact ⟨hmid, by dsimp only at hle; omega⟩

/-- **Draining ends,** and patience has no part in it. -/
theorem GetsOn.drains {s : Scanner} (hs : s.GetsOn) (patience : Nat) :
    s.Drains (s.allWithin patience).1 (s.allWithin patience).2 := by
  fun_induction allWithin patience s with
  | case1 patience s behind hnext => exact .finished hnext
  | case2 patience s item behind hnext rest hrest items last hall ih =>
    rw [hall] at ih
    exact .more hnext (ih (hs.next_lt hnext).1)
  | case3 patience s item behind hnext hrest =>
    rw [patienceBehind, if_pos (hs.next_lt hnext).2] at hrest
    cases hrest

/-- What is drained is at the end, and each item has taken a character. -/
theorem Drains.length_le {s last : Scanner} {items : List Item} (h : s.Drains items last)
    (hs : s.GetsOn) : last.isAtEnd = true ∧ last.left + items.length ≤ s.left := by
  induction h with
  | @finished s last hnext =>
    have hanswers := hs.answers s.patience
    have hle := (hs.steps s.steps_passed).2
    rw [← next, hnext] at hanswers
    rw [hnext] at hle
    exact ⟨hanswers.isAtEnd, by rw [List.length_nil]; dsimp only at hle; omega⟩
  | @more s mid last item items hnext _ ih =>
    obtain ⟨hmid, hlt⟩ := hs.next_lt hnext
    obtain ⟨hend, hle⟩ := ih hmid
    rw [List.length_cons]
    exact ⟨hend, by omega⟩

/-! ## Progress -/

/-- A token is not empty. -/
theorem GetsOn.text_ne_empty {s : Scanner} (hs : s.GetsOn) {t : Token}
    (h : s.next.1 = some (.token t)) : t.text ≠ "" := by
  have hanswers := hs.answers s.patience
  rw [← next, h] at hanswers
  obtain ⟨front, mid, p, _, hsteps, _, hpass, hitem⟩ := hanswers.last_passage
  have hmid := (hs.steps hsteps).1
  have hpassing := pass?_passing hmid.wellPlaced hpass
  have hbefore : p.before.cursor.ComesNext p.text p.span := by
    rw [hpassing.before]
    exact hpassing.next
  obtain ⟨hspan, _⟩ := token?_spec hbefore (token?_of_item? hitem)
  have hlt := (hmid.pass hpass).2
  rw [← hspan] at hlt
  intro hempty
  have hlength : t.length = 0 := by rw [Token.length, hempty]; rfl
  rw [Token.span, hlength] at hlt
  exact Nat.lt_irrefl _ hlt

/-- **Progress, and a stable end.** Where no rule matches the empty text, whatever the
scanner: each round of the loop moves on, so the loop ends, as often as it may go round;
tokens are not empty; and a caller who asks until there is nothing left gets no more items
than there are bytes, and is then at the end. An error is given at the end of the buffer,
with nothing waiting, in the states that the last match in front of it has led to. Behind
an error, and where there is no item, nothing more is given until there is more text. -/
theorem next_progress {spec : LexerSpec} {t : Table} (ht : spec.compile = .ok t)
    (hrules : t.NeverEmpty) {s : Scanner} (hs : Reachable t s) :
    (∀ ps mid p behind, s.Steps ps mid → mid.pass? = some (p, behind) →
      p.span = ⟨mid.offset, behind.offset⟩ ∧ mid.offset < behind.offset) ∧
    s.Answers s.passed s.next.1 s.next.2 ∧
    (∀ tok, s.next.1 = some (.token tok) → tok.text ≠ "") ∧
    (s.Drains s.all.1 s.all.2 ∧ s.all.1.length ≤ s.cursor.finish - s.offset ∧
      s.all.2.isAtEnd = true) ∧
    (∀ e, s.next.1 = some (.error e) →
      s.next.2.offset = byteSize s.next.2.buffer ∧ s.next.2.pending = [] ∧
      ∃ front mid, s.passed = front ++ [.skipped mid] ∧ s.Steps front mid ∧
        (∀ p ∈ front, p.item? = none) ∧ e = mid.unmatchedError ∧
        s.next.2.state = mid.state ∧ s.next.2.stack = mid.stack) ∧
    (s.next.1 = none → s.next.2.isAtEnd = true) ∧
    ((∀ tok, s.next.1 ≠ some (.token tok)) → ∀ calls : List Call, (∀ c ∈ calls, c.fed = []) →
      s.next.2.items calls = [] ∧ (s.next.2.run calls).next = (none, s.next.2.run calls)) := by
  have hgets := hs.getsOn ht hrules
  have hanswers : s.Answers s.passed s.next.1 s.next.2 := hgets.answers s.patience
  have herror : ∀ e, s.next.1 = some (.error e) → ∃ front mid, s.passed = front ++ [.skipped mid] ∧
      s.Steps front mid ∧ (∀ p ∈ front, p.item? = none) ∧ e = mid.unmatchedError ∧
      s.next.2 = mid.advance mid.cursor.finish true ∧ mid.pending = [] := by
    intro e he
    rw [he] at hanswers
    obtain ⟨front, mid, p, hpassed, hsteps, hfront, hpass, hitem⟩ := hanswers.last_passage
    obtain ⟨hp, he, hbehind, hpending⟩ := skipped_of_error hpass hitem
    rw [hp] at hpassed
    exact ⟨front, mid, hpassed, hsteps, hfront, he, hbehind, hpending⟩
  have hnone : s.next.1 = none → s.next.2.isAtEnd = true := by
    intro h
    rw [h] at hanswers
    exact hanswers.isAtEnd
  refine ⟨?_, hanswers, fun tok => hgets.text_ne_empty, ⟨hgets.drains s.patience, ?_⟩, ?_, hnone, ?_⟩
  · intro ps mid p behind hsteps hpass
    have hmid := (hgets.steps hsteps).1
    have hpassing := pass?_passing hmid.wellPlaced hpass
    have hspan : p.span = ⟨mid.offset, behind.offset⟩ := by
      rw [hpassing.offset, offset, ← hpassing.next.start]
    exact ⟨hspan, (hmid.pass_lt hpass).1⟩
  · obtain ⟨hend, hle⟩ := (hgets.drains s.patience).length_le hgets
    have hbytes := length_le_byteSize s.cursor.ahead
    have hremaining : s.cursor.finish - s.offset = byteSize s.cursor.ahead :=
      Nat.add_sub_cancel_left ..
    rw [← all] at hle hend
    unfold left at hle
    exact ⟨by omega, hend⟩
  · intro e he
    obtain ⟨front, mid, hpassed, hsteps, hfront, he, hbehind, hpending⟩ := herror e he
    refine ⟨?_, ?_, front, mid, hpassed, hsteps, hfront, he, ?_, ?_⟩
    · rw [hbehind]
      exact offset_of_isAtEnd (isAtEnd_of_skipped hpending)
    · rw [hbehind]
      exact hpending
    · rw [hbehind]
      rfl
    · rw [hbehind]
      rfl
  · intro htoken calls hfed
    refine items_of_isAtEnd ?_ hfed
    rcases hnext : s.next.1 with _ | ⟨tok | e⟩
    · exact hnone hnext
    · exact absurd hnext (htoken tok)
    · obtain ⟨_, mid, _, _, _, _, hbehind, hpending⟩ := herror e hnext
      rw [hbehind]
      exact isAtEnd_of_skipped hpending

/-- A lexer for words, with blanks between them that are ignored. -/
def blankLexer : LexerSpec :=
  .ofRules [("word", .regex "[a-z]+"),
    ("blank", .options { matchers := [.literal " "], ignore := true })]

/-- What is handed out is an error. -/
def Item.isError : Item → Bool
  | .token _ => false
  | .error _ => true

/-- A word, a blank that is passed over, and input that nothing matches. -/
theorem next_progress_blank :
    ∃ t s, blankLexer.compile = .ok t ∧ t.NeverEmpty ∧ Reachable t s ∧ s.left = 3 ∧
      s.all.1.length = 1 ∧ s.Drains s.all.1 s.all.2 ∧ s.all.2.isAtEnd = true ∧
      ∃ front mid, s.passed = front ++ [.skipped mid] ∧ s.Steps front mid ∧ front.length = 1 := by
  have hfacts : (blankLexer.compile.toOption.map fun t =>
      (t.states.all fun st => st.rules.all fun r =>
          r.pattern.all fun p => !p.expr.hasLook && !p.expr.nullable none none,
        ((t.scanner "ab ?!".toList).call .next).left,
        ((t.scanner "ab ?!".toList).call .next).all.1.length,
        ((t.scanner "ab ?!".toList).call .next).passed.length,
        ((t.scanner "ab ?!".toList).call .next).next.1.any Item.isError))
      = some (true, 3, 1, 2, true) := by cbv
  obtain ⟨t, ht, hfacts⟩ := exists_ok_of_map hfacts
  rw [Prod.mk.injEq, Prod.mk.injEq, Prod.mk.injEq, Prod.mk.injEq] at hfacts
  obtain ⟨hall, hleft, hitems, hlength, herror⟩ := hfacts
  have hrules := Table.neverEmpty_of_all hall
  have hs : Reachable t ((t.scanner "ab ?!".toList).call .next) := .call .next (.new _)
  obtain ⟨_, _, _, ⟨hdrains, _, hend⟩, hskipped, _, _⟩ := next_progress ht hrules hs
  obtain ⟨item, hnext, herror⟩ := (Option.any_eq_true _ _).1 herror
  cases item with
  | token tok => cases herror
  | error e =>
    obtain ⟨_, _, front, mid, hpassed, hsteps, _⟩ := hskipped e hnext
    refine ⟨t, _, ht, hrules, hs, hleft, hitems, hdrains, hend, front, mid, hpassed, hsteps, ?_⟩
    rw [hpassed, List.length_append, List.length_singleton] at hlength
    omega

end Scanner

end StatefulLexer
