/-
What a run passes is the buffer.

The passages of a run are laid end to end: the first begins with the buffer, each
of the others where the one in front of it ended, and the last one ends at the
place of the scanner. This holds whatever the caller does in between, and it is
what a caller may build on who puts a text together again from its tokens.

The spans alone would not say it, since a span could be read back from another
buffer than the one it was measured on. So the course of a run keeps both: the
spans cover what was passed, and each text is still there in the last buffer.

Main statement: `passages_partition`.
-/
import StatefulLexer.Proofs.Evaluated
import StatefulLexer.Proofs.Run.Place

set_option autoImplicit false

namespace StatefulLexer

/-! ## Spans end to end -/

/-- **The spans lie end to end** from byte `start` to byte `stop`. None of them runs
backwards. -/
def Span.Cover : Nat → List Span → Nat → Prop
  | start, [], stop => start = stop
  | start, s :: rest, stop => s.start = start ∧ s.start ≤ s.stop ∧ Cover s.stop rest stop

/-- Two covers of neighbours are one cover. -/
theorem Span.Cover.append {a b c : Nat} {ss ts : List Span} (hs : Cover a ss b)
    (ht : Cover b ts c) : Cover a (ss ++ ts) c := by
  induction ss generalizing a with
  | nil =>
    have hab : a = b := hs
    rw [hab]
    exact ht
  | cons s ss ih => exact ⟨hs.1, hs.2.1, ih hs.2.2⟩

namespace Scanner

/-! ## The course of a run -/

/-- **The course of a run,** as far as the place goes: what is passed covers the way,
the texts lie behind one another, and nothing is done to the buffer but to add to
its end. -/
structure Course (s : Scanner) (ps : List Passage) (fed : List Char) (last : Scanner) : Prop where
  wellPlaced : last.WellPlaced
  table : last.table = s.table
  buffer : last.buffer = s.buffer ++ fed
  cover : Span.Cover s.offset (ps.map Passage.span) last.offset
  behind : last.cursor.behind = (ps.flatMap Passage.text).reverse ++ s.cursor.behind
  comesNext : ∀ p ∈ ps, p.before.cursor.ComesNext p.text p.span
  tables : ∀ p ∈ ps, p.before.table = s.table
  buffers : ∀ p ∈ ps, ∃ more, last.buffer = p.before.buffer ++ more

namespace Course

/-- A course and one that goes on behind it are one course. -/
theorem append {s mid last : Scanner} {ps qs : List Passage} {fed more : List Char}
    (h : s.Course ps fed mid) (k : mid.Course qs more last) :
    s.Course (ps ++ qs) (fed ++ more) last where
  wellPlaced := k.wellPlaced
  table := k.table.trans h.table
  buffer := by rw [k.buffer, h.buffer, List.append_assoc]
  cover := by
    rw [List.map_append]
    exact h.cover.append k.cover
  behind := by
    rw [k.behind, h.behind, List.flatMap_append, List.reverse_append, List.append_assoc]
  comesNext p hp := (List.mem_append.1 hp).elim (h.comesNext p) (k.comesNext p)
  tables p hp := by
    rcases List.mem_append.1 hp with hp | hp
    · exact h.tables p hp
    · exact (k.tables p hp).trans h.table
  buffers p hp := by
    rcases List.mem_append.1 hp with hp | hp
    · -- What the second part was fed comes behind what the first part was fed.
      obtain ⟨rest, hrest⟩ := h.buffers p hp
      exact ⟨rest ++ more, by rw [k.buffer, hrest, List.append_assoc]⟩
    · exact k.buffers p hp

/-- Nothing happens, and nothing is passed. -/
theorem nil {s : Scanner} (hs : s.WellPlaced) : s.Course [] [] s where
  wellPlaced := hs
  table := rfl
  buffer := (List.append_nil _).symm
  cover := rfl
  behind := rfl
  comesNext p hp := by cases hp
  tables p hp := by cases hp
  buffers p hp := by cases hp

/-- One step passes one text. -/
theorem pass {s behind : Scanner} {p : Passage} (hs : s.WellPlaced)
    (h : s.pass? = some (p, behind)) : s.Course [p] [] behind := by
  have hp := pass?_passing hs h
  have hbuffer : behind.buffer = s.buffer := by
    rw [Scanner.buffer, hp.cursor, Cursor.text_advance]
    rfl
  refine ⟨hp.wellPlaced, hp.table, ?_, ⟨hp.next.start, ?_, hp.offset.symm⟩, ?_, ?_, ?_, ?_⟩
  · rw [hbuffer, List.append_nil]
  · rw [hp.next.start, hp.next.stop]
    exact Nat.le_add_right _ _
  · rw [hp.cursor, hp.next.behind, List.flatMap_singleton]
  · rintro q hq
    rw [List.mem_singleton.1 hq, hp.before]
    exact hp.next
  · rintro q hq
    rw [List.mem_singleton.1 hq, hp.before]
  · rintro q hq
    rw [List.mem_singleton.1 hq, hp.before, hbuffer]
    exact ⟨[], (List.append_nil _).symm⟩

/-- A call that is not for an item passes nothing, and may add to the buffer. -/
theorem call {s : Scanner} (hs : s.WellPlaced) {c : Call} (hc : c ≠ .next) :
    s.Course [] c.fed (s.call c) := by
  obtain ⟨hcursor, _, _⟩ := s.call_place hc
  refine ⟨hs.call hc, s.table_call hc, ?_, ?_, ?_, ?_, ?_, ?_⟩
  · rw [Scanner.buffer, hcursor, Cursor.text_feed]
    rfl
  · show s.offset = (s.call c).offset
    rw [Scanner.offset, Scanner.offset, hcursor]
    rfl
  · rw [hcursor]
    rfl
  all_goals exact fun p hp => by cases hp

/-- **Every run from a well placed scanner has a course.** -/
theorem of_run {s : Scanner} (hs : s.WellPlaced) (calls : List Call) :
    s.Course (s.passages calls) (calls.flatMap Call.fed) (s.run calls) :=
  of_steps (R := fun s ps fed last => s.WellPlaced → s.Course ps fed last)
    (fun _ hs => .nil hs)
    (fun h k hs => (h hs).append (k (h hs).wellPlaced))
    (fun h hs => .pass hs h)
    (fun _ _ hc hs => .call hs hc)
    s calls hs

/-- The text of a passage is still in the last buffer, at its span. -/
theorem slice? {s last : Scanner} {ps : List Passage} {fed : List Char}
    (h : s.Course ps fed last) {p : Passage} (hp : p ∈ ps) :
    Span.slice? last.buffer p.span = some p.text := by
  obtain ⟨more, hmore⟩ := h.buffers p hp
  have hnext := ((h.comesNext p hp).feed more).slice?
  rw [Cursor.text_feed] at hnext
  rw [hmore]
  exact hnext

/-- At the end of the buffer its texts are the buffer. -/
theorem text_of_end {s last : Scanner} {ps : List Passage} {fed : List Char}
    (h : s.Course ps fed last) (hs : s.cursor.behind = []) (hend : last.isAtEnd = true) :
    ps.flatMap Passage.text = last.buffer := by
  have hahead : last.cursor.ahead = [] := List.isEmpty_iff.1 (Bool.and_eq_true_iff.1 hend).2
  rw [Scanner.buffer, Cursor.text, hahead, h.behind, hs, List.append_nil, List.append_nil,
    List.reverse_reverse]

end Course

/-! ## Tokens -/

/-- **A token stands where its match stood,** and has its text. -/
theorem token?_spec {p : Passage} {t : Token} (hp : p.before.cursor.ComesNext p.text p.span)
    (ht : p.token? = some t) : t.span = p.span ∧ t.text.toList = p.text := by
  cases p with
  | skipped s => cases ht
  | consumed s state m =>
    cases ht
    have htext : (s.tokenOf state m).text.toList = (Passage.consumed s state m).text :=
      String.toList_ofList
    have hstart : m.span.start = s.cursor.offset := hp.start
    have hstop : m.span.stop = s.cursor.offset + byteSize (Passage.consumed s state m).text :=
      hp.stop
    have hoffset : (s.tokenOf state m).offset = s.cursor.offset := hstart
    have hspan : (Passage.consumed s state m).span = ⟨s.cursor.offset,
        s.cursor.offset + byteSize (Passage.consumed s state m).text⟩ := by
      rw [← hstop, ← hstart]
      rfl
    refine ⟨?_, htext⟩
    rw [Token.span, Token.length, htext, hoffset, hspan]

/-- What is handed out as a token is the token of the passage. -/
theorem token?_of_item? {p : Passage} {t : Token} (h : p.item? = some (.token t)) :
    p.token? = some t := by
  cases p with
  | skipped s => cases h
  | consumed s state m =>
    rw [Passage.item?] at h
    split at h
    · cases h
    · cases h
      rfl

/-- The text of what is handed out. An error has none. -/
def Item.text : Item → List Char
  | .token t => t.text.toList
  | .error _ => []

/-- What is handed out for a passage is all of its text, unless the passage is of an
ignored rule or is an error. -/
theorem item?_text {p : Passage} (hp : p.before.cursor.ComesNext p.text p.span)
    (hignore : ∀ s state m, p = .consumed s state m → (s.ruleOf state m).ignore = false)
    (herror : ∀ e, p.item? ≠ some (.error e)) : (p.item?.map Item.text).getD [] = p.text := by
  cases p with
  | skipped s => exact absurd rfl (herror s.unmatchedError)
  | consumed s state m =>
    have hitem : (Passage.consumed s state m).item? = some (.token (s.tokenOf state m)) := by
      rw [Passage.item?, hignore s state m rfl]
      rfl
    rw [hitem]
    exact (token?_spec hp rfl).2

/-- The rule of a match is a rule of the table, or the one that stands in for a rule
that does not exist. -/
theorem ruleOf_mem (s : Scanner) (state : StateId) (m : RuleMatch) :
    (∃ st ∈ s.table.states, s.ruleOf state m ∈ st.rules) ∨ s.ruleOf state m = default := by
  rw [ruleOf, State.rule, Table.state, List.getD_eq_getElem?_getD, List.getD_eq_getElem?_getD]
  cases hstate : s.table.states[state]? with
  | none => exact .inr rfl
  | some st =>
    cases hrule : st.rules[m.rule]? with
    | none => exact .inr (by rw [Option.getD_some, hrule]; rfl)
    | some r =>
      refine .inl ⟨st, List.mem_of_getElem? hstate, ?_⟩
      rw [Option.getD_some, hrule]
      exact List.mem_of_getElem? hrule

/-! ## Nothing is lost, repeated or moved -/

/-- Where nothing is ignored and nothing is an error, the texts of what is handed out
are the texts of what is passed. -/
theorem items_text {s : Scanner} {calls : List Call} {fed : List Char} {last : Scanner}
    (h : s.Course (s.passages calls) fed last)
    (hignore : ∀ st ∈ s.table.states, ∀ r ∈ st.rules, r.ignore = false)
    (herror : ∀ e, .error e ∉ s.items calls) :
    (s.items calls).flatMap Item.text = (s.passages calls).flatMap Passage.text := by
  have htext : ∀ p ∈ s.passages calls, (p.item?.map Item.text).getD [] = p.text := by
    intro p hp
    refine item?_text (h.comesNext p hp) ?_ ?_
    · intro before state m hconsumed
      have htable := h.tables p hp
      rw [hconsumed] at htable
      rcases before.ruleOf_mem state m with ⟨st, hst, hr⟩ | hr
      · rw [show before.table = s.table from htable] at hst
        exact hignore st hst _ hr
      · rw [hr]
        rfl
    · intro e he
      refine herror e ?_
      rw [items_eq]
      exact List.mem_filterMap.2 ⟨p, hp, he⟩
  rw [items_eq]
  -- What is left is that each passage hands out its own text.
  generalize s.passages calls = ps at htext
  induction ps with
  | nil => rfl
  | cons p ps ih =>
    have hp := htext p List.mem_cons_self
    have hps := ih fun q hq => htext q (List.mem_cons_of_mem p hq)
    rw [List.flatMap_cons, ← hps, ← hp]
    cases hitem : p.item? with
    | none => rw [List.filterMap_cons_none hitem]; rfl
    | some item => rw [List.filterMap_cons_some hitem, List.flatMap_cons]; rfl

/-- **A run partitions the buffer.** Whatever is called in whatever order, the
passages lie end to end from the first byte to the place of the scanner, in the
buffer that was given and fed. What is handed out are passages in their order, and
a token is what the buffer has at its span. At the end the texts of the passages
are the buffer, and so are the texts of the tokens if no rule is ignored and there
was no error. -/
theorem passages_partition {buffer : List Char} {base : Position} {s : Scanner}
    (hs : Starts buffer base s) (calls : List Call) :
    (s.run calls).buffer = buffer ++ calls.flatMap Call.fed ∧
    Span.Cover 0 ((s.passages calls).map Passage.span) (s.run calls).offset ∧
    s.items calls = (s.passages calls).filterMap Passage.item? ∧
    (∀ p ∈ s.passages calls, Span.slice? (s.run calls).buffer p.span = some p.text ∧
      ∀ t, p.token? = some t → t.span = p.span ∧ t.text.toList = p.text) ∧
    (∀ t, .token t ∈ s.items calls →
      Span.slice? (s.run calls).buffer t.span = some t.text.toList) ∧
    ((s.run calls).isAtEnd = true →
      (s.passages calls).flatMap Passage.text = (s.run calls).buffer ∧
      ((∀ st ∈ s.table.states, ∀ r ∈ st.rules, r.ignore = false) →
        (∀ e, .error e ∉ s.items calls) →
        (s.items calls).flatMap Item.text = (s.run calls).buffer)) := by
  obtain ⟨hcursor, _, hpending⟩ := hs.spec
  have hcourse := Course.of_run (WellPlaced.of_nil hpending) calls
  refine ⟨?_, ?_, s.items_eq calls, ?_, ?_, ?_⟩
  · rw [hcourse.buffer, Scanner.buffer, hcursor, Cursor.text_start]
  · have hoffset : s.offset = 0 := by rw [offset, hcursor]; rfl
    rw [← hoffset]
    exact hcourse.cover
  · exact fun p hp => ⟨hcourse.slice? hp, fun t ht => token?_spec (hcourse.comesNext p hp) ht⟩
  · intro t ht
    rw [items_eq] at ht
    obtain ⟨p, hp, hitem⟩ := List.mem_filterMap.1 ht
    obtain ⟨hspan, htext⟩ := token?_spec (hcourse.comesNext p hp) (token?_of_item? hitem)
    rw [hspan, htext]
    exact hcourse.slice? hp
  · intro hend
    have hbehind : s.cursor.behind = [] := by rw [hcursor]; rfl
    have hall := hcourse.text_of_end hbehind hend
    refine ⟨hall, fun hignore herror => ?_⟩
    rw [items_text hcourse hignore herror, hall]

/-- A lexer for templates: an opening bracket, and the text between. -/
def templateLexer : LexerSpec :=
  .ofRules [("open", .literal "$("), ("text", .options { fallback := true })]

/-- Calls that feed the scanner while a match waits behind a gap. -/
def templateCalls : List Call := [.next, .feed "d\n".toList, .popState, .next, .next]

/-- The gap, the match behind it, and what was fed, end to end. -/
theorem passages_partition_template :
    ∃ t, templateLexer.compile = .ok t ∧
      Starts "ab$(c".toList {} (t.scanner "ab$(c".toList) ∧
      ((t.scanner "ab$(c".toList).passages templateCalls).map Passage.span
        = [⟨0, 2⟩, ⟨2, 4⟩, ⟨4, 7⟩] ∧
      Span.Cover 0 (((t.scanner "ab$(c".toList).passages templateCalls).map Passage.span)
        ((t.scanner "ab$(c".toList).run templateCalls).offset ∧
      ((t.scanner "ab$(c".toList).items templateCalls).flatMap Item.text
        = ((t.scanner "ab$(c".toList).run templateCalls).buffer := by
  have hfacts : (templateLexer.compile.toOption.map fun t =>
      (((t.scanner "ab$(c".toList).passages templateCalls).map Passage.span,
        ((t.scanner "ab$(c".toList).run templateCalls).isAtEnd,
        t.states.all fun st => st.rules.all fun r => !r.ignore,
        ((t.scanner "ab$(c".toList).items templateCalls).all fun item =>
          match item with
          | .token _ => true
          | .error _ => false))
      = some ([⟨0, 2⟩, ⟨2, 4⟩, ⟨4, 7⟩], true, true, true) := by cbv
  obtain ⟨t, ht, hfacts⟩ := exists_ok_of_map hfacts
  rw [Prod.mk.injEq, Prod.mk.injEq, Prod.mk.injEq] at hfacts
  obtain ⟨hspans, hend, hignore, herror⟩ := hfacts
  have hstart : Starts "ab$(c".toList {} (t.scanner "ab$(c".toList) := .new t
  have hpartition := passages_partition hstart templateCalls
  have htokens := (hpartition.2.2.2.2.2 hend).2 ?_ ?_
  · exact ⟨t, ht, hstart, hspans, hpartition.2.1, htokens⟩
  · intro st hst r hr
    have hall := List.all_eq_true.1 (List.all_eq_true.1 hignore st hst) r hr
    rw [Bool.not_eq_true'] at hall
    exact hall
  · intro e he
    cases List.all_eq_true.1 herror _ he

end Scanner

end StatefulLexer
