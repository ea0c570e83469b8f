/-
Scanning with every access checked.

The scanner reads its buffer at spans and its table at numbers, and checks neither: what
does not exist is replaced by something that does. A program in bytes would stop there.
So here the scanner is written down once more, with each access one that may fail: every
slice wants two boundaries in their order, and every number something of that number. A
scanner that can be reached answers the same with the checks as without them, so no check
ever fails.

Main statement: `operateAll_wellFormed`.
-/
import StatefulLexer.Proofs.Run.Sound
import StatefulLexer.Proofs.Text.Excerpt

set_option autoImplicit false

namespace StatefulLexer

/-! ## Positions -/

/-- The position behind a text. The column is counted on the last line, which is cut out of
the text if there is a line break that counts. -/
def Position.after? (countLines : Bool) (p : Position) (text : List Char) : Option Position :=
  if 0 < lineBreaks countLines text then do
    let last ← Span.slice? text ⟨lastLineStart text, byteSize text⟩
    return ⟨p.line + lineBreaks countLines text, last.length + 1⟩
  else some ⟨p.line, p.col + text.length⟩

/-- Without line breaks that count, only the column moves on. -/
theorem Position.after_of_lineBreaks {countLines : Bool} (p : Position) {text : List Char}
    (h : lineBreaks countLines text = 0) :
    p.after countLines text = ⟨p.line, p.col + text.length⟩ := by
  induction text generalizing p with
  | nil => rfl
  | cons c text ih =>
    have hsplit : lineBreaks countLines text = 0 ∧ (countLines && c == '\n') = false := by
      cases countLines with
      | false => exact ⟨rfl, rfl⟩
      | true =>
        have hcount : (c :: text).count '\n' = 0 := h
        rw [List.count_cons] at hcount
        refine ⟨?_, ?_⟩
        · show text.count '\n' = 0
          omega
        · rw [Bool.true_and]
          by_contra hc
          rw [if_pos (Bool.not_eq_false _ ▸ hc)] at hcount
          omega
    rw [after_cons, step, hsplit.2, if_neg Bool.false_ne_true, ih _ hsplit.1, List.length_cons,
      Nat.add_assoc, Nat.add_comm 1]

/-- The last line can be cut out. -/
theorem Position.after?_eq (countLines : Bool) (p : Position) (text : List Char) :
    p.after? countLines text = some (p.after countLines text) := by
  unfold after?
  by_cases hbreaks : 0 < lineBreaks countLines text
  · have hcount : countLines = true ∧ 0 < text.count '\n' := by
      cases countLines with
      | false => exact absurd hbreaks (Nat.lt_irrefl 0)
      | true => exact ⟨rfl, hbreaks⟩
    have hlast := slice?_lastLine text []
    rw [List.append_nil] at hlast
    rw [if_pos hbreaks, hlast, hcount.1, after_eq_counted, counted,
      if_pos (List.count_pos_iff.1 hcount.2), Nat.add_comm 1]
    rfl
  · rw [if_neg hbreaks, after_of_lineBreaks p (Nat.eq_zero_of_not_pos hbreaks)]

/-! ## Searching -/

namespace State

/-- The match of the first of some patterns that matches at a place, if its rule exists. -/
def searchFor? (rules : List Rule) (c : Cursor) :
    List (RuleId × Regex.Compiled) → Option (Option RuleMatch)
  | [] => some none
  | (id, p) :: searched =>
    match p.expr.match? c.behind c.ahead with
    | none => searchFor? rules c searched
    | some found => rules[id]?.map fun r => some (r.matchOf id c found)

/-- The match at the first place where a pattern matches, this one or one of the `n` next. -/
def searchWithin? (s : State) : Nat → Cursor → Option (Option RuleMatch)
  | 0, c => searchFor? s.rules c s.searched
  | n + 1, c => do
    match ← searchFor? s.rules c s.searched with
    | some m => return some m
    | none => s.searchWithin? n c.next

/-- The choice of a state, if the rules of all matches exist. -/
def choose? (s : State) (c : Cursor) : Option (Option (RuleMatch × Option RuleMatch)) :=
  match s.fastMatch? c with
  | some m => some (some (m, none))
  | none => do
    match s.unmatched with
    | .report => return (← searchFor? s.rules c s.searched).map fun m => (m, none)
    | .takeRest r =>
      return some ((← searchFor? s.rules c s.searched).getD
        { rule := r, span := ⟨c.offset, c.finish⟩ }, none)
    | .takeGap r =>
      match ← s.searchWithin? c.ahead.length c with
      | some m =>
        if m.span.start = c.offset then return some (m, none)
        else return some ({ rule := r, span := ⟨c.offset, m.span.start⟩ }, some m)
      | none => return some ({ rule := r, span := ⟨c.offset, c.finish⟩ }, none)

variable {st : State}

theorem searchFor?_eq {searched : List (RuleId × Regex.Compiled)}
    (h : ∀ q ∈ searched, ∃ r, st.rules[q.1]? = some r) (c : Cursor) :
    searchFor? st.rules c searched = some (searched.findSome? fun (id, p) =>
      (p.expr.match? c.behind c.ahead).map fun found => (st.rule id).matchOf id c found) := by
  induction searched with
  | nil => rfl
  | cons q searched ih =>
    obtain ⟨id, p⟩ := q
    obtain ⟨r, hr⟩ := h (id, p) List.mem_cons_self
    rw [searchFor?, List.findSome?_cons]
    dsimp only at hr ⊢
    cases p.expr.match? c.behind c.ahead with
    | none => exact ih fun q hq => h q (List.mem_cons_of_mem _ hq)
    | some found =>
      dsimp only [Option.map_some]
      rw [hr, rule_of_getElem? hr]
      rfl

theorem searchWithin?_eq (h : ∀ q ∈ st.searched, ∃ r, st.rules[q.1]? = some r) (n : Nat)
    (c : Cursor) : st.searchWithin? n c = some (st.findWithin n c) := by
  induction n generalizing c with
  | zero => exact searchFor?_eq h c
  | succ n ih =>
    have hat : searchFor? st.rules c st.searched = some (st.matchAt? c) := searchFor?_eq h c
    rw [searchWithin?, findWithin, hat, Option.bind_eq_bind, Option.bind_some]
    cases st.matchAt? c with
    | some m => rfl
    | none => exact ih c.next

/-- **The rules of all matches exist.** -/
theorem choose?_eq (h : ∀ q ∈ st.searched, ∃ r, st.rules[q.1]? = some r) (c : Cursor) :
    st.choose? c = some (st.choose c) := by
  have hat : searchFor? st.rules c st.searched = some (st.matchAt? c) := searchFor?_eq h c
  unfold choose? choose
  cases st.fastMatch? c with
  | some m => rfl
  | none =>
    cases st.unmatched with
    | report => simp only [hat]; rfl
    | takeRest r => simp only [hat]; rfl
    | takeGap r =>
      simp only [searchWithin?_eq h, Option.bind_eq_bind, Option.bind_some]
      cases st.findWithin c.ahead.length c with
      | none => rfl
      | some m =>
        dsimp only
        split <;> rfl

end State

namespace Scanner

/-! ## The scanner -/

/-- The name of a state, if it exists. -/
def nameOf? (s : Scanner) (id : StateId) : Option String := s.table.states[id]?.map (·.name)

/-- The scanner in another state, if that exists and the present one does. -/
def switchTo? (s : Scanner) (target : StateId) : Option Scanner := do
  let _ ← s.nameOf? s.state
  let _ ← s.nameOf? target
  return { s with state := target }

/-- The scanner after a transition. -/
def transit? (s : Scanner) : Transition → Option Scanner
  | .stay => some s
  | .push target => { s with stack := s.state :: s.stack }.switchTo? target
  | .next target => s.switchTo? target
  | .pop =>
    match s.stack with
    | [] => do
      let _ ← s.nameOf? s.state
      return s
    | target :: stack => { s with stack }.switchTo? target

/-- The number of line breaks up to byte `stop`, and the scanner there. -/
def advance? (s : Scanner) (stop : Nat) (countLines : Bool) : Option (Nat × Scanner) := do
  let text ← Span.slice? s.buffer ⟨s.offset, stop⟩
  let position ← s.position.after? countLines text
  return (lineBreaks countLines text,
    { s with cursor := s.cursor.advance text.length, position })

/-- What the value of a token is made from: what was captured, or else the text. -/
def source? (s : Scanner) (text : List Char) (value : Option Span) : Option (List Char) :=
  match value with
  | none => some text
  | some span => Span.slice? s.buffer span

/-- The token of a match, whether its rule is ignored, and the scanner behind it. -/
def emit? (s : Scanner) (state : StateId) (m : RuleMatch) :
    Option (Token × Bool × Scanner) := do
  let st ← s.table.states[state]?
  let rule ← st.rules[m.rule]?
  let text ← Span.slice? s.buffer m.span
  let source ← s.source? text m.value
  let produced := rule.produce (String.ofList text)
  let (lineBreaks, moved) ← s.advance? m.span.stop rule.lineBreaks
  let behind ← moved.transit? rule.transition
  return (
    { tokenType := produced.tokenType
      value := (rule.value.map (· (String.ofList source))).getD (String.ofList source)
      text := String.ofList text
      offset := m.span.start
      lineBreaks
      line := s.position.line
      col := s.position.col
      categories := produced.categories }, rule.ignore, behind)

/-- A message that points at a token, or at the place of the scanner. -/
def formatError? (s : Scanner) (token : Option Token) (message : String) : Option String :=
  match token with
  | some t => Excerpt.cutOut s.buffer t.offset t.line t.col message
  | none => Excerpt.cutOut s.buffer s.offset s.position.line s.position.col message

/-- What is needed to go on in another buffer. -/
def save? (s : Scanner) : Option SavedPlace := do
  let state ← s.nameOf? s.state
  let stack ← s.stack.reverse.mapM s.nameOf?
  return { line := s.position.line, col := s.position.col, state, stack }

/-- What a step gives: the token of a match with the scanner behind it, or an error. -/
inductive Outcome where
  | finished
  | emitted (token : Token) (ignore : Bool) (behind : Scanner)
  | unmatched (error : LexError) (behind : Scanner)

/-- What a step without checks gives. -/
def Step.outcome (s : Scanner) : Step → Outcome
  | .finished => .finished
  | .matched state m behind => .emitted (s.tokenOf state m) (s.ruleOf state m).ignore behind
  | .unmatched e behind => .unmatched e behind

/-- **A step with every access checked.** -/
def step? (s : Scanner) : Option Outcome := do
  match s.pending with
  | (state, m) :: pending =>
    let (token, ignore, behind) ← { s with pending }.emit? state m
    return .emitted token ignore behind
  | [] =>
    if byteSize s.buffer ≤ s.offset then return .finished
    else
      let st ← s.table.states[s.state]?
      -- The rest of the buffer is cut off for the search.
      let _ ← Span.slice? s.buffer ⟨s.offset, byteSize s.buffer⟩
      match ← st.choose? s.cursor with
      | some (m, queued) =>
        let pending := queued.toList.map fun q => (s.state, q)
        let (token, ignore, behind) ← { s with pending }.emit? s.state m
        return .emitted token ignore behind
      | none =>
        let message ← s.formatError? none unmatchedMessage
        let (_, behind) ← s.advance? (byteSize s.buffer) true
        return .unmatched
          (.unmatchedInput s.offset s.position.line s.position.col message) behind

/-- The next token as far as the patience goes, with every access checked. -/
def nextWithin? (patience : Nat) (s : Scanner) : Option (Option Item × Scanner) :=
  match s.step? with
  | none => none
  | some .finished => some (none, s)
  | some (.unmatched e behind) => some (some (.error e), behind)
  | some (.emitted token ignore behind) =>
    if ignore then
      match _h : patienceBehind patience s behind with
      | some rest => nextWithin? rest behind
      | none => some (none, behind)
    else some (some (.token token), behind)
termination_by (s.left, patience)
decreasing_by exact patienceBehind_lt (by assumption)

/-- **The next token, with every access checked.** -/
def next? (s : Scanner) : Option (Option Item × Scanner) := s.nextWithin? s.patience

/-! ## No check fails -/

section

variable {s : Scanner} {state : StateId} {m : RuleMatch} {width : Nat}

theorem nameOf?_eq {id : StateId} (h : id < s.table.states.length) :
    s.nameOf? id = some (s.table.state id).name := by
  rw [nameOf?, Table.getElem?_state h]
  rfl

theorem switchTo?_eq (hs : s.state < s.table.states.length) {target : StateId}
    (ht : target < s.table.states.length) : s.switchTo? target = some { s with state := target } := by
  rw [switchTo?, nameOf?_eq hs, nameOf?_eq ht]
  rfl

theorem transit?_eq (hs : s.InTable) {t : Transition}
    (ht : ∀ id ∈ t.target?, id < s.table.states.length) : s.transit? t = some (s.transit t) := by
  cases t with
  | stay => rfl
  | push target =>
    exact switchTo?_eq (s := { s with stack := s.state :: s.stack }) hs.state (ht target rfl)
  | next target => exact switchTo?_eq hs.state (ht target rfl)
  | pop =>
    unfold transit? transit
    cases hstack : s.stack with
    | nil =>
      dsimp only
      rw [nameOf?_eq hs.state]
      rfl
    | cons target stack =>
      have htarget : target < s.table.states.length := by
        apply hs.stack
        rw [hstack]
        exact List.mem_cons_self
      exact switchTo?_eq (s := { s with stack }) hs.state htarget

/-- To move on by what comes next is possible. -/
theorem advance?_eq {text : List Char} {stop : Nat} (h : s.cursor.ComesNext text ⟨s.offset, stop⟩)
    (countLines : Bool) :
    s.advance? stop countLines
      = some (lineBreaks countLines (s.cursor.slice ⟨s.offset, stop⟩), s.advance stop countLines) := by
  have hslice : s.cursor.slice ⟨s.offset, stop⟩ = text := h.slice
  have hslice? : Span.slice? s.buffer ⟨s.offset, stop⟩ = some text := h.slice?
  rw [advance?, hslice?, Option.bind_eq_bind, Option.bind_some, Position.after?_eq, advance, hslice]
  rfl

/-- **A match that was measured on what comes next** can be emitted, if its rule exists and
leads to a state that exists. -/
theorem emit?_eq (hs : s.InTable) {st : State} {r : Rule} (hst : s.table.states[state]? = some st)
    (hr : st.rules[m.rule]? = some r)
    (ht : ∀ id ∈ r.transition.target?, id < s.table.states.length)
    (hm : m.Measured s.cursor width) :
    s.emit? state m
      = some (s.tokenOf state m, (s.ruleOf state m).ignore, s.consume state m) := by
  have hrule : s.ruleOf state m = r := by
    rw [ruleOf, Table.state_of_getElem? hst]
    exact State.rule_of_getElem? hr
  have hspan : (⟨s.offset, m.span.stop⟩ : Span) = m.span := by rw [offset, ← hm.start]
  have hnext : s.cursor.ComesNext (s.cursor.ahead.take width) ⟨s.offset, m.span.stop⟩ := by
    rw [hspan, hm.span]
    exact s.cursor.comesNext_take width
  have htext : Span.slice? s.buffer m.span = some (s.cursor.slice m.span) := by
    rw [Cursor.slice_eq, Span.slice_of_slice? hm.slice?_span]
    exact hm.slice?_span
  -- The value is cut out of the text it was measured on, or it is the whole text.
  have hsource : s.source? (s.cursor.slice m.span) m.value
      = some ((m.value.map fun span => s.cursor.slice span).getD (s.cursor.slice m.span)) := by
    cases hvalue : m.value with
    | none => rfl
    | some v =>
      obtain ⟨_, _, _, text, hslice⟩ := hm.slice?_value hvalue
      have hcut : s.cursor.slice v = text := by
        rw [Cursor.slice_eq, Span.slice_of_slice? hslice]
      rw [source?, Option.map_some, Option.getD_some, hcut]
      exact hslice
  have hmoved := advance?_eq hnext r.lineBreaks
  have hbehind := transit?_eq (s := s.advance m.span.stop r.lineBreaks) ⟨hs.state, hs.stack⟩ ht
  have hstring : String.ofList ((m.value.map fun span => s.cursor.slice span).getD
      (s.cursor.slice m.span))
        = (m.value.map fun span => String.ofList (s.cursor.slice span)).getD
            (String.ofList (s.cursor.slice m.span)) := by
    cases m.value <;> rfl
  unfold emit?
  simp only [hst, hr, htext, hsource, hmoved, hbehind, hstring, Option.bind_eq_bind,
    Option.bind_some]
  rw [tokenOf, consume, hrule]
  rfl

/-- **A message can be formatted,** wherever it points. -/
theorem formatError?_eq (s : Scanner) (token : Option Token) (message : String) :
    s.formatError? token message = some (s.formatError token message) := by
  cases token with
  | none => exact Excerpt.cutOut_eq ..
  | some t => exact Excerpt.cutOut_eq ..

/-- **The place can be saved.** -/
theorem save?_eq (hs : s.InTable) : s.save? = some s.save := by
  have hstack : s.stack.reverse.mapM s.nameOf? = some s.stackNames := by
    have hall : ∀ id ∈ s.stack.reverse, id < s.table.states.length :=
      fun id hid => hs.stack id (List.mem_reverse.1 hid)
    rw [stackNames]
    generalize s.stack.reverse = ids at hall
    induction ids with
    | nil => rfl
    | cons id ids ih =>
      rw [List.mapM_cons, nameOf?_eq (hall id List.mem_cons_self),
        ih fun id' hid' => hall id' (List.mem_cons_of_mem id hid')]
      rfl
  rw [save?, nameOf?_eq hs.state, hstack]
  rfl

end

section

variable {s : Scanner} {names : List String}

/-- The buffer ends where the text ahead of the place does. -/
theorem byteSize_buffer (s : Scanner) : byteSize s.buffer = s.cursor.finish := by
  rw [buffer, Cursor.text, byteSize_append, Cursor.finish, s.cursor.offset_eq_reverse]

/-- The place is at the end of the buffer if no byte is ahead. -/
theorem byteSize_buffer_le_iff (s : Scanner) :
    byteSize s.buffer ≤ s.offset ↔ s.cursor.atEnd = true := by
  have hzero := byteSize_eq_zero_iff s.cursor.ahead
  rw [byteSize_buffer, Cursor.finish, Cursor.atEnd, List.isEmpty_iff, ← hzero, offset]
  omega

/-- **A sound scanner takes the same step** with every access checked. -/
theorem Sound.step?_eq (hs : s.Sound) (ht : s.table.Spec names) :
    s.step? = some (s.step.outcome s) := by
  unfold step?
  cases hpending : s.pending with
  | cons q pending =>
    obtain ⟨state, m⟩ := q
    have hmem : (state, m) ∈ s.pending := by
      rw [hpending]
      exact List.mem_cons_self
    obtain ⟨st, r, hst, hr⟩ := hs.rule _ hmem
    obtain ⟨width, hm⟩ := hs.measured _ hmem
    have htarget := ht.target_lt (List.mem_of_getElem? hst) (List.mem_of_getElem? hr)
    have hemit := emit?_eq (s := { s with pending }) ⟨hs.inTable.state, hs.inTable.stack⟩ hst hr
      htarget hm
    rw [step_of_pending hpending]
    dsimp only
    rw [hemit]
    rfl
  | nil =>
    dsimp only
    by_cases hend : s.cursor.atEnd = true
    · rw [step_of_atEnd hpending hend, if_pos (s.byteSize_buffer_le_iff.2 hend)]
      rfl
    · have hstate := Table.getElem?_state hs.inTable.state
      have hst := List.mem_of_getElem? hstate
      obtain ⟨decls, ctx, _, hcompile⟩ := ht.states _ hst
      have hsearched : ∀ q ∈ (s.table.state s.state).searched,
          ∃ r, (s.table.state s.state).rules[q.1]? = some r := by
        intro q hq
        obtain ⟨r, hr, _⟩ := (State.compile_spec hcompile).searched q hq
        exact ⟨r, hr⟩
      have hnext : s.cursor.ComesNext s.cursor.ahead ⟨s.offset, s.cursor.finish⟩ :=
        s.cursor.comesNext_ahead
      have hrest : Span.slice? s.buffer ⟨s.offset, s.cursor.finish⟩ = some s.cursor.ahead :=
        hnext.slice?
      rw [if_neg (fun hle => hend (s.byteSize_buffer_le_iff.1 hle)), hstate, byteSize_buffer,
        Option.bind_eq_bind, Option.bind_some, hrest, Option.bind_eq_bind, Option.bind_some,
        State.choose?_eq hsearched, Option.bind_eq_bind, Option.bind_some]
      have hend := Bool.eq_false_iff.2 hend
      cases hchoose : (s.table.state s.state).choose s.cursor with
      | none =>
        rw [step_of_choose_none hpending hend hchoose]
        dsimp only
        rw [formatError?_eq, Option.bind_eq_bind, Option.bind_some, advance?_eq hnext]
        rfl
      | some choice =>
        obtain ⟨m, queued⟩ := choice
        obtain ⟨width, hm, _⟩ := State.measured_of_choose hchoose
        obtain ⟨r, hr⟩ := (State.exists_rule_of_choose hcompile hchoose).1
        have hemit := emit?_eq (s := { s with pending := queued.toList.map fun q => (s.state, q) })
          ⟨hs.inTable.state, hs.inTable.stack⟩ hstate hr
          (ht.target_lt hst (List.mem_of_getElem? hr)) hm
        rw [step_of_choose hpending hend hchoose]
        dsimp only
        rw [hemit]
        rfl

/-- So it gives the same item as far as the patience goes. -/
theorem Sound.nextWithin?_eq (hs : s.Sound) (ht : s.table.Spec names) (patience : Nat) :
    s.nextWithin? patience = some (s.nextWithin patience) := by
  -- The cases are those of the call without checks.
  fun_induction nextWithin patience s with
  | case1 patience s hstep =>
    rw [nextWithin?, hs.step?_eq ht, hstep]
    rfl
  | case2 patience s e behind hstep =>
    rw [nextWithin?, hs.step?_eq ht, hstep]
    rfl
  | case3 patience s state m behind hstep higno rest hrest ih =>
    have hpass : s.pass? = some (.consumed s state m, behind) := by rw [pass?, hstep]
    have hbehind : behind.table.Spec names := by
      rw [table_pass? hpass]
      exact ht
    rw [nextWithin?, hs.step?_eq ht, hstep]
    dsimp only [Step.outcome]
    rw [if_pos higno]
    split
    · rename_i rest' hrest'
      rw [hrest, Option.some.injEq] at hrest'
      rw [← hrest']
      exact ih (hs.pass ht hpass) hbehind
    · rename_i hrest'
      rw [hrest] at hrest'
      cases hrest'
  | case4 patience s state m behind hstep higno hrest =>
    rw [nextWithin?, hs.step?_eq ht, hstep]
    dsimp only [Step.outcome]
    rw [if_pos higno]
    split
    · rename_i rest' hrest'
      rw [hrest] at hrest'
      cases hrest'
    · rfl
  | case5 patience s state m behind hstep higno =>
    rw [nextWithin?, hs.step?_eq ht, hstep]
    dsimp only [Step.outcome]
    rw [if_neg higno]

end

/-- **Every scanner is well formed,** whatever a caller did with it, and so no access of a
call for an item, of a message or of a save is out of range. -/
theorem operateAll_wellFormed {spec : LexerSpec} {t : Table} (ht : spec.compile = .ok t)
    (buffer : List Char) (operations : List Operation) :
    ∃ s, (t.scanner buffer).operateAll operations = s ∧ s.table = t ∧ s.WellFormed ∧
      s.step? = some (s.step.outcome s) ∧ s.next? = some s.next ∧ s.save? = some s.save ∧
      ∀ token message, s.formatError? token message = some (s.formatError token message) := by
  obtain ⟨hs, htable⟩ := ((Reachable.new buffer).operateAll operations).sound ht
  have hspec := LexerSpec.compile_spec ht
  rw [← htable] at hspec
  exact ⟨_, rfl, htable, hs.wellFormed, hs.step?_eq hspec, hs.nextWithin?_eq hspec _,
    save?_eq hs.inTable, formatError?_eq _⟩

/-- Operations between a gap and the match that waits behind it. One of them fails. -/
def templateOperations : List Operation :=
  [.call .next, .reset [] (some { line := 1, col := 1, state := "unknown", stack := [] }), .clone,
    .call (.feed "d".toList)]

/-- The match that waits is well formed in the buffer that has grown. -/
theorem operateAll_wellFormed_template :
    ∃ t s, templateLexer.compile = .ok t ∧
      (t.scanner "ab$(c".toList).operateAll templateOperations = s ∧
      s.pending = [(0, { rule := 0, span := ⟨2, 4⟩ })] ∧ s.buffer = "ab$(cd".toList ∧
      s.WellFormed ∧ s.next? = some s.next := by
  have hfacts : (templateLexer.compile.toOption.map fun t =>
      (((t.scanner "ab$(c".toList).operateAll templateOperations).pending,
        ((t.scanner "ab$(c".toList).operateAll templateOperations).buffer))
      = some ([(0, { rule := 0, span := ⟨2, 4⟩ })], "ab$(cd".toList) := by cbv
  obtain ⟨t, ht, hfacts⟩ := exists_ok_of_map hfacts
  rw [Prod.mk.injEq] at hfacts
  obtain ⟨hpending, hbuffer⟩ := hfacts
  obtain ⟨s, rfl, _, hwell, _, hnext, _⟩ :=
    operateAll_wellFormed ht "ab$(c".toList templateOperations
  exact ⟨t, _, ht, rfl, hpending, hbuffer, hwell, hnext⟩

end Scanner

end StatefulLexer
