/-
The line breaks that a run counts.

A run passes the whole buffer, and counts the newlines of what it passes where the
rule says so. So no newline is counted twice, and the sum falls short exactly by
the newlines that a rule without line breaks has matched. Whether there is such a
rule is not decided by the check that rules are compiled with: it lets a rule pass
that matches a newline among other characters.

Main statement: `newlines_counted_iff`.
-/
import StatefulLexer.Proofs.Run.Position
import StatefulLexer.Proofs.State.Newline
import StatefulLexer.Proofs.Table.Compile

set_option autoImplicit false

namespace StatefulLexer

/-- **The line breaks of a passage:** those of the token, whether or not it is handed
out, and the newlines of what is skipped. -/
def Passage.lineBreaks : Passage → Nat
  | consumed s state m => (s.tokenOf state m).lineBreaks
  | skipped s => (Passage.skipped s).text.count '\n'

/-- They are counted in the text, or not at all. -/
theorem Passage.lineBreaks_eq {p : Passage} (hp : p.before.cursor.ComesNext p.text p.span) :
    p.lineBreaks = StatefulLexer.lineBreaks p.countsLines p.text := by
  cases p with
  | skipped s => rfl
  | consumed s state m =>
    obtain ⟨_, _, hbreaks⟩ := Scanner.token?_position hp rfl
    rw [(Scanner.token?_spec hp rfl).2] at hbreaks
    exact hbreaks

/-! ## The sum of line breaks -/

/-- The sum is not greater than the number of newlines. -/
theorem sum_lineBreaks_le {ps : List Passage}
    (hps : ∀ p ∈ ps, p.before.cursor.ComesNext p.text p.span) :
    (ps.map Passage.lineBreaks).sum ≤ (ps.flatMap Passage.text).count '\n' := by
  induction ps with
  | nil => exact Nat.le_refl _
  | cons p ps ih =>
    have hp := Passage.lineBreaks_eq (hps p List.mem_cons_self)
    have hle := lineBreaks_le_count p.countsLines p.text
    have hrest := ih fun q hq => hps q (List.mem_cons_of_mem p hq)
    rw [List.map_cons, List.sum_cons, List.flatMap_cons, List.count_append, hp]
    exact Nat.add_le_add hle hrest

/-- **The sum is the number of newlines** exactly if everything that is passed counts its
newlines. -/
theorem sum_lineBreaks_eq_iff {ps : List Passage}
    (hps : ∀ p ∈ ps, p.before.cursor.ComesNext p.text p.span) :
    (ps.map Passage.lineBreaks).sum = (ps.flatMap Passage.text).count '\n'
      ↔ ∀ p ∈ ps, p.CountsNewlines := by
  induction ps with
  | nil => exact iff_of_true rfl fun p hp => by cases hp
  | cons p ps ih =>
    have hp := Passage.lineBreaks_eq (hps p List.mem_cons_self)
    have hle := lineBreaks_le_count p.countsLines p.text
    have hrest : ∀ q ∈ ps, q.before.cursor.ComesNext q.text q.span :=
      fun q hq => hps q (List.mem_cons_of_mem p hq)
    have hsum := sum_lineBreaks_le hrest
    rw [List.map_cons, List.sum_cons, List.flatMap_cons, List.count_append, hp,
      List.forall_mem_cons, ← ih hrest, Passage.CountsNewlines, ← lineBreaks_eq_count_iff]
    -- Neither part of the sum exceeds its newlines, so both reach them if the sum does.
    omega

namespace Scanner

/-! ## Rules that count their newlines -/

/-- **A scanner counts its newlines** if whatever its states choose does, and so does the
match that waits. -/
structure Counting (s : Scanner) : Prop where
  wellPlaced : s.WellPlaced
  choose : ∀ (id : StateId) (c : Cursor) (m : RuleMatch) (queued : Option RuleMatch),
    (s.table.state id).choose c = some (m, queued) →
      (s.table.state id).Counts c m ∧ ∀ q ∈ queued, (s.table.state id).Counts c q
  pending : ∀ q ∈ s.pending, (s.table.state q.1).Counts s.cursor q.2

/-- At the start of a buffer, a scanner counts its newlines if the rules of its table
do. -/
theorem Starts.counting {buffer : List Char} {base : Position} {s : Scanner}
    (hs : Starts buffer base s) {spec : LexerSpec} (hspec : spec.compile = .ok s.table)
    (hrules : ∀ st ∈ s.table.states, ∀ r ∈ st.rules, r.CountsNewlines) : s.Counting := by
  obtain ⟨_, _, hpending⟩ := hs.spec
  refine ⟨.of_nil hpending, fun id c m queued hchoose => ?_, fun q hq => ?_⟩
  · have hst := Table.state_mem_of_choose hchoose
    obtain ⟨decls, ctx, hcompile⟩ := LexerSpec.states_of_compile hspec _ hst
    exact (State.compile_spec hcompile).choose_counts (hrules _ hst) hchoose
  · rw [hpending] at hq
    cases hq

/-- **A step passes something that counts its newlines,** and goes on so. -/
theorem Counting.pass {s behind : Scanner} {p : Passage} (hs : s.Counting)
    (h : s.pass? = some (p, behind)) : behind.Counting ∧ p.CountsNewlines := by
  have hpassing := pass?_passing hs.wellPlaced h
  have htext : behind.cursor.text = s.cursor.text := by
    rw [hpassing.cursor, Cursor.text_advance]
  -- What waits behind the step was waiting in front of it, or was found with the match.
  have go (hp : p.CountsNewlines)
      (hpending : ∀ q ∈ behind.pending, (s.table.state q.1).Counts s.cursor q.2) :
      behind.Counting ∧ p.CountsNewlines := by
    refine ⟨⟨hpassing.wellPlaced, ?_, fun q hq => ?_⟩, hp⟩
    · rw [hpassing.table]
      exact hs.choose
    · rw [hpassing.table]
      exact (hpending q hq).of_text htext
  rcases pass?_cases h with ⟨state, m, pending, hpending, rfl, rfl⟩ |
    ⟨m, queued, _, _, hchoose, rfl, rfl⟩ | ⟨hpending, _, _, rfl, rfl⟩
  · have hwaits : ∀ q ∈ (state, m) :: pending, (s.table.state q.1).Counts s.cursor q.2 := by
      rw [← hpending]
      exact hs.pending
    refine go (hwaits (state, m) List.mem_cons_self) fun q hq => ?_
    rw [consume, pending_transit] at hq
    exact hwaits q (List.mem_cons_of_mem _ hq)
  · obtain ⟨hm, hqueued⟩ := hs.choose _ _ _ _ hchoose
    refine go hm fun q hq => ?_
    rw [consume, pending_transit] at hq
    obtain ⟨q', hq', rfl⟩ := List.mem_map.1 hq
    exact hqueued q' (Option.mem_toList.1 hq')
  · refine go (fun _ => rfl) fun q hq => ?_
    have hq : q ∈ s.pending := hq
    rw [hpending] at hq
    cases hq

/-- A call that is not for an item leaves what waits as it is. -/
theorem Counting.call {s : Scanner} (hs : s.Counting) {c : Call} (hc : c ≠ .next) :
    (s.call c).Counting := by
  obtain ⟨hcursor, _, hpending⟩ := s.call_place hc
  refine ⟨hs.wellPlaced.call hc, ?_, ?_⟩
  · rw [s.table_call hc]
    exact hs.choose
  · intro q hq
    rw [hpending] at hq
    obtain ⟨text, htext⟩ := hs.wellPlaced.next q hq
    have hcounts := hs.pending q hq
    rw [State.Counts, htext.slice] at hcounts
    rw [s.table_call hc, hcursor, State.Counts, (htext.feed c.fed).slice]
    exact hcounts

/-- **A run passes only what counts its newlines,** from where all rules do. -/
theorem Counting.run {s : Scanner} (hs : s.Counting) (calls : List Call) :
    ∀ p ∈ s.passages calls, p.CountsNewlines := by
  refine (of_steps (R := fun s ps _ last => s.Counting → last.Counting ∧
    ∀ p ∈ ps, p.CountsNewlines) ?_ ?_ ?_ ?_ s calls hs).2
  · exact fun s hs => ⟨hs, fun p hp => by cases hp⟩
  · intro s mid last ps qs _ _ hfront hback hs
    obtain ⟨hmid, hps⟩ := hfront hs
    obtain ⟨hlast, hqs⟩ := hback hmid
    exact ⟨hlast, fun p hp => (List.mem_append.1 hp).elim (hps p) (hqs p)⟩
  · intro s p behind hpass hs
    obtain ⟨hbehind, hp⟩ := hs.pass hpass
    refine ⟨hbehind, fun q hq => ?_⟩
    rw [List.mem_singleton.1 hq]
    exact hp
  · exact fun s c hc hs => ⟨hs.call hc, fun p hp => by cases hp⟩

/-! ## When newlines are counted -/

/-- **Newlines are counted in full** on a run over a whole buffer exactly if each match
with a newline is of a rule that declares line breaks. So it is on every run if no
rule without line breaks matches a newline. That the rules were checked does not give
this: they are known not to match a newline that is the whole text, while it takes
every match that begins in front of a newline to end in front of it. -/
theorem newlines_counted_iff {buffer : List Char} {base : Position} {s : Scanner}
    (hs : Starts buffer base s) (calls : List Call) (hend : (s.run calls).isAtEnd = true) :
    (((s.passages calls).map Passage.lineBreaks).sum = (s.run calls).buffer.count '\n' ↔
      ∀ p ∈ s.passages calls, p.CountsNewlines) ∧
    (∀ spec : LexerSpec, spec.compile = .ok s.table →
      (∀ st ∈ s.table.states, ∀ r ∈ st.rules, r.lineBreaks = false →
        ∀ p : Regex.Compiled, r.pattern = some p → p.expr.Avoids '\n') →
      ((s.passages calls).map Passage.lineBreaks).sum = (s.run calls).buffer.count '\n') ∧
    (∀ (d : RuleDecl) (ctx : RuleContext) (r : Rule) (p : Regex.Compiled),
      d.compile ctx = .ok r → r.lineBreaks = false → r.pattern = some p →
      p.expr.match? [] ['\n'] = none ∧
      (p.expr.Avoids '\n' ↔ ∀ (behind front rest : List Char) (found : Regex.Found),
        '\n' ∉ front → p.expr.match? behind (front ++ '\n' :: rest) = some found →
        found.width ≤ front.length) ∧
      (p.expr.admits '\n' = false → p.expr.Avoids '\n') ∧
      (∀ texts : List (List Char), d.options.matchers.mapM Matcher.text? = some texts →
        (p.expr.Avoids '\n' ↔ ∀ (front : List (List Char)) (text : List Char)
          (back : List (List Char)), texts = front ++ text :: back → '\n' ∈ text →
          ∃ u ∈ front, u <+: text))) := by
  obtain ⟨hcursor, _, hpending⟩ := hs.spec
  have hcourse := Course.of_run (WellPlaced.of_nil hpending) calls
  have hbehind : s.cursor.behind = [] := by rw [hcursor]; rfl
  have hsum := sum_lineBreaks_eq_iff hcourse.comesNext
  rw [hcourse.text_of_end hbehind hend] at hsum
  refine ⟨hsum, fun spec hspec hrules => ?_, fun d ctx r p hr hlines hp => ?_⟩
  · exact hsum.2 ((hs.counting hspec hrules).run calls)
  · exact RuleDecl.newlines_of_compile hr hlines hp

/-- Two words with an empty line between them: both newlines are counted. -/
theorem newlines_counted_iff_words :
    ∃ t, wordLexer.compile = .ok t ∧ Starts "ab\n\ncd".toList {} (t.scanner "ab\n\ncd".toList) ∧
      ((t.scanner "ab\n\ncd".toList).run [.next, .next, .next]).isAtEnd = true ∧
      (((t.scanner "ab\n\ncd".toList).passages [.next, .next, .next]).map
        Passage.lineBreaks).sum = 2 := by
  have hfacts : (wordLexer.compile.toOption.map fun t =>
      (((t.scanner "ab\n\ncd".toList).run [.next, .next, .next]).isAtEnd,
        ((t.scanner "ab\n\ncd".toList).passages [.next, .next, .next]).all
          fun p => decide p.CountsNewlines,
        ((t.scanner "ab\n\ncd".toList).run [.next, .next, .next]).buffer.count '\n'))
      = some (true, true, 2) := by cbv
  obtain ⟨t, ht, hfacts⟩ := exists_ok_of_map hfacts
  rw [Prod.mk.injEq, Prod.mk.injEq] at hfacts
  obtain ⟨hend, hlines, hcount⟩ := hfacts
  have hstart : Starts "ab\n\ncd".toList {} (t.scanner "ab\n\ncd".toList) := .new t
  have hcounts := (newlines_counted_iff hstart [.next, .next, .next] hend).1.2 fun p hp =>
    of_decide_eq_true (List.all_eq_true.1 hlines p hp)
  refine ⟨t, ht, hstart, hend, ?_⟩
  rw [hcounts, hcount]

/-- A lexer whose only rule matches a newline among other characters, and declares no
line breaks. -/
def brokenLexer : LexerSpec := .ofRules [("pair", .literal "a\nb")]

/-- The rule is compiled, its match holds a newline, and no line break is counted. -/
theorem newline_of_pair_not_counted :
    ∃ t, brokenLexer.compile = .ok t ∧
      (∃ st ∈ t.states, ∃ r ∈ st.rules, r.lineBreaks = false ∧
        ∃ p : Regex.Compiled, r.pattern = some p ∧ ¬p.expr.Avoids '\n') ∧
      ((t.scanner "a\nb".toList).run [.next]).isAtEnd = true ∧
      (((t.scanner "a\nb".toList).passages [.next]).map Passage.lineBreaks).sum = 0 ∧
      ((t.scanner "a\nb".toList).run [.next]).buffer.count '\n' = 1 := by
  have hfacts : (brokenLexer.compile.toOption.map fun t =>
      (t.states.any fun st => st.rules.any fun r => !r.lineBreaks &&
          r.pattern.any fun p => (p.expr.match? [] "a\nb".toList).any (·.width == 3),
        ((t.scanner "a\nb".toList).run [.next]).isAtEnd,
        (((t.scanner "a\nb".toList).passages [.next]).map Passage.lineBreaks).sum,
        ((t.scanner "a\nb".toList).run [.next]).buffer.count '\n'))
      = some (true, true, 0, 1) := by cbv
  obtain ⟨t, ht, hfacts⟩ := exists_ok_of_map hfacts
  rw [Prod.mk.injEq, Prod.mk.injEq, Prod.mk.injEq] at hfacts
  obtain ⟨hrule, hend, hsum, hcount⟩ := hfacts
  refine ⟨t, ht, ?_, hend, hsum, hcount⟩
  obtain ⟨st, hst, hrule⟩ := List.any_eq_true.1 hrule
  obtain ⟨r, hr, hrule⟩ := List.any_eq_true.1 hrule
  obtain ⟨hlines, hpattern⟩ := Bool.and_eq_true_iff.1 hrule
  obtain ⟨p, hp, hmatch⟩ := (Option.any_eq_true _ _).1 hpattern
  obtain ⟨found, hfound, hwidth⟩ := (Option.any_eq_true _ _).1 hmatch
  rw [Bool.not_eq_true'] at hlines
  refine ⟨st, hst, r, hr, hlines, p, hp, fun havoids => ?_⟩
  have hnot := havoids [] "a\nb".toList found hfound
  rw [beq_iff_eq.1 hwidth] at hnot
  exact hnot (by decide)

end Scanner

end StatefulLexer
