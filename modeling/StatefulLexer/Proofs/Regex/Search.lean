/-
What a search finds.

A search follows all its threads at once, one round for each character. What it
finds is nevertheless what the first of its threads would find on its own, or
else the second, and so on: the order of the threads is the order in which they
are to be preferred, and nothing else. So a search can be taken apart, down to a
single thread.

Main statement: `run_append`.
-/
import StatefulLexer.Proofs.Regex.Round

set_option autoImplicit false

namespace StatefulLexer.Regex

/-! ## The match found so far -/

@[simp] theorem run_nil (before : Option Char) (place : Nat) (ahead : List Char)
    (best : Option Found) : run before place ahead [] best = best := by
  unfold run
  rw [round]
  cases ahead with
  | nil => rfl
  | cons c ahead => rfl

/-- At the end of the text a search has only the threads that have matched. -/
theorem run_end (before : Option Char) (place : Nat) (ts : List Thread) (best : Option Found) :
    run before place [] ts best = (doneIn place (round ⟨before, none, place⟩ .none ts)).or best := by
  rw [run]
  dsimp only [List.head?_nil]
  cases doneIn place (round ⟨before, none, place⟩ .none ts) <;> rfl

/-- A search goes on behind a character with the threads that took it. -/
theorem run_cons (before : Option Char) (place : Nat) (c : Char) (ahead : List Char)
    (ts : List Thread) (best : Option Found) :
    run before place (c :: ahead) ts best = run (some c) (place + 1) ahead
      ((round ⟨before, some c, place⟩ .none ts).filterMap (Thread.take? c))
      ((doneIn place (round ⟨before, some c, place⟩ .none ts)).or best) := by
  rw [run]
  have hor : ∀ a : Option Found, (a.orElse fun _ => best) = a.or best := by
    intro a
    cases a <;> rfl
  dsimp only [List.head?_cons]
  rw [hor]
  cases (round ⟨before, some c, place⟩ .none ts).filterMap (Thread.take? c) with
  | nil => rw [run_nil]
  | cons t ts => rfl

/-- The match found so far stands unless a better one is found. -/
theorem run_best (before : Option Char) (place : Nat) (ahead : List Char) (ts : List Thread)
    (best : Option Found) :
    run before place ahead ts best = (run before place ahead ts none).or best := by
  induction ahead generalizing before place ts best with
  | nil => rw [run_end, run_end, Option.or_none]
  | cons c ahead ih =>
    rw [run_cons, run_cons, Option.or_none, ih, ih _ _ _ (doneIn _ _), Option.or_assoc]

/-! ## Widths -/

/-- The match of a round is that of a thread that has matched, and ends at its place. -/
theorem exists_of_doneIn {place : Nat} {ts : List Thread} {found : Found}
    (h : doneIn place ts = some found) :
    ∃ t ∈ ts, t.isDone = true ∧ found = ⟨place, t.captures⟩ := by
  unfold doneIn at h
  split at h
  · rename_i t hlast
    split at h
    · rename_i hdone
      exact ⟨t, List.mem_of_getLast? hlast, hdone, (Option.some.inj h).symm⟩
    · cases h
  · cases h

theorem width_of_doneIn {place : Nat} {ts : List Thread} {found : Found}
    (h : doneIn place ts = some found) : found.width = place := by
  obtain ⟨t, _, _, rfl⟩ := exists_of_doneIn h
  rfl

/-- **A match takes what lies ahead,** and no more than that. -/
theorem width_of_run {before : Option Char} {place : Nat} {ahead : List Char}
    {ts : List Thread} {found : Found} (h : run before place ahead ts none = some found) :
    place ≤ found.width ∧ found.width ≤ place + ahead.length := by
  induction ahead generalizing before place ts with
  | nil =>
    rw [run_end, Option.or_none] at h
    rw [width_of_doneIn h]
    exact ⟨Nat.le_refl _, Nat.le_add_right _ _⟩
  | cons c ahead ih =>
    rw [run_cons, run_best, Option.or_none] at h
    rw [List.length_cons]
    rcases Option.or_eq_some_iff.1 h with h | ⟨_, h⟩
    · obtain ⟨hle, hge⟩ := ih h
      omega
    · rw [width_of_doneIn h]
      omega

/-- A match that takes no character is one of the first round. -/
theorem exists_isDone_of_run {before : Option Char} {place : Nat} {ahead : List Char}
    {ts : List Thread} {found : Found} (h : run before place ahead ts none = some found)
    (hwidth : found.width = place) :
    ∃ t ∈ round ⟨before, ahead.head?, place⟩ .none ts, t.isDone = true := by
  cases ahead with
  | nil =>
    rw [run_end, Option.or_none] at h
    obtain ⟨t, ht, hdone, _⟩ := exists_of_doneIn h
    exact ⟨t, ht, hdone⟩
  | cons c ahead =>
    rw [run_cons, run_best, Option.or_none] at h
    rcases Option.or_eq_some_iff.1 h with h | ⟨_, h⟩
    · -- What is found behind the character takes that character.
      have hle := (width_of_run h).1
      omega
    · obtain ⟨t, ht, hdone, _⟩ := exists_of_doneIn h
      exact ⟨t, ht, hdone⟩

/-- **What moves keep, a search keeps.** Let a property of threads, each at its place, be lost
neither with a move nor with a character that is taken. Then the match is that of a thread
which has it at the end of the match. -/
theorem exists_of_run {P : Nat → Thread → Prop}
    (hmove : ∀ (g : Gap) (t : Thread), P g.place t → ∀ u ∈ (move t.stack).followed g t, P g.place u)
    (htake : ∀ (place : Nat) (c : Char) (t u : Thread), P place t → t.take? c = some u →
      P (place + 1) u)
    {before : Option Char} {place : Nat} {ahead : List Char} {ts : List Thread} {found : Found}
    (hts : ∀ t ∈ ts, P place t) (h : run before place ahead ts none = some found) :
    ∃ t, P found.width t ∧ t.isDone = true ∧ found.captures = t.captures := by
  -- A match that ends in this round is that of one of its threads.
  have ends {g : Gap} {ts : List Thread} (hts : ∀ t ∈ ts, P g.place t)
      (h : doneIn g.place (round g .none ts) = some found) :
      ∃ t, P found.width t ∧ t.isDone = true ∧ found.captures = t.captures := by
    obtain ⟨t, ht, hdone, rfl⟩ := exists_of_doneIn h
    exact ⟨t, forall_round (P := P g.place) (hmove g) hts t ht, hdone, rfl⟩
  induction ahead generalizing before place ts with
  | nil =>
    rw [run_end, Option.or_none] at h
    exact ends hts h
  | cons c ahead ih =>
    rw [run_cons, run_best, Option.or_none] at h
    rcases Option.or_eq_some_iff.1 h with h | ⟨_, h⟩
    · -- The match goes on behind the character, with the threads that took it.
      refine ih (fun u hu => ?_) h
      obtain ⟨t, ht, htake'⟩ := List.mem_filterMap.1 hu
      exact htake place c t u (forall_round (P := P place) (hmove ⟨before, some c, place⟩) hts t ht)
        htake'
    · exact ends hts h

/-! ## Outcomes -/

/-- **What a waiting thread comes to** at a place: its match, if it has matched, or else
what it finds on its own behind the next character. -/
def outcome (place : Nat) (ahead : List Char) : Outcome := fun t =>
  if t.isDone then some ⟨place, t.captures⟩
  else
    match ahead with
    | [] => none
    | c :: ahead => (t.take? c).bind fun u => run (some c) (place + 1) ahead [u] none

theorem outcome_done (place : Nat) (ahead : List Char) {t : Thread} (ht : t.isDone = true) :
    outcome place ahead t = some ⟨place, t.captures⟩ := by
  rw [outcome.eq_def, if_pos ht]

theorem outcome_nil (place : Nat) {t : Thread} (ht : t.isDone = false) :
    outcome place [] t = none := by
  rw [outcome, if_neg (by simp [ht])]

theorem outcome_cons (place : Nat) (c : Char) (ahead : List Char) {t : Thread}
    (ht : t.isDone = false) : outcome place (c :: ahead) t
      = (t.take? c).bind fun u => run (some c) (place + 1) ahead [u] none := by
  rw [outcome, if_neg (by simp [ht])]

/-- A thread that has matched takes no character. -/
theorem take?_of_isDone {t : Thread} (c : Char) (ht : t.isDone = true) : t.take? c = none := by
  rw [Thread.take?, List.isEmpty_iff.1 ht, move]

/-- Threads with the same stack take the same characters. -/
theorem map_stack_take? {t u : Thread} (c : Char) (h : t.stack = u.stack) :
    (t.take? c).map Thread.stack = (u.take? c).map Thread.stack := by
  rw [Thread.take?, Thread.take?, h]
  cases move u.stack with
  | consume wanted k =>
    dsimp only
    split <;> rfl
  | _ => rfl

/-- The match of a round is that of the thread that has matched. -/
theorem doneIn_eq_findSome? (place : Nat) {ts : List Thread}
    (h : ts.Pairwise fun t _ => t.isDone = false) :
    doneIn place ts = ts.findSome? (outcome place []) := by
  induction ts with
  | nil => rfl
  | cons t ts ih =>
    obtain ⟨ht, hts⟩ := List.pairwise_cons.1 h
    rw [List.findSome?_cons]
    cases ts with
    | nil =>
      by_cases hdone : t.isDone = true
      · rw [outcome, if_pos hdone, doneIn, List.getLast?_singleton]
        exact if_pos hdone
      · rw [outcome, if_neg hdone, doneIn, List.getLast?_singleton]
        exact if_neg hdone
    | cons u ts =>
      have hdone : t.isDone = false := ht u List.mem_cons_self
      -- Only the last thread may have matched, so this one has not.
      have hlast : doneIn place (t :: u :: ts) = doneIn place (u :: ts) := by
        rw [doneIn, doneIn, List.getLast?_cons_cons]
      rw [outcome, if_neg (by simp [hdone]), hlast]
      exact ih hts

/-- Among threads of which only the last may have matched, the first outcome is one of
those that go on, or else that of the last. -/
theorem findSome?_outcome_cons (place : Nat) (c : Char) (ahead : List Char) {ts : List Thread}
    (h : ts.Pairwise fun t _ => t.isDone = false) :
    ts.findSome? (outcome place (c :: ahead)) =
      (ts.findSome? fun t => (t.take? c).bind fun u => run (some c) (place + 1) ahead [u] none).or
        (doneIn place ts) := by
  rw [doneIn_eq_findSome? place h]
  induction ts with
  | nil => rfl
  | cons t ts ih =>
    obtain ⟨ht, hts⟩ := List.pairwise_cons.1 h
    rw [List.findSome?_cons, List.findSome?_cons, List.findSome?_cons]
    by_cases hdone : t.isDone = true
    · -- There is no thread behind this one.
      have hnil : ts = [] := by
        cases ts with
        | nil => rfl
        | cons u ts =>
          rw [ht u List.mem_cons_self] at hdone
          cases hdone
      rw [outcome, outcome, if_pos hdone, if_pos hdone, take?_of_isDone c hdone, hnil]
      rfl
    · rw [outcome, outcome, if_neg hdone, if_neg hdone]
      dsimp only
      rw [ih hts]
      cases (t.take? c).bind fun u => run (some c) (place + 1) ahead [u] none <;> rfl

/-! ## Searches, taken apart -/

/-- A search finds what its first round comes to. -/
theorem run_eq_firstOf_of_cons {place : Nat} {c : Char} {ahead : List Char}
    (hnext : ∀ ts, run (some c) (place + 1) ahead ts none
      = ts.findSome? fun t => run (some c) (place + 1) ahead [t] none)
    (before : Option Char) (ts : List Thread) :
    run before place (c :: ahead) ts none
      = firstOf ⟨before, some c, place⟩ (outcome place (c :: ahead)) .none ts := by
  rw [run_cons, Option.or_none, run_best, hnext, ← List.head?_filterMap,
    List.filterMap_filterMap, List.head?_filterMap, firstOf,
    findSome?_outcome_cons place c ahead (round_pairwise _ _ ts)]

/-- **A search finds what its first round comes to,** and threads with one stack come to
the same. -/
theorem run_eq_firstOf (before : Option Char) (place : Nat) (ahead : List Char) :
    (outcome place ahead).OfStacks ∧ ∀ ts, run before place ahead ts none
      = firstOf ⟨before, ahead.head?, place⟩ (outcome place ahead) .none ts := by
  induction ahead generalizing before place with
  | nil =>
    refine ⟨⟨fun t ht => ?_, fun t u h => ?_⟩, fun ts => ?_⟩
    · rw [outcome, if_pos ht]
      rfl
    · have hdone : t.isDone = u.isDone := by rw [Thread.isDone, Thread.isDone, h]
      rw [outcome, outcome, hdone]
      split <;> rfl
    · rw [run_end, Option.or_none, firstOf, List.head?_nil,
        doneIn_eq_findSome? place (round_pairwise _ _ ts)]
  | cons c ahead ih =>
    obtain ⟨hout, hrun⟩ := ih (some c) (place + 1)
    -- Behind the character, threads are followed one after the other.
    have hnext : ∀ ts, run (some c) (place + 1) ahead ts none
        = ts.findSome? fun t => run (some c) (place + 1) ahead [t] none := by
      intro ts
      induction ts with
      | nil => exact run_nil ..
      | cons t ts ih =>
        have happend := firstOf_append ⟨some c, ahead.head?, place + 1⟩ hout [t] ts
        rw [← hrun, ← hrun, ← hrun, List.singleton_append, ih] at happend
        rw [happend, List.findSome?_cons]
        cases run (some c) (place + 1) ahead [t] none <;> rfl
    refine ⟨⟨fun t ht => ?_, fun t u h => ?_⟩, run_eq_firstOf_of_cons hnext before⟩
    · rw [outcome, if_pos ht]
      rfl
    · have hdone : t.isDone = u.isDone := by rw [Thread.isDone, Thread.isDone, h]
      have htake := map_stack_take? c h
      rw [outcome, outcome, hdone]
      split
      · rfl
      · cases ht' : t.take? c with
        | none =>
          rw [ht'] at htake
          rw [Option.map_eq_none_iff.1 htake.symm]
        | some v =>
          rw [ht'] at htake
          obtain ⟨w, hu', hstack⟩ := Option.map_eq_some_iff.1 htake.symm
          rw [hu', Option.bind_some, Option.bind_some, hrun, hrun]
          refine firstOf_width hout ?_
          rw [List.map_singleton, List.map_singleton, hstack]

/-- **A search is taken apart.** What threads find is what the first of them find, or
else what the others find. -/
theorem run_append (before : Option Char) (place : Nat) (ahead : List Char)
    (ts us : List Thread) :
    run before place ahead (ts ++ us) none
      = (run before place ahead ts none).or (run before place ahead us none) := by
  obtain ⟨hout, hrun⟩ := run_eq_firstOf before place ahead
  rw [hrun, hrun, hrun, firstOf_append _ hout]

end StatefulLexer.Regex
