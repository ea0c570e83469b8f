/-
Matching.

A thread is a stack of what is left to be matched. One round at a place follows
every thread to where it waits for a character or is done; the threads are kept
in the order in which they are to be preferred. A stack that was met before in
the same round is not followed again: whatever it leads to was found already, by
a thread that is preferred. This is also what ends a round, since a repetition
that matched nothing comes back to a stack it was at.

When a thread is done the ones behind it are dropped, the ones before it go on
and may still find a match that is preferred.
-/
import StatefulLexer.Regex.Weight

set_option autoImplicit false

namespace StatefulLexer.Regex

/-! ## Threads -/

/-- What a capture group took part with last: the characters from `start` to
`stop`, counted from where the search began. -/
structure Capture where
  index : Nat
  start : Nat
  stop : Nat
deriving DecidableEq, Repr

/-- A thread: what is left to be matched, where capture groups were entered last,
and what they captured last. -/
structure Thread where
  stack : Stack
  entered : List (Nat × Nat) := []
  captures : List Capture := []
deriving DecidableEq, Repr

namespace Thread

/-- The thread that has something else left. -/
def withStack (t : Thread) (k : Stack) : Thread := { t with stack := k }

/-- The thread that enters a capture group at a place. -/
def enter (t : Thread) (index place : Nat) (k : Stack) : Thread :=
  { t with
    stack := k
    entered := (index, place) :: t.entered.filter fun (i, _) => i != index }

/-- The thread that leaves a capture group at a place. -/
def leave (t : Thread) (index place : Nat) (k : Stack) : Thread :=
  { t with
    stack := k
    captures :=
      ⟨index, (t.entered.lookup index).getD place, place⟩ ::
        t.captures.filter fun c => c.index != index }

/-- The thread behind a character, if it waits for one like that. -/
def take? (c : Char) (t : Thread) : Option Thread :=
  match move t.stack with
  | .consume wanted k => if wanted c then some (t.withStack k) else none
  | _ => none

/-- The thread has matched. -/
def isDone (t : Thread) : Bool := t.stack.isEmpty

end Thread

/-- The weight of threads. -/
def pending (seen : Met) : List Thread → Nat
  | [] => 0
  | t :: threads => weight seen t.stack + pending seen threads

theorem pending_cons_le (s : Stack) (seen : Met) (threads : List Thread) :
    pending (seen.insert s) threads ≤ pending seen threads := by
  induction threads with
  | nil => exact Nat.le_refl _
  | cons t threads ih => exact Nat.add_le_add (weight_cons_le s seen t.stack) ih

theorem pending_append (seen : Met) (a b : List Thread) :
    pending seen (a ++ b) = pending seen a + pending seen b := by
  induction a with
  | nil => simp [pending]
  | cons t a ih => simp [pending, ih, Nat.add_assoc]

/-! ## Rounds -/

/-- A place between two characters, and its number. -/
structure Gap where
  before : Option Char
  behind : Option Char
  place : Nat
deriving DecidableEq, Repr

/-- What a thread goes on with when it need not take a character. -/
def Move.followed (g : Gap) (t : Thread) : Move → List Thread
  | done => []
  | consume _ _ => []
  | become k => [t.withStack k]
  | check l k => if l.holds g.before g.behind then [t.withStack k] else []
  | opened index k => [t.enter index g.place k]
  | closed index k => [t.leave index g.place k]
  | fork a b => [t.withStack a, t.withStack b]

/-- Threads that go on weigh at most what the move leads to. -/
theorem pending_followed_le (seen : Met) (g : Gap) (t : Thread) (m : Move) :
    pending seen (m.followed g t) ≤ m.weight seen := by
  cases m with
  | check l k =>
    simp only [Move.followed, Move.weight]
    split <;> simp [pending, Thread.withStack]
  | _ => simp [Move.followed, Move.weight, pending, Thread.withStack, Thread.enter, Thread.leave]

/-- **A round.** Every thread is followed to where it waits for a character or is
done. The round is over with the first thread that is done. -/
def round (g : Gap) (seen : Met) : List Thread → List Thread
  | [] => []
  | t :: threads =>
    -- The threads behind one that is done are not preferred to it.
    if t.isDone then [t]
    -- What this stack leads to is in the list already, or about to be.
    else if h : t.stack ∈ seen then
      have : pending seen threads < pending seen (t :: threads) := by
        have := weight_pos seen t.stack
        simp only [pending]
        omega
      round g seen threads
    else
      have : pending (seen.insert t.stack) ((move t.stack).followed g t ++ threads)
          < pending seen (t :: threads) := by
        have h1 := pending_followed_le (seen.insert t.stack) g t (move t.stack)
        have h2 := weight_move_lt seen t.stack h
        have h3 := pending_cons_le t.stack seen threads
        rw [pending_append]
        simp only [pending] at h1 h2 h3 ⊢
        omega
      match move t.stack with
      -- The thread waits for a character, so this round keeps it.
      | .consume _ _ =>
        have : pending (seen.insert t.stack) threads < pending seen (t :: threads) := by
          have h1 := weight_pos seen t.stack
          have h2 := pending_cons_le t.stack seen threads
          simp only [pending] at h2 ⊢
          omega
        t :: round g (seen.insert t.stack) threads
      | _ => round g (seen.insert t.stack) ((move t.stack).followed g t ++ threads)
termination_by threads => pending seen threads

/-! ## Searches -/

/-- A match: the number of its characters, and what its groups captured. -/
structure Found where
  width : Nat
  captures : List Capture
deriving DecidableEq, Repr

/-- The match of a round in which a thread was done. Such a thread is last. -/
def doneIn (place : Nat) (threads : List Thread) : Option Found :=
  match threads.getLast? with
  | some t => if t.isDone then some ⟨place, t.captures⟩ else none
  | none => none

/-- **A search** along the characters that lie ahead. `best` is the match found
so far; a later one comes from a thread that was preferred. -/
def run (before : Option Char) (place : Nat) (ahead : List Char) (threads : List Thread)
    (best : Option Found) : Option Found :=
  let waiting := round ⟨before, ahead.head?, place⟩ .none threads
  let best := (doneIn place waiting).orElse fun _ => best
  match ahead with
  | [] => best
  | c :: ahead =>
    match waiting.filterMap (Thread.take? c) with
    | [] => best
    | threads => run (some c) (place + 1) ahead threads best

/-- **The match of an expression** at a place, between what lies behind it and
what lies ahead: of all ways to match there, the one that is preferred. -/
def Expr.match? (e : Expr) (behind ahead : List Char) : Option Found :=
  run behind.head? 0 ahead [{ stack := [.expr e] }] none

/-- The expression matches somewhere, at the place or further ahead. -/
def Expr.occurs (e : Expr) (behind : List Char) : List Char → Bool
  | [] => (e.match? behind []).isSome
  | c :: ahead => (e.match? behind (c :: ahead)).isSome || e.occurs (c :: behind) ahead

end StatefulLexer.Regex
