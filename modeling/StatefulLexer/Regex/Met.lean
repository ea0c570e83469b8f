/-
The stacks that a round has met.

They are looked for at every move, and a pattern of nested repetitions has
thousands of them. Main statement: `Met.mem_insert`, after which nobody looks at
how they are kept.
-/
import StatefulLexer.Regex.Stack

set_option autoImplicit false

namespace StatefulLexer.Regex

/-! ## Numbers

A number tells most stacks apart, and is found without looking at a stack whole. -/

/-- A number for an expression. What follows in a sequence, or in a choice, does
not count in it. -/
def Expr.key : Expr → Nat
  | .empty => 1
  | .literal text => (text.take 4).foldl (fun n c => 5 * n + c.toNat) 2
  | .set s _ => (s.ranges.head?.map fun r => r.first + r.last).getD 3
  | .look _ => 4
  | .rep least most _ sub => 7 * least + 11 * most.getD 1 + sub.key
  | .capture index sub => 13 * index + sub.key
  | .seq first _ => 3 * first.key + 5
  | .alt first _ => 3 * first.key + 6

/-- A number for a frame. -/
def Frame.key : Frame → Nat
  | expr e => 2 * e.key
  | loop _ e => 2 * e.key + 1
  | join second => if second then 7 else 8
  | close index => index + 9

/-- A number for a stack. -/
def Stack.key (k : Stack) : Nat := k.foldl (fun n frame => (31 * n + frame.key) % 65536) 0

/-! ## Drawers -/

/-- Stacks in drawers, each behind its number. -/
structure Files where
  drawers : Vector (List (Nat × Stack)) 256

namespace Files

/-- No stacks. -/
def none : Files := ⟨Vector.replicate 256 []⟩

/-- The drawer for a number. -/
def drawer (key : Nat) : Fin 256 := ⟨key % 256, Nat.mod_lt _ (by decide)⟩

/-- The stack is there. -/
def contains (files : Files) (k : Stack) : Bool :=
  let key := k.key
  files.drawers[drawer key].contains (key, k)

/-- One more stack. -/
def insert (files : Files) (k : Stack) : Files :=
  let key := k.key
  ⟨files.drawers.set (drawer key) ((key, k) :: files.drawers[drawer key])⟩

theorem contains_none (k : Stack) : Files.none.contains k = false := by
  show ((Vector.replicate 256 [])[drawer k.key]).contains (k.key, k) = false
  simp

theorem contains_insert (files : Files) (k q : Stack) :
    (files.insert k).contains q = (decide (q = k) || files.contains q) := by
  show ((files.drawers.set (drawer k.key)
      ((k.key, k) :: files.drawers[drawer k.key]))[drawer q.key]).contains (q.key, q) =
    (decide (q = k) || files.drawers[drawer q.key].contains (q.key, q))
  by_cases h : drawer k.key = drawer q.key
  · have hq : q.key = k.key ∧ q = k ↔ q = k := ⟨And.right, fun hq => ⟨hq ▸ rfl, hq⟩⟩
    simp [h, hq]
  · have hne : ¬q = k := fun hq => h (hq ▸ rfl)
    have hval : (drawer k.key : Nat) ≠ drawer q.key := fun hv => h (Fin.ext hv)
    simp [hne, Vector.getElem_set_ne, hval]

end Files

/-! ## Stacks that were met

Most rounds meet few listed, and keep them in a list. -/

/-- Stacks that were met. -/
inductive Met where
  /-- Few stacks, and room for more. -/
  | few (listed : List Stack) (room : Nat)
  /-- The first stacks, and the others in drawers. -/
  | many (listed : List Stack) (files : Files)

namespace Met

/-- No stacks. -/
def none : Met := .few [] 16

/-- The stack was met. -/
def contains : Met → Stack → Bool
  | few listed _, k => listed.contains k
  | many listed files, k => listed.contains k || files.contains k

instance : Membership Stack Met where
  mem seen k := seen.contains k = true

instance (k : Stack) (seen : Met) : Decidable (k ∈ seen) :=
  inferInstanceAs (Decidable (seen.contains k = true))

/-- One more stack. -/
def insert (k : Stack) : Met → Met
  | few listed (room + 1) => few (k :: listed) room
  | few listed 0 => many listed (Files.none.insert k)
  | many listed files => many listed (files.insert k)

@[simp]
theorem not_mem_none (k : Stack) : ¬k ∈ Met.none := by
  show ¬([] : List Stack).contains k = true
  simp

/-- **A stack was met once it is inserted,** and the others stay as they were. -/
@[simp]
theorem mem_insert {seen : Met} {k q : Stack} : q ∈ seen.insert k ↔ q = k ∨ q ∈ seen := by
  show (seen.insert k).contains q = true ↔ q = k ∨ seen.contains q = true
  match seen with
  | few listed (room + 1) => simp [insert, contains]
  | few listed 0 =>
    simp [insert, contains, Files.contains_insert, Files.contains_none, or_comm]
  | many listed files => simp [insert, contains, Files.contains_insert, or_left_comm]

end Met

end StatefulLexer.Regex
