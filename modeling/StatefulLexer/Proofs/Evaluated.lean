/-
What an evaluation tells.

Whether a lexer is accepted, and what its scanner does with one buffer, is settled by
evaluating it, from the declarations to the tokens. The evaluation ends in an option of
what is asked for, and what was compiled on the way is read off it here.

Mathlib is imported as a whole. An evaluation opens functions of the library by their
equations, and what it opens is to be the same wherever it is asked for.

Main statements: `exists_ok_of_map`, `exists_ok_of_bind`.
-/
import Mathlib

set_option autoImplicit false

namespace StatefulLexer

variable {ε α β : Type}

/-- What is known of the result, if there is one, is known of a result. -/
theorem exists_ok_of_map {x : Except ε α} {f : α → β} {b : β}
    (h : x.toOption.map f = some b) : ∃ a, x = .ok a ∧ f a = b := by
  cases x with
  | error e => cases h
  | ok a => exact ⟨a, rfl, Option.some.inj h⟩

/-- What goes on with a result, and comes to something, goes on with one that there is. -/
theorem exists_ok_of_bind {x : Except ε α} {f : α → Option β} {b : β}
    (h : x.toOption.bind f = some b) : ∃ a, x = .ok a ∧ f a = some b := by
  cases x with
  | error e => cases h
  | ok a => exact ⟨a, rfl, h⟩

end StatefulLexer
