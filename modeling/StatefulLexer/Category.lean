/-
Categories of tokens.

A category has a name and all its ancestors, which are worked out once, when it
is made. To ask whether one category falls under another is then to look for a
name in a list.
-/
set_option autoImplicit false

namespace StatefulLexer

/-- A category: its name, and the names of everything it falls under. -/
structure Category where
  name : String
  ancestors : List String := []
deriving DecidableEq, Repr

namespace Category

/-- The names that belonging to a category brings with it, its own first. -/
def names (c : Category) : List String := c.name :: c.ancestors

/-- The names that belonging to several categories brings with it. Of equal
names the first is kept. -/
def flatten (cs : List Category) : List String := (cs.flatMap names).eraseDups

/-- A category under the given parents. Its ancestors are each parent followed by
that parent's ancestors. -/
def under (name : String) (parents : List Category) : Category :=
  { name, ancestors := flatten parents }

/-- The category is the other one or falls under it. -/
def isA (c other : Category) : Bool := c.names.contains other.name

/-- A category is written as its name. -/
def render (c : Category) : String := c.name

@[simp] theorem flatten_nil : flatten [] = [] := rfl

@[simp] theorem mem_names (c : Category) (name : String) :
    name ∈ c.names ↔ name = c.name ∨ name ∈ c.ancestors := by
  simp [names]

theorem isA_iff (c other : Category) : c.isA other = true ↔ other.name ∈ c.names := by
  simp [isA]

theorem isA_refl (c : Category) : c.isA c = true := by simp [isA_iff]

end Category

/-! ## Categories by name -/

/-- The categories that names stand for, latest first. -/
structure Taxonomy where
  declared : List Category := []
deriving DecidableEq, Repr

namespace Taxonomy

/-- The category that a name stands for. A name that was not declared stands for
a category without parents. -/
def category (t : Taxonomy) (name : String) : Category :=
  (t.declared.find? (·.name == name)).getD { name }

/-- One more category. It takes over its name; categories that were made under
an earlier one of that name stay as they are. -/
def declare (t : Taxonomy) (name : String) (parents : List String) : Taxonomy :=
  { declared := Category.under name (parents.map t.category) :: t.declared }

/-- Categories declared one after the other. -/
def ofList (entries : List (String × List String)) : Taxonomy :=
  entries.foldl (fun t (name, parents) => t.declare name parents) {}

end Taxonomy

end StatefulLexer
