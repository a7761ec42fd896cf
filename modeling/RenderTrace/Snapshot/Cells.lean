import RenderTrace.Snapshot.Captured

/-!
# Shared cells

Cells hold a value that may change. A cell may have several handles; all of them see the same value.
-/

namespace RenderTrace

/-- Cells and the handles to them, both by number. -/
structure Cells where
  values : List Value := []
  /-- The cell of each handle. -/
  handles : List Nat := []
  deriving Repr, Inhabited

namespace Cells

/-- A new cell with its first handle. -/
def create (c : Cells) (v : Value) : Cells :=
  { values := c.values ++ [v], handles := c.handles ++ [c.values.length] }

/-- The value that a handle sees. -/
def get? (c : Cells) (handle : Nat) : Option Value := do c.values[← c.handles[handle]?]?

/-- Another handle to the cell of a handle. -/
def share? (c : Cells) (handle : Nat) : Option Cells := do
  return { c with handles := c.handles ++ [← c.handles[handle]?] }

/-- A new cell with the value that a handle sees. -/
def copy? (c : Cells) (handle : Nat) : Option Cells := return c.create (← c.get? handle)

/-- Changes the value that a handle sees. -/
def update? (c : Cells) (handle : Nat) (f : Value → Value) : Option Cells := do
  let at_ ← c.handles[handle]?
  return { c with values := c.values.modify at_ f }

/-- The values that the handles see, in the order of the handles. -/
def toList (c : Cells) : List Value := (List.range c.handles.length).filterMap c.get?

end Cells

end RenderTrace
