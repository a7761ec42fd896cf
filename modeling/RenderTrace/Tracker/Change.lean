import RenderTrace.Snapshot.Arguments

/-!
# Changes between snapshots

A change is a name that two snapshots share and whose values differ. A name that only one of them
has is none.
-/

namespace RenderTrace

/-- A change of an argument. -/
structure Change where
  name : String
  previous : Option Captured
  current : Option Captured
  /-- Whether the parameter is left out of the comparison. -/
  skipped : Bool
  deriving DecidableEq, Repr, Inhabited

namespace Change

/-- Whether the change is one of a reactive value: the current one decides, or else the previous. -/
def isReactive (c : Change) : Bool :=
  match c.current, c.previous with
  | some v, _ => v.reactive
  | none, some v => v.reactive
  | none, none => false

/-- A value with its hash. -/
def valueText (v : Option Captured) : String :=
  Captured.textOf v ++ " (" ++ toString (Captured.hashOf v) ++ ")"

/-- A change as messages show it. -/
def text (c : Change) : String :=
  c.name ++ ": " ++ (if c.isReactive then "(State) " else "") ++ valueText c.previous ++ " → " ++
    valueText c.current

end Change

/-- What a comparison of two snapshots found. -/
structure Diff where
  /-- Whether anything changed. -/
  hasAny : Bool := false
  /-- Whether anything changed that is not left out. -/
  hasSignificant : Bool := false
  changes : List Change := []
  deriving DecidableEq, Repr, Inhabited

namespace Diff

/-- Compares an entry with what the previous snapshot has under its name. -/
def compare (previous : Arguments) (skipped : List String) (d : Diff)
    (entry : String × Option Captured) : Diff :=
  let (name, value) := entry
  match previous.entry? name with
  | none => d
  | some old =>
    if Captured.sameOf old value then d
    else
      let isSkipped := skipped.contains name
      { hasAny := true
        hasSignificant := d.hasSignificant || !isSkipped
        changes := d.changes ++
          [{ name, previous := old, current := value, skipped := isSkipped }] }

/-- Compares the entries of a snapshot with a previous one, in their order. -/
def between (previous current : Arguments) (skipped : List String) : Diff :=
  current.entries.foldl (compare previous skipped) {}

end Diff

end RenderTrace
