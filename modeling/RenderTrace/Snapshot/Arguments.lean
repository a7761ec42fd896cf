import RenderTrace.Snapshot.Captured

/-!
# Snapshots of arguments

The captured arguments of a call by the names of their parameters, in the order in which the names
were first stored. Storing a name again replaces its value and keeps its place.
-/

namespace RenderTrace

/-- A snapshot of arguments. -/
structure Arguments where
  entries : List (String × Option Captured) := []
  deriving DecidableEq, Repr, Inhabited

namespace Arguments

/-- The entries with one stored under `name`. -/
def store (name : String) (value : Option Captured) :
    List (String × Option Captured) → List (String × Option Captured)
  | [] => [(name, value)]
  | (k, v) :: rest => if k == name then (k, value) :: rest else (k, v) :: store name value rest

/-- Stores a value, which may be absent. -/
def push (a : Arguments) (name : String) (value : Option Captured) : Arguments :=
  ⟨store name value a.entries⟩

/-- The snapshot of a list of values. -/
def ofList (pairs : List (String × Option Captured)) : Arguments :=
  pairs.foldl (fun a (name, value) => a.push name value) {}

/-- Forgets everything that is stored. -/
def clear (a : Arguments) : Arguments := { a with entries := [] }

/-- Replaces what is stored by a copy of another snapshot. -/
def copyFrom (a other : Arguments) : Arguments := ⟨a.clear.entries ++ other.entries⟩

/-- What is stored under a name: nothing, an absent value, or a value. -/
def entry? (a : Arguments) (name : String) : Option (Option Captured) := a.entries.lookup name

/-- Whether something is stored under a name, be it an absent value. -/
def contains (a : Arguments) (name : String) : Bool := (a.entry? name).isSome

/-- The value under a name. -/
def value? (a : Arguments) (name : String) : Option Captured := (a.entry? name).join

/-- The number of names. -/
def size (a : Arguments) : Nat := a.entries.length

/-- The snapshot as messages show it. -/
def text (a : Arguments) : String :=
  if a.entries.isEmpty then "no arguments"
  else ", ".intercalate (a.entries.map fun (name, value) => name ++ ": " ++ Captured.textOf value)

/-- The debugging text of a snapshot. -/
def debugText (a : Arguments) : String :=
  Value.named "Arguments" [("entries", "[" ++ Value.commas (a.entries.map fun (name, value) =>
    Value.positional "" [Text.quoted name, Captured.debugTextOf value]) ++ "]")]

end Arguments

end RenderTrace
