import RenderTrace.Snapshot.Value
import RenderTrace.Text.Sip

/-!
# Captured values

What a snapshot keeps of an argument: its text, and whether the value was read out of a reactive
wrapper. Values are compared by text alone; the hash is a short form of the text for messages.
-/

namespace RenderTrace

/-- A captured value. -/
structure Captured where
  text : String
  /-- Whether it is the current value of a reactive wrapper. -/
  reactive : Bool := false
  deriving DecidableEq, Repr, Inhabited

namespace Captured

/-- Captures a value. -/
def ofValue (v : Value) : Captured := ⟨v.text, false⟩

/-- Captures the current value of a reactive wrapper. -/
def ofCurrent (v : Value) : Captured := ⟨v.text, true⟩

/-- Stands in for a value without a text: the name of its type. -/
def ofType (name : String) : Captured := ⟨name, false⟩

/-- The short form of the text. -/
def hash (c : Captured) : UInt64 := Sip.hashText c.text

/-- Whether two values count as the same. -/
def same (a b : Captured) : Bool := a.text == b.text

/-- The debugging text of a captured value. -/
def debugText (c : Captured) : String :=
  Value.named "CapturedValue" [("text", Text.quoted c.text), ("hash", toString c.hash),
    ("reactive", if c.reactive then "true" else "false")]

/-! ### Values that may be absent -/

/-- The text of what may be absent. -/
def textOf (c : Option Captured) : String := (c.map (·.text)).getD "null"

/-- The hash of what may be absent. -/
def hashOf (c : Option Captured) : UInt64 := (c.map hash).getD 0

/-- Whether two values that may be absent count as the same. -/
def sameOf : Option Captured → Option Captured → Bool
  | some a, some b => a.same b
  | none, none => true
  | _, _ => false

/-- The debugging text of what may be absent. -/
def debugTextOf (c : Option Captured) : String :=
  match c with
  | some c => "Some(" ++ c.debugText ++ ")"
  | none => "None"

end Captured

end RenderTrace
