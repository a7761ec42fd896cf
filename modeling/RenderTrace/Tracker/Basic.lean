import RenderTrace.Tracker.Message

/-!
# Trackers

A tracker watches the calls of one place. It keeps the snapshots of the last two calls in two
buffers that it uses in turn, and answers every call with what became of it.

* Until the first rendering was committed, calls are answered with `initial`.
* Afterwards a call *counts* if an argument changed that is not left out, or if none changed at all:
  in the latter case the cause must be a state that the arguments do not show.
* A call with changes that are all left out does not count.
-/

namespace RenderTrace

/-- Whether the first rendering was committed. -/
inductive Phase where
  | initial
  | steady
  deriving DecidableEq, Repr, Inhabited

/-- The answer to a call. -/
inductive Outcome where
  /-- Tracking is switched off. -/
  | disabled
  | initial
  /-- Arguments changed; this was counted call `count`. -/
  | changed (count : Nat) (changes : List Change)
  /-- No argument changed; this was counted call `count`. -/
  | unreflected (count : Nat)
  /-- All changes are left out. -/
  | suppressed (changes : List Change)
  /-- The tracker was running already. -/
  | reentered
  deriving DecidableEq, Repr

/-- A tracker. -/
structure Tracker where
  name : String
  first : Arguments := {}
  second : Arguments := {}
  /-- Whether the second buffer holds the snapshot of the last call. -/
  atSecond : Bool := false
  phase : Phase := .initial
  /-- Whether there was a call. -/
  entered : Bool := false
  /-- How many calls counted. -/
  logged : Nat := 0
  deriving DecidableEq, Repr, Inhabited

namespace Tracker

/-- One of the two buffers. -/
def buffer (t : Tracker) (second : Bool) : Arguments := if second then t.second else t.first

/-- The snapshot of the last call. -/
def last (t : Tracker) : Arguments := t.buffer t.atSecond

/-- Turns to the other buffer. -/
def turn (t : Tracker) : Tracker := { t with atSecond := !t.atSecond }

/-- Copies a snapshot into the buffer whose turn it is. -/
def fill (t : Tracker) (a : Arguments) : Tracker :=
  if t.atSecond then { t with second := t.second.copyFrom a }
  else { t with first := t.first.copyFrom a }

/-- Stores a snapshot in the other buffer and compares it with the previous one. -/
def advance (t : Tracker) (a : Arguments) (skipped : List String) : Tracker × Diff :=
  let filled := t.turn.fill a
  (filled, Diff.between (filled.buffer t.atSecond) filled.last skipped)

/-- What becomes of a call of which this was found. -/
def classify (phase : Phase) (logged : Nat) (d : Diff) : Outcome :=
  match phase with
  | .initial => .initial
  | .steady =>
    if d.hasSignificant then .changed (logged + 1) (d.changes.filter (!·.skipped))
    else if !d.hasAny then .unreflected (logged + 1)
    else .suppressed d.changes

/-- The count after a call. -/
def countAfter (logged : Nat) : Outcome → Nat
  | .changed n _ => n
  | .unreflected n => n
  | _ => logged

/-- What is said about a call. -/
def saidAbout : Outcome → List Message
  | .changed n cs => [.recomposed n, .changes cs]
  | .unreflected n => [.unreflected n]
  | .suppressed _ => [.onlySkipped]
  | _ => []

/-- A call with these arguments, of which `skipped` are left out: the tracker afterwards, the
answer, and what is said. -/
def recompose (t : Tracker) (a : Arguments) (skipped : List String) :
    Tracker × Outcome × List Message :=
  let greeting := if t.entered then [] else [.entered a]
  let (t, d) := { t with entered := true }.advance a skipped
  let outcome := classify t.phase t.logged d
  ({ t with logged := countAfter t.logged outcome }, outcome, greeting ++ saidAbout outcome)

/-- The first rendering was committed. -/
def commit (t : Tracker) : Tracker := { t with phase := .steady }

/-- A call that is committed at once. -/
def track (t : Tracker) (a : Arguments) (skipped : List String) :
    Tracker × Outcome × List Message :=
  let (t, outcome, said) := t.recompose a skipped
  (t.commit, outcome, said)

/-- The end of a tracker. -/
def close (t : Tracker) : List Message := [.exited t.last]

/-- The debugging text of a tracker. -/
def debugText (t : Tracker) : String :=
  Value.named "TrackerInstance" [("name", Text.quoted t.name),
    ("state", Value.named "TrackerState"
      [("buffers", "[" ++ t.first.debugText ++ ", " ++ t.second.debugText ++ "]"),
        ("current", if t.atSecond then "1" else "0"),
        ("phase", match t.phase with
          | .initial => "Initial"
          | .steady => "Steady"),
        ("entered", if t.entered then "true" else "false"), ("logged_changes", toString t.logged)])]

end Tracker

end RenderTrace
