import RenderTrace.Tracker.Change
import RenderTrace.Journal

/-!
# Messages of a tracker

What a tracker says, and through which channel it is heard: as a record of the journal, in memory,
or on a console. A remark that only changes left out were found is meant for the journal alone.
-/

namespace RenderTrace

/-- What a tracker says. -/
inductive Message where
  /-- The first call came, with these arguments. -/
  | entered (arguments : Arguments)
  /-- A call counted because of changed arguments. -/
  | recomposed (count : Nat)
  /-- The changes of that call. -/
  | changes (changes : List Change)
  /-- A call counted although no argument had changed. -/
  | unreflected (count : Nat)
  /-- A call did not count, because all changes are left out. -/
  | onlySkipped
  /-- The tracker ends, having seen these arguments last. -/
  | exited (arguments : Arguments)
  /-- A call came while the tracker was running. -/
  | reentered
  /-- The first rendering was committed while the tracker was running. -/
  | uncommitted
  /-- A text of somebody else on the channel for errors. -/
  | failure (text : String)
  deriving DecidableEq, Repr

namespace Message

/-- The record of a message of the tracker of this name. -/
def record (name : String) : Message → Record
  | entered a => ⟨.debug, .runtime, name ++ " enters composition, params: (" ++ a.text ++ ")"⟩
  | recomposed n => ⟨.debug, .runtime, name ++ " recomposed " ++ toString n ++ " times"⟩
  | changes cs => ⟨.debug, .runtime, "Changes:" ++ String.join (cs.map fun c => "\n••• " ++ c.text)⟩
  | unreflected n => ⟨.debug, .runtime, name ++ " recomposed " ++ toString n ++
      " times due to state not reflected in tracked parameters"⟩
  | onlySkipped => ⟨.trace, .tracker, name ++ ": only skipped arguments changed"⟩
  | exited a => ⟨.debug, .runtime, name ++ " exits composition, params: (" ++ a.text ++ ")"⟩
  | reentered => ⟨.error, .runtime, name ++ " re-entered its tracker while it was running"⟩
  | uncommitted => ⟨.error, .runtime, name ++ " was running when its first render was committed"⟩
  | failure t => ⟨.error, .runtime, t⟩

end Message

namespace Record

/-- Whether a record was spoken by a tracker, rather than about it. -/
def isSpoken (r : Record) : Bool := r.topic == .runtime

/-- The line that a record makes on a console. -/
def line (r : Record) : String := r.topic.path ++ ": " ++ r.message ++ "\n"

/-- The texts of one level. -/
def messagesOf (l : Level) (rs : List Record) : List String :=
  (rs.filter fun r => r.level == l).map (·.message)

/-- What a console shows of records that were spoken. -/
def consoleText (l : Level) (rs : List Record) : String :=
  String.join ((rs.filter fun r => r.isSpoken && r.level == l).map line)

end Record

end RenderTrace
