import RenderTrace.Tracker.Basic

/-!
# Hosts of trackers

A host gives every call site a slot by its position: the first site of a rendering gets the first
slot, and so on. A slot keeps a tracker from one rendering to the next. The first calls of a tracker
are committed by an effect that runs after the rendering.

A tracker has a number that no other tracker of the host ever gets. It lives as long as a slot, a
pending effect or a holder refers to it, and its last word comes when nothing does any more. What is
said is kept with the number of the tracker; the records show the name only.
-/

namespace RenderTrace

/-- What a slot keeps. -/
inductive Slot where
  | tracker (number : Nat)
  /-- Something that is no tracker. -/
  | other
  deriving DecidableEq, Repr, Inhabited

/-- A commit to be made: of which tracker, asked for by a call of which name. -/
structure PendingCommit where
  number : Nat
  name : String
  deriving DecidableEq, Repr, Inhabited

/-- What a tracker said, or what was said about it. -/
structure Remark where
  /-- The number of the tracker. -/
  number : Nat
  /-- In whose name it was said. -/
  name : String
  message : Message
  deriving DecidableEq, Repr

/-- The record of a remark. -/
def Remark.record (r : Remark) : Record := r.message.record r.name

/-- A use of a call site. -/
inductive SiteUse where
  /-- A tracker call. -/
  | call (name : String) (arguments : Arguments) (skipped : List String)
  /-- A site that keeps something else. -/
  | other
  deriving DecidableEq, Repr, Inhabited

/-- A host. -/
structure Host where
  /-- Whether tracking is switched on. -/
  enabled : Bool := true
  /-- All trackers that there ever were, by number. -/
  trackers : List Tracker := []
  slots : List Slot := []
  /-- The position of the next call site. -/
  cursor : Nat := 0
  /-- The commits to be made after the rendering. -/
  effects : List PendingCommit := []
  /-- The trackers that somebody holds: they can neither be called nor committed. -/
  held : List Nat := []
  /-- What was said, in order. -/
  said : List Remark := []
  deriving DecidableEq, Repr, Inhabited

namespace Host

/-- Whether something refers to a tracker. -/
def refersTo (h : Host) (number : Nat) : Bool :=
  h.slots.contains (.tracker number) || h.effects.any (·.number == number) ||
    h.held.contains number

/-- Says something of a tracker, in this name. -/
def say (h : Host) (number : Nat) (name : String) (ms : List Message) : Host :=
  { h with said := h.said ++ ms.map fun m => ⟨number, name, m⟩ }

/-- Ends a tracker if nothing refers to it any more. -/
def release (h : Host) (number : Nat) : Host :=
  if h.refersTo number then h
  else match h.trackers[number]? with
    | some t => h.say number t.name t.close
    | none => h

/-- Ends what a slot kept, if nothing else refers to it. -/
def releaseSlot (h : Host) : Slot → Host
  | .tracker number => h.release number
  | .other => h

/-- Keeps something in the slot at a position, behind the last slot if there is none. -/
def keep (h : Host) (position : Nat) (s : Slot) : Host :=
  match h.slots[position]? with
  | some old => { h with slots := h.slots.set position s }.releaseSlot old
  | none => { h with slots := h.slots ++ [s] }

/-- Moves on to the next call site. -/
def advance (h : Host) : Host := { h with cursor := h.cursor + 1 }

/-- The tracker of the current call site; a new one of this name if the site has none. -/
def claim (h : Host) (name : String) : Host × Nat :=
  match h.slots[h.cursor]? with
  | some (.tracker number) => (h.advance, number)
  | _ =>
    let number := h.trackers.length
    let added := { h with trackers := h.trackers ++ [({ name := name } : Tracker)] }
    ((added.keep h.cursor (.tracker number)).advance, number)

/-- Claims the current call site for something that is no tracker. -/
def claimOther (h : Host) : Host :=
  match h.slots[h.cursor]? with
  | some .other => h.advance
  | _ => (h.keep h.cursor .other).advance

/-- Asks for a commit after the rendering, if a call was answered with `initial`. -/
def schedule (h : Host) (number : Nat) (name : String) : Outcome → Host
  | .initial => { h with effects := h.effects ++ [⟨number, name⟩] }
  | _ => h

/-- A call of a tracker that is not held. -/
def recompose (h : Host) (number : Nat) (name : String) (a : Arguments) (skipped : List String) :
    Host × Outcome :=
  let (t, outcome, said) := (h.trackers.getD number default).recompose a skipped
  (({ h with trackers := h.trackers.set number t }.say number t.name said).schedule number name
    outcome, outcome)

/-- A call of a tracker. -/
def callOn (h : Host) (number : Nat) (name : String) (a : Arguments) (skipped : List String) :
    Host × Outcome :=
  if h.held.contains number then (h.say number name [.reentered], .reentered)
  else h.recompose number name a skipped

/-- A tracker call. -/
def call (h : Host) (name : String) (a : Arguments) (skipped : List String) : Host × Outcome :=
  if !h.enabled then (h, .disabled)
  else
    let (h, number) := h.claim name
    h.callOn number name a skipped

/-- The next use of a call site: the host afterwards, and the answers so far with its answer. -/
def useSite : Host × List Outcome → SiteUse → Host × List Outcome
  | (h, answers), .call name a skipped =>
    let (h, answer) := h.call name a skipped
    (h, answers ++ [answer])
  | (h, answers), .other => (h.claimOther, answers)

/-- Uses call sites from a position on. -/
def renderFrom (h : Host) (position : Nat) (uses : List SiteUse) : Host × List Outcome :=
  uses.foldl useSite ({ h with cursor := position }, [])

/-- Makes a commit. -/
def commit (h : Host) (c : PendingCommit) : Host :=
  if h.held.contains c.number then h.say c.number c.name [.uncommitted]
  else { h with trackers := h.trackers.modify c.number Tracker.commit }

/-- Makes the pending commit at a position, if there is one. -/
def runEffect (h : Host) (i : Nat) : Host :=
  match h.effects[i]? with
  | some c => ({ h with effects := h.effects.eraseIdx i }.commit c).release c.number
  | none => h

/-- Makes all pending commits, each time the first that is left. -/
def runEffects (h : Host) : Host := h.effects.foldl (fun h _ => h.runEffect 0) h

/-- Gives up all slots but the first `n`. -/
def truncate (h : Host) (n : Nat) : Host :=
  (h.slots.drop n).foldl releaseSlot { h with slots := h.slots.take n }

/-- A whole rendering: slots that were not claimed are given up, and commits are made. -/
def compose (h : Host) (uses : List SiteUse) : Host × List Outcome :=
  let (h, answers) := h.renderFrom 0 uses
  ((h.truncate h.cursor).runEffects, answers)

/-- Gives up all slots. -/
def dispose (h : Host) : Host := h.truncate 0

/-- Forgets the commit at the head of the pending ones. -/
def forgetEffect (h : Host) (c : PendingCommit) : Host :=
  { h with effects := h.effects.tail }.release c.number

/-- The end of a host: slots first, then the pending commits, which are not made. -/
def close (h : Host) : Host :=
  let h := h.dispose
  h.effects.foldl forgetEffect h

/-- Lets somebody hold a tracker, if it still lives. -/
def holdTracker (h : Host) (number : Nat) : Host :=
  if h.refersTo number then { h with held := h.held ++ [number] } else h

/-- Lets somebody hold the tracker of a slot. -/
def hold (h : Host) (position : Nat) : Host :=
  match h.slots[position]? with
  | some (.tracker number) => h.holdTracker number
  | _ => h

/-- Lets go of the tracker at a position among those that are held, if there is one. -/
def letGoAt (h : Host) (i : Nat) : Host :=
  match h.held[i]? with
  | some number => { h with held := h.held.eraseIdx i }.release number
  | none => h

/-- Lets go of all that is held. -/
def letGo (h : Host) : Host := h.held.foldl (fun h _ => h.letGoAt 0) h

/-- The records of what was said. -/
def records (h : Host) : List Record := h.said.map Remark.record

end Host

end RenderTrace
