import RenderTrace.Journal

/-!
# The closure of tracked functions

Functions that are tracked explicitly are *seeds* and always members. A seed that includes nested
functions brings in every function that can be reached from it through references, as long as all
functions on the way may be included.

`ClosureSet.compute` reads the references breadth first. The seeds come first in the order of their
numbers, then the functions that were reached, in the order in which they were.
-/

namespace RenderTrace

/-- What the closure asks of a function. -/
structure Candidate where
  id : Nat
  /-- The functions that it refers to. -/
  callees : List Nat := []
  /-- Whether it asks to be tracked. -/
  tracked : Bool := false
  /-- Whether it asks for the functions it refers to. -/
  nested : Bool := false
  /-- Whether it must not be brought in by others. -/
  skipped : Bool := false
  /-- Whether it is a render function. -/
  render : Bool := true
  hasBody : Bool := true
  deriving DecidableEq, Repr, Inhabited

namespace Candidate

/-- A tracked render function with a body. -/
def isSeed (c : Candidate) : Bool := c.tracked && c.render && c.hasBody

/-- Whether a function may be brought in by others. -/
def isIncludable (c : Candidate) : Bool := c.render && c.hasBody && !c.skipped

end Candidate

/-- A set of functions in the order of insertion. -/
structure ClosureSet where
  order : List Nat := []
  deriving DecidableEq, Repr, Inhabited

namespace ClosureSet

/-- Whether a function is a member. -/
def contains (s : ClosureSet) (id : Nat) : Bool := s.order.contains id

/-- The set with a function, and whether it is new. -/
def insert (s : ClosureSet) (id : Nat) : ClosureSet × Bool :=
  if s.contains id then (s, false) else (⟨s.order ++ [id]⟩, true)

/-- What happens while a closure is computed. -/
inductive Event where
  /-- A seed is a member although it must not be brought in by others. -/
  | explicitly (id : Nat)
  /-- A function is brought in. -/
  | included (target through : Nat)
  /-- A function may not be brought in. -/
  | refused (target from_ : Nat)
  deriving DecidableEq, Repr

/-- The state of the search: the members, the functions whose references are still to be read, those
whose references were read, and what happened. -/
structure Search where
  members : ClosureSet
  queue : List Nat
  visited : List Nat
  events : List Event

/-- The search before the first step: the seeds are members, and those that include nested functions
are to be read. -/
def Search.start (candidates : List Candidate) : Search :=
  let seeds := candidates.filter (·.isSeed)
  { members := seeds.foldl (fun s c => (s.insert c.id).1) {}
    queue := (seeds.filter (·.nested)).map (·.id)
    visited := []
    events := (seeds.filter (·.skipped)).map fun c => .explicitly c.id }

/-- Follows one reference of `current`. -/
def Search.follow (candidates : List Candidate) (current : Nat) (s : Search) (callee : Nat) :
    Search :=
  match candidates[callee]? with
  | none => s
  | some target =>
    if !target.isIncludable then { s with events := s.events ++ [.refused callee current] }
    else
      let (members, isNew) := s.members.insert callee
      { s with
        members
        queue := s.queue ++ [callee]
        events := s.events ++ if isNew then [.included callee current] else [] }

/-- Reads the references of the first function of the queue, unless they were read before. -/
def Search.step (candidates : List Candidate) (current : Nat) (rest : List Nat) (s : Search) :
    Search :=
  if s.visited.contains current then { s with queue := rest }
  else
    let s := { s with queue := rest, visited := current :: s.visited }
    match candidates[current]? with
    | none => s
    | some c => c.callees.foldl (Search.follow candidates current) s

/-- Searches until the queue is empty, at most `fuel` steps. -/
def Search.run (candidates : List Candidate) : Nat → Search → Search
  | 0, s => s
  | fuel + 1, s =>
    match s.queue with
    | [] => s
    | current :: rest => Search.run candidates fuel (s.step candidates current rest)

/-- The number of steps that are enough: every function enters the queue as a seed or through one of
the references, and each reference is followed once. -/
def enoughSteps (candidates : List Candidate) : Nat :=
  candidates.length + (candidates.map (·.callees.length)).foldr (· + ·) 0 + 1

/-- The whole search. -/
def search (candidates : List Candidate) : Search :=
  Search.run candidates (enoughSteps candidates) (.start candidates)

/-- The closure of the tracked functions. The candidates stand at the positions that their numbers
say. -/
def compute (candidates : List Candidate) : ClosureSet := (search candidates).members

/-- What an event is recorded as, given the names of the functions. -/
def Event.record (name : Nat → String) : Event → Record
  | .explicitly id => ⟨.debug, .closure,
      name id ++ " is tracked explicitly; skip marker only blocks nested inclusion"⟩
  | .included target through =>
    ⟨.debug, .closure, name target ++ " included through " ++ name through⟩
  | .refused target from_ =>
    ⟨.debug, .closure, name target ++ " not included from " ++ name from_⟩

end ClosureSet

end RenderTrace
