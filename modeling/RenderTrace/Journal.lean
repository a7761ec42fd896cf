/-!
# The journal

What the program says about its own work, apart from its results: records with a level, the part of
the program that speaks, and a text. Every part lists its records in the order in which things
happened.
-/

namespace RenderTrace

/-- How important a record is. -/
inductive Level where
  | trace
  | debug
  | info
  | warn
  | error
  deriving DecidableEq, Repr

/-- The level as records show it. -/
def Level.name : Level → String
  | trace => "trace"
  | debug => "debug"
  | info => "info"
  | warn => "warn"
  | error => "error"

/-- The parts of the program that speak. -/
inductive Topic where
  | engine
  | analysis
  | declarations
  | annotations
  | callGraph
  | closure
  | instrument
  | tracker
  | runtime
  deriving DecidableEq, Repr

/-- The path under which records of a topic are filed. -/
def Topic.path : Topic → String
  | engine => "recomp_tracker::engine"
  | analysis => "recomp_tracker::analysis"
  | declarations => "recomp_tracker::analysis::declarations"
  | annotations => "recomp_tracker::analysis::annotations"
  | callGraph => "recomp_tracker::analysis::call_graph"
  | closure => "recomp_tracker::analysis::closure"
  | instrument => "recomp_tracker::instrument"
  | tracker => "recomp_tracker::runtime::tracker"
  | runtime => "RecompositionTracker"

/-- A record of the journal. -/
structure Record where
  level : Level
  topic : Topic
  message : String
  deriving DecidableEq, Repr

end RenderTrace
