import RenderTrace.Injection.Weaving
import RenderTrace.Options.Document
import RenderTrace.Report

/-!
# From source to source

The whole way of a unit: parsed, analysed, instrumented and laid out again. The layout is a
parameter, so that what is said about the way holds for every layout.

A unit is laid out again only if a function was instrumented; otherwise the text stays as it is.
-/

namespace RenderTrace

open Syntax

/-- Why a run fails. -/
inductive Failure where
  /-- The options cannot be read. -/
  | config (e : DocumentError)
  /-- The text is no unit: what is wrong, how many bytes stand before the place, and how many it
  takes. -/
  | parse (e : SyntaxError) (offset length : Nat)
  /-- A tracker call could not be put in, or the unit not be laid out. -/
  | breakdown (b : Breakdown)
  deriving DecidableEq, Repr

namespace Failure

/-- The description of a failure. -/
def message : Failure → String
  | config e => "Invalid configuration: " ++ e.message
  | parse e _ _ => "Failed to parse compilation unit: " ++ e.message
  | breakdown _ => "instrumentation broke off"

end Failure

/-- The unit that a text holds. -/
def parseUnit (source : String) : Except Failure SourceUnit :=
  (SourceUnit.parse source).mapError fun e =>
    let (offset, length) := e.span.bytes source
    .parse e offset length

/-- The options that a text describes; no text describes the defaults. -/
def readOptions : Option String → Except Failure Options
  | none => .ok {}
  | some text => (Options.ofText text).mapError .config

/-- The report about a unit that is only analysed. -/
def analyzeSource (o : Options) (name source : String) : Except Failure Report := do
  let u ← parseUnit source
  return .ofAnalysis name (.run o u) []

/-- The graph of a unit as text. -/
def graphOfSource (o : Options) (source : String) : Except Failure String := do
  let u ← parseUnit source
  return (Analysis.run o u).dot

/-- A unit after instrumentation, what is reported, and what was said. -/
structure UnitOutcome where
  unit : SourceUnit
  report : Report
  records : List Record
  deriving Inhabited

/-- Instruments a unit. Options that allow no instrumentation leave it as it is and make a
warning. -/
def instrumentUnit (o : Options) (name : String) (u : SourceUnit) : Except Breakdown UnitOutcome :=
  if !o.enabled then .ok ⟨u, .disabled name, []⟩
  else
    let a := Analysis.run o u
    match Injector.ofOptions o with
    | .error why =>
      .ok ⟨u, (Report.ofAnalysis name a []).warn [why.message],
        a.records ++ [⟨.warn, .engine, why.message⟩]⟩
    | .ok injector => do
      let (_, woven, s) ← injector.apply a u
      return ⟨woven, (Report.ofAnalysis name a s.instrumented).warn s.warnings,
        a.records ++ s.records⟩

/-- A text and what is reported about it. -/
structure SourceOutcome where
  source : String
  report : Report
  deriving DecidableEq, Repr, Inhabited

/-- A run over a text: how it ends, and what was said. -/
structure SourceRun where
  result : Except Failure SourceOutcome
  records : List Record

/-- What is said at the start of a run. -/
def startRecord (o : Options) (name : String) : Record :=
  ⟨.info, .engine, "Instrumenting " ++ name ++ " (enabled=" ++ Index.showBool o.enabled ++
    ", skip_inline=" ++ Index.showBool o.skipInline ++ ")"⟩

/-- Instruments a text, laid out by `layout`, which gives nothing for a unit that has no layout. -/
def instrumentSource (layout : SourceUnit → Option String) (o : Options)
    (name source : String) : SourceRun :=
  let start := [startRecord o name]
  if !o.enabled then ⟨.ok ⟨source, .disabled name⟩, start⟩
  else
    match parseUnit source with
    | .error e => ⟨.error e, start⟩
    | .ok u =>
      match instrumentUnit o name u with
      | .error b => ⟨.error (.breakdown b), start⟩
      | .ok done =>
        let result :=
          if done.report.instrumented.isEmpty then .ok ⟨source, done.report⟩
          else
            match layout done.unit with
            | none => .error (.breakdown .layout)
            | some text => .ok ⟨text, done.report⟩
        ⟨result, start ++ done.records⟩

end RenderTrace
