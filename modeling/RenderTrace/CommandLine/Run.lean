import RenderTrace.CommandLine.Directory
import RenderTrace.CommandLine.Request
import RenderTrace.Layout.Unit
import RenderTrace.Pipeline

/-!
# Runs of the program

A run has three parts: the arguments are read, the request is performed on what its files say
(`Request.perform`), and what comes of it is delivered: a text to a file or to the standard output.
Only the last part leaves a trace, and it is reached only if nothing failed before.
-/

namespace RenderTrace.CommandLine

/-- Why a run fails. -/
inductive Trouble where
  /-- The arguments are not understood. -/
  | usage
  /-- A file cannot be read. -/
  | unreadable (path : String)
  /-- A file cannot be written. -/
  | unwritable (path : String)
  /-- A report has no such format. -/
  | format (name : String)
  /-- The unit or the options are at fault. -/
  | failure (f : Failure)
  deriving DecidableEq, Repr

namespace Trouble

/-- What is said about trouble. -/
def message : Trouble → String
  | usage => "the arguments are not understood; try --help"
  | unreadable path => "Failed to read " ++ path
  | unwritable path => "Failed to write " ++ path
  | format name => "Invalid configuration: unknown format " ++ name ++ " (expected json or text)"
  | failure f => f.message

/-- The exit code for trouble. -/
def code : Trouble → Nat
  | usage => 2
  | failure (.breakdown _) => 101
  | _ => 1

end Trouble

/-- What comes of a request. -/
structure Product where
  /-- The text asked for. -/
  text : String
  /-- The file that it goes to; none for the standard output. -/
  target : Option String
  /-- What is said on the standard output once the file is written. -/
  notice : String
  /-- What is said on the way. -/
  warnings : List String
  deriving DecidableEq, Repr

namespace Request

/-- The text of a file. -/
def readFile (read : String → Option String) (path : String) : Except Trouble String :=
  match read path with
  | some text => .ok text
  | none => .error (.unreadable path)

/-- The options of a request: those of its file, with those of the command line in their place. -/
def options (r : Request) (read : String → Option String) : Except Trouble Options := do
  let text ← match r.value? "config" with
    | some path => some <$> readFile read path
    | none => pure none
  return r.override (← (readOptions text).mapError .failure)

/-- The text of a report. -/
def reportText (format : String) (report : Report) : Except Trouble String :=
  if format == "json" then .ok (report.toJson.pretty 0)
  else if format == "text" then .ok report.toText
  else .error (.format format)

/-- The files that a request reads. -/
def reads (r : Request) : List String := (r.value? "config").toList ++ [r.input]

/-- Performs a request on what files say. -/
def perform (r : Request) (read : String → Option String) : Except Trouble Product := do
  let o ← r.options read
  let source ← readFile read r.input
  match r.command with
  | .instrument =>
    let out ← (instrumentSource Syntax.SourceUnit.layout? o r.input source).result.mapError .failure
    return ⟨out.source, r.ownValue?, "", out.report.warnings⟩
  | .analyze =>
    let report ← (analyzeSource o r.input source).mapError .failure
    return ⟨← reportText (r.ownValue?.getD "") report, none, "", []⟩
  | .graph =>
    let dot ← (graphOfSource o source).mapError .failure
    let notice := match r.ownValue? with
      | some path => "DOT file written to: " ++ path ++ "\n"
      | none => ""
    return ⟨dot, r.ownValue?, notice, []⟩

end Request

/-- A text as it goes to the standard output: it ends its line. -/
def lineEnded (text : String) : String :=
  if text.endsWith "\n" then text else text ++ "\n"

namespace Product

/-- What goes to the standard output. -/
def output (p : Product) : String :=
  if p.target.isSome then p.notice else lineEnded p.text

/-- What goes to the standard error output. -/
def said (p : Product) : String :=
  String.join (p.warnings.map fun w => "warning: " ++ w ++ "\n")

end Product

/-- How a run ends, and the files that it leaves. -/
structure Outcome where
  code : Nat
  output : String
  said : String
  directory : Directory
  deriving DecidableEq, Repr

namespace Outcome

/-- A run that fails leaves all files as they were. -/
def failed (d : Directory) (t : Trouble) : Outcome := ⟨t.code, "", t.message ++ "\n", d⟩

/-- Delivers what came of a request. -/
def deliver (d : Directory) (p : Product) : Outcome :=
  match p.target with
  | none => ⟨0, p.output, p.said, d⟩
  | some path =>
    match d.write? path p.text with
    | some d => ⟨0, p.output, p.said, d⟩
    | none => failed d (.unwritable path)

end Outcome

/-- A run with its arguments in a directory. -/
def run (args : List String) (d : Directory) : Outcome :=
  match Wish.ofArguments args with
  | .explain text => ⟨0, text, "", d⟩
  | .refused => .failed d .usage
  | .perform r =>
    match r.perform d.read? with
    | .error t => .failed d t
    | .ok p => .deliver d p

end RenderTrace.CommandLine
