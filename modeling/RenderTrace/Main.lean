import RenderTrace.CommandLine.Run

/-!
# The command line program

The outer layer: files are read and written, and texts are printed. What a run does is decided by
`RenderTrace.CommandLine`.
-/

namespace RenderTrace.CommandLine

/-- The text of a file, if it can be read. -/
def readText? (path : String) : IO (Option String) := do
  try return some (← IO.FS.readFile path)
  catch _ => return none

/-- Says what the trouble is. -/
def fail (t : Trouble) : IO UInt32 := do
  IO.eprintln t.message
  return t.code.toUInt32

/-- Delivers what came of a request. -/
def deliver (p : Product) : IO UInt32 := do
  IO.eprint p.said
  match p.target with
  | some path =>
    try IO.FS.writeFile path p.text
    catch _ => return ← fail (.unwritable path)
  | none => pure ()
  IO.print p.output
  return 0

end RenderTrace.CommandLine

open RenderTrace.CommandLine in
/-- Runs the program with its arguments. -/
def main (args : List String) : IO UInt32 := do
  match Wish.ofArguments args with
  | .explain text =>
    IO.print text
    return 0
  | .refused => fail .usage
  | .perform r =>
    let texts ← r.reads.mapM fun path => do return (path, ← readText? path)
    match r.perform fun path => (texts.lookup path).join with
    | .error t => fail t
    | .ok p => deliver p
