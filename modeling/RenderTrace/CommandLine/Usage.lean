/-!
# Commands and their options

The commands of the program are described by data: what each is for, which options it takes, and
what the options want. Reading arguments (`CommandLine/Request`) and explaining them
(`Command.help`) both go by this description, so what is explained is what is accepted.
-/

namespace RenderTrace.CommandLine

/-- What an option wants behind its name. -/
inductive Want where
  /-- Nothing: the option is a switch. -/
  | nothing
  /-- The path of a file, which is not empty. -/
  | path
  /-- Any text. -/
  | text
  deriving DecidableEq, Repr

/-- An option. -/
structure Flag where
  /-- Its name, without the dashes. -/
  name : String
  /-- Its one-letter name. -/
  letter : Option Char := none
  /-- What it wants. -/
  want : Want := .text
  /-- What it is for. -/
  purpose : String
  /-- The value that it has if it is not given. -/
  default? : Option String := none
  deriving DecidableEq, Repr

/-- The commands. -/
inductive Command where
  | instrument
  | analyze
  | graph
  deriving DecidableEq, Repr

/-- The name of the program. -/
def programName : String := "recomp-tracker"

/-- The version of the program. -/
def programVersion : String := "0.1.0"

/-- What the program is for. -/
def programPurpose : String :=
  "Recomposition tracking instrumentation for reactive render functions"

/-- The options that every command takes. -/
def sharedFlags : List Flag :=
  [{ name := "config", want := .path, purpose := "JSON configuration file" },
    { name := "skip-inline", want := .nothing,
      purpose := "Treat #[inline] render functions as plain functions" },
    { name := "disable", want := .nothing, purpose := "Leave the unit untouched" },
    { name := "module", purpose := "Module path prepended to qualified names" },
    { name := "host-context", purpose := "Name of the host-context parameter" },
    { name := "runtime-path",
      purpose := "Path of the runtime module injected calls refer to" },
    { name := "file-label", purpose := "Scope label for file-level declarations" }]

namespace Command

/-- All commands. -/
def all : List Command := [instrument, analyze, graph]

/-- The name of a command. -/
def name : Command → String
  | instrument => "instrument"
  | analyze => "analyze"
  | graph => "graph"

/-- What a command is for. -/
def purpose : Command → String
  | instrument => "Inject tracker calls into a source file"
  | analyze => "Report declarations, call edges and the instrumentation closure"
  | graph => "Export the render-function call graph"

/-- The option that a command has for itself. -/
def ownFlag : Command → Flag
  | instrument =>
    { name := "output", letter := some 'o', want := .path,
      purpose := "Output file (defaults to stdout)" }
  | analyze =>
    { name := "format", letter := some 'f', purpose := "Output format (json, text)",
      default? := some "json" }
  | graph =>
    { name := "dot", letter := some 'd', want := .path,
      purpose := "Output DOT file (defaults to stdout)" }

/-- The options of a command. -/
def flags (c : Command) : List Flag := c.ownFlag :: sharedFlags

/-- The command of a name. -/
def ofName? (n : String) : Option Command := all.find? (·.name == n)

end Command

/-! ### Explanations -/

/-- An entry of a list: what is explained, and the explanation. -/
abbrev Entry := String × String

/-- The lines of a list, with the explanations below each other. -/
def entries (title : String) (es : List Entry) : String :=
  let width := (es.map (·.1.length)).foldl max 0
  title ++ ":\n" ++ String.join (es.map fun (what, why) =>
    "  " ++ what ++ "".pushn ' ' (width - what.length + 2) ++ why ++ "\n")

/-- How an option is spelled in an explanation. -/
def Flag.spelling (f : Flag) : String :=
  let short := match f.letter with
    | some c => "-" ++ c.toString ++ ", "
    | none => "    "
  let value := match f.want with
    | .nothing => ""
    | _ =>
      " <" ++ String.ofList (f.name.toList.map fun c => if c == '-' then '_' else c.toUpper) ++ ">"
  short ++ "--" ++ f.name ++ value

/-- What an option is for, and its default. -/
def Flag.explanation (f : Flag) : Entry :=
  (f.spelling, f.purpose ++ match f.default? with
    | some d => " [default: " ++ d ++ "]"
    | none => "")

/-- The option that asks for an explanation. -/
def helpFlag : Flag :=
  { name := "help", letter := some 'h', want := .nothing, purpose := "Print help" }

/-- The option that asks for the version. -/
def versionFlag : Flag :=
  { name := "version", letter := some 'V', want := .nothing, purpose := "Print version" }

/-- The word that asks for an explanation of what follows it. -/
def helpWord : String := "help"

/-- What that word is for. -/
def helpPurpose : String := "Print this message or the help of the given subcommand(s)"

/-- An explanation: what is explained, how it is called, and lists. -/
def explanation (purpose call : String) (lists : List String) : String :=
  purpose ++ "\n\nUsage: " ++ programName ++ " " ++ call ++ "\n\n" ++ "\n".intercalate lists

/-- The explanation of a command. -/
def Command.help (c : Command) : String :=
  explanation c.purpose (c.name ++ " [OPTIONS] <INPUT>")
    [entries "Arguments" [("<INPUT>", "Input Rust source file")],
      entries "Options" ((c.flags ++ [helpFlag]).map Flag.explanation)]

/-- The explanation of the program. -/
def programHelp : String :=
  explanation programPurpose "<COMMAND>"
    [entries "Commands"
        ((Command.all.map fun c => (c.name, c.purpose)) ++ [(helpWord, helpPurpose)]),
      entries "Options" ([helpFlag, versionFlag].map Flag.explanation)]

/-- The explanation of the word that asks for explanations. -/
def helpHelp : String :=
  explanation helpPurpose (helpWord ++ " [COMMAND]...")
    [entries "Arguments" [("[COMMAND]...", "Print help for the subcommand(s)")]]

/-- What the program says about its version. -/
def versionLine : String := programName ++ " " ++ programVersion ++ "\n"

end RenderTrace.CommandLine
