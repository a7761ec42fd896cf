import RenderTrace.CommandLine.Usage
import RenderTrace.Options

/-!
# What the arguments ask for

Arguments are read from left to right, and the first one that decides settles the matter: an option
that asks for an explanation ends the reading, and so does an argument that is not understood.
Behind `--` there are no options. No option may be given twice. The value of an option stands behind
its name as the next argument or joined by `=`; behind a letter it may follow at once. A value that
is an argument of its own begins with no dash, unless it is a single one.
-/

namespace RenderTrace.CommandLine

/-- The options given, with their values, first one first. A switch has an empty value. -/
abbrev Given := List (String × String)

/-- What the arguments of a command said so far. -/
structure Reading where
  input : Option String := none
  given : Given := []
  deriving DecidableEq, Repr

/-- Why the reading of a command's arguments ends early. -/
inductive Stop where
  /-- An explanation is asked for. -/
  | help
  /-- An argument is not understood. -/
  | refused
  deriving DecidableEq, Repr

namespace Reading

/-- Takes an option and its value. -/
def flag (r : Reading) (f : Flag) (value : String) : Except Stop Reading :=
  if (f.want == .path && value.isEmpty) || (r.given.any fun g => g.1 == f.name) then .error .refused
  else .ok { r with given := r.given ++ [(f.name, value)] }

/-- Takes an argument that is no option. -/
def argument (r : Reading) (a : String) : Except Stop Reading :=
  if r.input.isSome || a.isEmpty then .error .refused else .ok { r with input := some a }

end Reading

/-- What an argument is by itself. -/
inductive Shape where
  /-- `--`. -/
  | divider
  /-- A name behind two dashes, and what is joined to it. -/
  | named (name : String) (joined : Option String)
  /-- Letters behind a dash. -/
  | letters (letter : Char) (rest : List Char)
  /-- Anything else. -/
  | plain
  deriving DecidableEq, Repr

/-- What an argument is by itself. -/
def Shape.of (a : String) : Shape :=
  match a.toList with
  | ['-', '-'] => .divider
  | '-' :: '-' :: cs =>
    let name := cs.takeWhile (· != '=')
    .named (String.ofList name)
      (if cs.contains '=' then some (String.ofList (cs.drop (name.length + 1))) else none)
  | '-' :: c :: cs => .letters c cs
  | _ => .plain

/-- An option with what is joined to it. -/
inductive Found where
  | unknown
  | help
  /-- An option that is complete. -/
  | complete (f : Flag) (value : String)
  /-- An option whose value is the next argument. -/
  | open (f : Flag)

/-- The option of a name, given what is joined to it. -/
def Found.named (flags : List Flag) (name : String) (joined : Option String) : Found :=
  match (helpFlag :: flags).find? (·.name == name) with
  | none => .unknown
  | some f =>
    if f.want == .nothing then
      if joined.isSome then .unknown else if f == helpFlag then .help else .complete f ""
    else match joined with
      | some v => .complete f v
      | none => .open f

/-- The option of a letter, given the characters behind it. -/
def Found.lettered (flags : List Flag) (letter : Char) (rest : List Char) : Found :=
  match (helpFlag :: flags).find? (·.letter == some letter) with
  | none => .unknown
  | some f =>
    if f == helpFlag then .help
    else match rest with
      | [] => .open f
      | '=' :: cs => .complete f (String.ofList cs)
      | cs => .complete f (String.ofList cs)

/-- Whether an argument can be the value of the option before it. -/
def isValue (a : String) : Bool := Shape.of a == .plain

/-- Reads the arguments of a command that takes these options. -/
def readArguments (flags : List Flag) : List String → Reading → Except Stop Reading
  | [], r => .ok r
  | a :: rest, r =>
    match Shape.of a with
    | .divider => rest.foldlM Reading.argument r
    | .plain => do readArguments flags rest (← r.argument a)
    | shape =>
      let found := match shape with
        | .named name joined => Found.named flags name joined
        | .letters letter more => Found.lettered flags letter more
        | _ => .unknown
      match found with
      | .unknown => .error .refused
      | .help => .error .help
      | .complete f value => do readArguments flags rest (← r.flag f value)
      | .open f =>
        match rest with
        | v :: rest =>
          if isValue v then do readArguments flags rest (← r.flag f v) else .error .refused
        | [] => .error .refused

/-- A command with all that it was given. -/
structure Request where
  command : Command
  input : String
  given : Given
  deriving DecidableEq, Repr

namespace Request

/-- The value of an option. -/
def value? (r : Request) (name : String) : Option String := r.given.lookup name

/-- Whether a switch is on. -/
def isOn (r : Request) (name : String) : Bool := (r.value? name).isSome

/-- The value of the command's own option, or its default. -/
def ownValue? (r : Request) : Option String :=
  r.value? r.command.ownFlag.name <|> r.command.ownFlag.default?

/-- Options with those of the command line in their place. -/
def override (r : Request) (o : Options) : Options :=
  { o with
    skipInline := o.skipInline || r.isOn "skip-inline"
    enabled := o.enabled && !r.isOn "disable"
    modulePrefix := r.value? "module" <|> o.modulePrefix
    hostContext := (r.value? "host-context").getD o.hostContext
    runtimePath := (r.value? "runtime-path").getD o.runtimePath
    fileLabel := (r.value? "file-label").getD o.fileLabel }

end Request

/-- What the arguments of the program ask for. -/
inductive Wish where
  /-- A text about the program. -/
  | explain (text : String)
  /-- A command. -/
  | perform (r : Request)
  /-- Nothing that is understood. -/
  | refused
  deriving DecidableEq, Repr

/-- What arguments behind the word for help ask for. -/
def Wish.ofHelp : List String → Wish
  | [] => .explain programHelp
  | [name] =>
    if name == helpWord then .explain helpHelp
    else match Command.ofName? name with
      | some c => .explain c.help
      | none => .refused
  | _ => .refused

/-- What arguments behind the name of a command ask for. -/
def Wish.ofCommand (c : Command) (args : List String) : Wish :=
  match readArguments c.flags args {} with
  | .error .help => .explain c.help
  | .error .refused => .refused
  | .ok r =>
    match r.input with
    | some input => .perform ⟨c, input, r.given⟩
    | none => .refused

/-- What arguments ask for. In front of a command there is nothing but options that end the reading,
so the first argument decides. -/
def Wish.ofArguments : List String → Wish
  | [] => .refused
  | a :: rest =>
    if a == helpWord then .ofHelp rest
    else match Command.ofName? a with
      | some c => .ofCommand c rest
      | none =>
        let asked := match Shape.of a with
          | .named name none => [helpFlag, versionFlag].find? (·.name == name)
          | .letters letter _ => [helpFlag, versionFlag].find? (·.letter == some letter)
          | _ => none
        match asked with
        | some f => .explain (if f == helpFlag then programHelp else versionLine)
        | none => .refused

end RenderTrace.CommandLine
