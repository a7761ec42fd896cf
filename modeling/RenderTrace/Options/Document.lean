import RenderTrace.Options
import RenderTrace.Text.JsonReader

/-!
# Options as a document

Options are written as a JSON object whose members are all optional, or as an array of the options
in their order, which may end early. Nothing else is accepted: no other member, no member twice.
-/

namespace RenderTrace

/-- The options that a document sets. -/
inductive OptionField where
  | enabled
  | skipInline
  | runtimePath
  | hostContext
  | modulePrefix
  | fileLabel
  | reactiveWrappers
  deriving DecidableEq, Repr

namespace OptionField

/-- All options in their order. -/
def all : List OptionField :=
  [enabled, skipInline, runtimePath, hostContext, modulePrefix, fileLabel, reactiveWrappers]

/-- The name of an option in a document. -/
def name : OptionField → String
  | enabled => "enabled"
  | skipInline => "skip_inline"
  | runtimePath => "runtime_path"
  | hostContext => "host_context"
  | modulePrefix => "module_prefix"
  | fileLabel => "file_label"
  | reactiveWrappers => "reactive_wrappers"

/-- The option of a name. -/
def ofName? (name : String) : Option OptionField := all.find? (·.name == name)

end OptionField

namespace Options

open DocumentReader

/-- Reads the value of an option. -/
def assign (o : Options) : OptionField → DocumentReader Options
  | .enabled => return { o with enabled := ← boolean }
  | .skipInline => return { o with skipInline := ← boolean }
  | .runtimePath => return { o with runtimePath := ← text }
  | .hostContext => return { o with hostContext := ← text }
  | .modulePrefix => return { o with modulePrefix := ← text? }
  | .fileLabel => return { o with fileLabel := ← text }
  | .reactiveWrappers => return { o with reactiveWrappers := ← texts }

/-- Reads the members of an object, where `seen` were read before. Every member but the last is an
option not seen before, so there are at most as many steps as options and one. -/
def members : Nat → List OptionField → Options → DocumentReader Options
  | 0, _, o => return o
  | fuel + 1, seen, o => do
    if !(← hasMember seen.isEmpty) then return o
    let key ← string
    match OptionField.ofName? key with
    | none => refuseMember (.unknownField key (OptionField.all.map (·.name)))
    | some field =>
      if seen.contains field then refuseMember (.duplicateField field.name)
      else
        colon
        members fuel (field :: seen) (← o.assign field)

/-- Reads the elements of an array as the values of options. -/
def elements : List OptionField → Bool → Options → DocumentReader Options
  | [], _, o => return o
  | field :: fields, first, o => do
    if !(← hasElement first) then return o
    elements fields false (← o.assign field)

/-- Reads a whole document. -/
def document : DocumentReader Options := do
  let o ← match ← valueStart with
    | '\x7b' => do
      skip
      let o ← members (OptionField.all.length + 1) [] {}
      skip
      pure o
    | '[' => do
      skip
      let o ← elements OptionField.all true {}
      endSequence
      pure o
    | _ => mismatch "struct InstrumentOptions"
  endDocument
  return o

/-- The options that a text describes. -/
def ofText (s : String) : Except DocumentError Options :=
  (document.run { rest := s.toList }).map (·.1)

end Options

end RenderTrace
