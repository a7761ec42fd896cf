/-!
# A directory of files

What the program sees of the file system: files under names, and a name is a way through
directories. A directory is there if a file lies in it; the outermost one always is. Ways lead along
`.` and `..` as usual, but not out of the outermost directory. A file can be read if it holds a text.
-/

namespace RenderTrace.CommandLine

/-- What a file holds: a text, or bytes that are none. -/
inductive Content where
  | text (text : String)
  | bytes (bytes : List UInt8)
  deriving DecidableEq, Repr

/-- The text of a content. -/
def Content.text? : Content → Option String
  | text t => some t
  | bytes _ => none

/-- Files with the names on the way to them, each way once. -/
structure Directory where
  files : List (List String × Content)
  deriving DecidableEq, Repr

namespace Directory

/-- Whether a way leads to a directory. -/
def hasDirectory (d : Directory) (way : List String) : Bool :=
  way.isEmpty || d.files.any fun f => way.isPrefixOf f.1 && way.length < f.1.length

/-- The way to a file by the parts of its path, from the directory `here` on. -/
def follow? (d : Directory) (here : List String) : List String → Option (List String)
  | [] => none
  | [part] => if part.isEmpty || part == "." || part == ".." then none else some (here ++ [part])
  | part :: parts =>
    if part.isEmpty || part == "." then follow? d here parts
    else if part == ".." then if here.isEmpty then none else follow? d here.dropLast parts
    else
      let next := here ++ [part]
      if d.hasDirectory next then follow? d next parts else none

/-- The way to a file by its path. -/
def way? (d : Directory) (path : String) : Option (List String) :=
  if path.startsWith "/" then none else d.follow? [] (path.splitOn "/")

/-- The text of a file, if there is one. -/
def read? (d : Directory) (path : String) : Option String := do
  (← d.files.lookup (← d.way? path)).text?

/-- The directory with a text under a path, if a file can lie there. -/
def write? (d : Directory) (path text : String) : Option Directory := do
  let way ← d.way? path
  if d.hasDirectory way then none
  else if d.files.any fun f => f.1 == way then
    return ⟨d.files.map fun f => if f.1 == way then (way, .text text) else f⟩
  else return ⟨d.files ++ [(way, .text text)]⟩

/-- A directory of files by their paths. -/
def ofList (files : List (String × String)) : Directory :=
  ⟨files.map fun (path, text) => (path.splitOn "/", .text text)⟩

end Directory

end RenderTrace.CommandLine
