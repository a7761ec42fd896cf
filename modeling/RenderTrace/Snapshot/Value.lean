import RenderTrace.Number.Text
import RenderTrace.Text.Quoted

/-!
# Values and their debugging text

The values that arguments may have, as far as their debugging text tells them apart, and that text.
Sets and maps are shown in the order of their members, each once.
-/

namespace RenderTrace

/-- A value by its debugging text. -/
inductive Value where
  /-- A value whose text is given. -/
  | raw (text : String)
  | unit
  | bool (b : Bool)
  | int (n : Int)
  | float (f : Format) (x : Binary)
  | char (c : Char)
  | string (s : String)
  | bytes (bs : List Nat)
  | none
  | some (v : Value)
  | ok (v : Value)
  | err (v : Value)
  | list (vs : List Value)
  | tuple (vs : List Value)
  | set (members : List String)
  | map (entries : List (String × Value))
  | struct (name : String) (fields : List (String × Value))
  | variant (name : String) (fields : List Value)
  /-- A shared cell and what it holds. -/
  | cell (v : Value)
  deriving Repr, Inhabited

namespace Value

/-- Texts with commas between them. -/
def commas (ts : List String) : String := ", ".intercalate ts

/-- Texts in braces. -/
def braces (ts : List String) : String := "\x7b" ++ commas ts ++ "\x7d"

/-- A name with positional fields. Without a name, a comma tells one field from a parenthesis. -/
def positional (name : String) (ts : List String) : String :=
  match ts with
  | [] => name
  | [t] => name ++ "(" ++ t ++ (if name.isEmpty then "," else "") ++ ")"
  | _ => name ++ "(" ++ commas ts ++ ")"

/-- A name with named fields. -/
def named (name : String) (ts : List (String × String)) : String :=
  if ts.isEmpty then name
  else name ++ " \x7b " ++ commas (ts.map fun (k, t) => k ++ ": " ++ t) ++ " \x7d"

/-- Pairs in the order of their first parts; of those with equal ones, the last. -/
def sortedByKey {α : Type} (pairs : List (String × α)) : List (String × α) :=
  let sorted := pairs.mergeSort fun a b => decide (a.1 ≤ b.1)
  sorted.foldr (fun p rest => match rest with
    | q :: _ => if p.1 == q.1 then rest else p :: rest
    | [] => [p]) []

mutual

/-- The debugging text of a value. -/
def text : Value → String
  | raw t => t
  | unit => "()"
  | bool b => if b then "true" else "false"
  | int n => toString n
  | float f x => NumberStyle.debug.text f x
  | char c => Text.quotedChar c
  | string s => Text.quoted s
  | bytes bs => "[" ++ commas (bs.map toString) ++ "]"
  | none => "None"
  | some v => "Some(" ++ text v ++ ")"
  | ok v => "Ok(" ++ text v ++ ")"
  | err v => "Err(" ++ text v ++ ")"
  | list vs => "[" ++ commas (texts vs) ++ "]"
  | tuple vs => positional "" (texts vs)
  | set ms => braces ((sortedByKey (ms.map fun m => (m, ()))).map fun (m, _) => Text.quoted m)
  | map es => braces ((sortedByKey (fieldTexts es)).map fun (k, t) => Text.quoted k ++ ": " ++ t)
  | struct name fs => named name (fieldTexts fs)
  | variant name vs => positional name (texts vs)
  | cell v => "State(" ++ text v ++ ")"

/-- The texts of several values. -/
def texts : List Value → List String
  | [] => []
  | v :: vs => text v :: texts vs

/-- The texts of several values with names. -/
def fieldTexts : List (String × Value) → List (String × String)
  | [] => []
  | (k, v) :: fs => (k, text v) :: fieldTexts fs

end

/-- A value with one more: a list grows by it, any other value becomes a list of two. -/
def append (v new : Value) : Value :=
  match v with
  | list vs => list (vs ++ [new])
  | v => list [v, new]

end Value

end RenderTrace
