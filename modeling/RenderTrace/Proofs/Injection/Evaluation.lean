import RenderTrace.Proofs.Injection.Skipped

/-!
# Evaluating the snapshot of a tracker call

The snapshot that a tracker call passes on is an expression, and what it is worth depends on the
arguments of the function around it. Here the expressions that can stand there are given their
values: variables, references, the capturing functions of the runtime, closures of one parameter
where they are passed, and blocks that import traits, declare a variable and push entries
(`Injection.evaluate`). Anything else has no value, and so has a function of the runtime that is
called with something that it does not take: there is no method that turns a snapshot into a
reference to what may be absent, for one.

Two things are kept track of along with the variables, since generated code depends on them. A name
with a raw mark is the same variable as without it, and the method `capture_value` belongs to two
traits, which have to be imported.
-/

namespace RenderTrace.Injection

open Syntax Quotation

/-- An argument of a function, as far as a snapshot can tell. -/
inductive Argument where
  /-- A value that is captured by a text: its debugging text, or else the name of its type. -/
  | value (text : String)
  /-- A reactive wrapper, and the text of its current value. -/
  | wrapper (text current : String)
  /-- A value that may be absent, and the text of what is there. -/
  | option (text : String) (inside : Option String)
  deriving DecidableEq, Repr, Inhabited

/-- The text that capturing an argument as it stands gives. -/
def Argument.text : Argument → String
  | value t | wrapper t _ | option t _ => t

/-- What an expression can be worth. -/
inductive Datum where
  | argument (a : Argument)
  /-- A reference to what may be absent inside an argument. -/
  | inside (text : Option String)
  /-- What captures a value with this text. -/
  | probe (text : String)
  | captured (c : Captured)
  | capturedOption (c : Option Captured)
  /-- The snapshot without entries that all calls share. -/
  | shared
  | snapshot (a : Arguments)
  deriving DecidableEq, Repr, Inhabited

namespace Datum

/-- What can be captured, by its text. -/
def text? : Datum → Option String
  | argument a => some a.text
  | snapshot a => some a.debugText
  | _ => none

/-- What an expression is worth as a snapshot. -/
def arguments? : Datum → Option Arguments
  | shared => some {}
  | snapshot a => some a
  | _ => none

end Datum

/-- The words of a path, with the root in front. -/
def rootedWords (p : Node) : List String :=
  (if (p.child 0).isAbsent then [] else ["::"]) ++ p.segmentNames

/-- The variables and the imported traits where an expression stands. -/
structure Locals where
  values : List (String × Datum) := []
  traits : List (List String) := []
  deriving Inhabited

namespace Locals

/-- The value of a variable. -/
def get? (s : Locals) (name : String) : Option Datum := s.values.lookup (Node.bareName name)

/-- A scope with a variable in front of the others. -/
def declare (s : Locals) (name : String) (d : Datum) : Locals :=
  { s with values := (Node.bareName name, d) :: s.values }

/-- A scope with imported traits. -/
def importing (s : Locals) (traits : List (List String)) : Locals :=
  { s with traits := traits ++ s.traits }

/-- Whether both traits of the runtime that capture values are imported. -/
def capturing (s : Locals) (runtime : List String) : Bool :=
  s.traits.contains (runtime ++ ["CaptureDebug"]) &&
    s.traits.contains (runtime ++ ["CaptureOpaque"])

end Locals

/-- The traits that an import names, each by its path below the import. -/
def importedBy : Node → List (List String)
  | .node .usePath [w, _, tree] => (importedBy tree).map (w.text :: ·)
  | .node .useGroup [.group _ [trees]] => trees.elements.map fun t ↦ [(t.child 0).text]
  | _ => []

/-- What a function is worth at a value. -/
def applied (runtime words : List String) (d : Datum) : Option Datum :=
  if words = runtime ++ ["Capture"] then d.text?.map .probe
  else if words = ["::", "core", "option", "Option", "Some"] then
    match d with
    | .captured c => some (.capturedOption (some c))
    | _ => none
  else none

/-- What a method without arguments is worth at a value. -/
def invoked (runtime : List String) (s : Locals) (method : String) (d : Datum) : Option Datum :=
  match method, d with
  | "capture_value", .probe t => if s.capturing runtime then some (.captured ⟨t, false⟩) else none
  | "as_ref", .argument (.option _ inside) => some (.inside inside)
  | "into_reactive", .captured c => some (.captured { c with reactive := true })
  | _, _ => none

/-- A snapshot with one more entry. -/
def pushing (key : String) : Datum → Datum → Option Datum
  | .snapshot a, .capturedOption c => some (.snapshot (a.push key c))
  | _, _ => none

mutual

/-- What an expression is worth in a scope. -/
def evaluate (runtime : List String) : Node → Locals → Option Datum
  | .node .exprPath [_, p], s =>
    if rootedWords p = runtime ++ ["EMPTY_ARGUMENTS"] then some .shared
    else
      match rootedWords p with
      | [w] => s.get? w
      | _ => none
  | .node .exprReference [_, _, _, e], s => evaluate runtime e s
  | .node .exprParen [_, .group _ [e]], s => evaluate runtime e s
  | .node .exprCall [_, .node .exprPath [_, p], .group _ [.node .list [e]]], s => do
    applied runtime (rootedWords p) (← evaluate runtime e s)
  | .node .exprCall [_, .node .exprPath [_, p], .group _ [.node .list
      [e, _, .node .exprClosure [_, _, _, _, _, _, _,
        .node .list [.node .patIdent [_, _, _, x, _, _]], _, _, body]]]], s => do
    -- a wrapper passes its current value on
    if rootedWords p = runtime ++ ["Reactive", "with_current"] then
      match ← evaluate runtime e s with
      | .argument (.wrapper _ current) =>
        evaluate runtime body (s.declare x.text (.argument (.value current)))
      | _ => none
    else none
  | .node .exprMethodCall [_, e, _, m, _, .group _ [.node .list []]], s => do
    invoked runtime s m.text (← evaluate runtime e s)
  | .node .exprMethodCall [_, e, _, m, _, .group _ [.node .list
      [.node .exprClosure [_, _, _, _, _, _, _, .node .list [.node .patIdent [_, _, _, x, _, _]],
        _, _, body]]]], s => do
    -- what is absent stays so, and what is there is passed on
    match m.text, ← evaluate runtime e s with
    | "map", .inside none => some (.capturedOption none)
    | "map", .inside (some t) =>
      match ← evaluate runtime body (s.declare x.text (.argument (.value t))) with
      | .captured c => some (.capturedOption (some c))
      | _ => none
    | _, _ => none
  | .node .exprBlock [_, _, .node .block [.group _ [.node .list ss]]], s => run runtime ss s
  | _, _ => none

/-- What the statements of a block are worth in a scope. -/
def run (runtime : List String) : List Node → Locals → Option Datum
  | [.node .stmtExpr [e, .node .absent []]], s => evaluate runtime e s
  | .node .itemUse [_, _, _, colons, tree, _] :: ss, s =>
    let root := if colons.isAbsent then [] else ["::"]
    run runtime ss (s.importing ((importedBy tree).map (root ++ ·)))
  | .node .local [_, _, .node .patIdent [_, _, _, x, _, _], _,
      .node .exprCall [_, .node .exprPath [_, p], _], _, _, _] :: ss, s =>
    if rootedWords p = runtime ++ ["Arguments", "with_capacity"] then
      run runtime ss (s.declare x.text (.snapshot {}))
    else none
  | .node .stmtExpr [.node .exprMethodCall
      [_, .node .exprPath [_, x], _, m, _, .group _ [.node .list [key, _, e]]], _] :: ss, s =>
    if m.text = "push_captured" then
      match rootedWords x with
      | [x] => do
        let d ← pushing (← textOf? key) (← s.get? x) (← evaluate runtime e s)
        run runtime ss (s.declare x d)
      | _ => none
    else none
  | _, _ => none

end

/-! ### The pieces of a snapshot -/

section Pieces

variable (runtime : List String) (s : Locals)

theorem evaluate_use (p : Node) : evaluate runtime (use p) s =
    if rootedWords p = runtime ++ ["EMPTY_ARGUMENTS"] then some .shared
    else match rootedWords p with
      | [w] => s.get? w
      | _ => none := rfl

theorem evaluate_ref (e : Node) : evaluate runtime (ref e) s = evaluate runtime e s := rfl

theorem evaluate_paren (e : Node) : evaluate runtime (paren e) s = evaluate runtime e s := rfl

theorem evaluate_call (p e : Node) : evaluate runtime (call (use p) [e]) s =
    (evaluate runtime e s).bind (applied runtime (rootedWords p)) := rfl

theorem evaluate_with (p e body : Node) (x : String) :
    evaluate runtime (call (use p) [e, closure x body]) s =
      if rootedWords p = runtime ++ ["Reactive", "with_current"] then
        (evaluate runtime e s).bind fun
          | .argument (.wrapper _ current) =>
            evaluate runtime body (s.declare x (.argument (.value current)))
          | _ => none
      else none := rfl

theorem evaluate_method (e : Node) (method : String) :
    evaluate runtime (methodCall e method []) s =
      (evaluate runtime e s).bind (invoked runtime s method) := rfl

theorem evaluate_map (e body : Node) (x : String) :
    evaluate runtime (methodCall e "map" [closure x body]) s =
      (evaluate runtime e s).bind fun
        | .inside none => some (.capturedOption none)
        | .inside (some t) =>
          (evaluate runtime body (s.declare x (.argument (.value t)))).bind fun
            | .captured c => some (.capturedOption (some c))
            | _ => none
        | _ => none := by
  show ((evaluate runtime e s).bind _) = _
  congr 1
  funext d
  cases d with
  | inside t => cases t <;> rfl
  | _ => rfl

theorem evaluate_block (ss : List Node) :
    evaluate runtime (blockExpr ss) s = run runtime ss s := rfl

theorem run_value (e : Node) : run runtime [value e] s = evaluate runtime e s := rfl

theorem run_letMut (p : Node) (x : String) (args ss : List Node) :
    run runtime (letMut x (call (use p) args) :: ss) s =
      if rootedWords p = runtime ++ ["Arguments", "with_capacity"] then
        run runtime ss (s.declare x (.snapshot {}))
      else none := rfl

theorem run_import (attributes : List Node) (colons : Node) (module traits : List String)
    (ss : List Node) :
    run runtime (importTraits attributes colons module traits :: ss) s =
      run runtime ss (s.importing (traits.map fun t ↦
        (if colons.isAbsent then [] else ["::"]) ++ module ++ [t])) := by
  have htrees : (commas (traits.map fun t ↦
      Node.node .useRename [.word t, .word "as", .word "_"])).elements =
        traits.map fun t ↦ .node .useRename [.word t, .word "as", .word "_"] := by
    refine commas_elements fun e he ↦ ?_
    obtain ⟨t, -, rfl⟩ := List.mem_map.1 he
    rfl
  have himported : importedBy (module.foldr (fun w t ↦ Node.node .usePath [.word w, .op "::", t])
      (.node .useGroup [.group .brace [commas (traits.map fun t ↦
        .node .useRename [.word t, .word "as", .word "_"])]])) = traits.map (module ++ [·]) := by
    induction module with
    | nil =>
      show (commas _).elements.map _ = _
      rw [htrees, List.map_map]
      rfl
    | cons w ws ih =>
      rw [List.foldr_cons, importedBy, ih, List.map_map]
      rfl
  show run runtime ss (s.importing ((importedBy _).map _)) = _
  rw [himported, List.map_map]
  simp only [Function.comp_def, List.append_assoc]

theorem run_push (x key : String) (e : Node) (ss : List Node) :
    run runtime (.node .stmtExpr [methodCall (name x) "push_captured" [text key, e], .op ";"] :: ss)
        s =
      (s.get? x).bind fun d ↦ (evaluate runtime e s).bind fun v ↦
        (pushing key d v).bind fun d' ↦ run runtime ss (s.declare x d') := by
  have hrun : run runtime
      (.node .stmtExpr [methodCall (name x) "push_captured" [text key, e], .op ";"] :: ss) s =
      (textOf? (text key)).bind fun k ↦ (s.get? x).bind fun d ↦ (evaluate runtime e s).bind fun v ↦
        (pushing k d v).bind fun d' ↦ run runtime ss (s.declare x d') := by
    cases ss <;> rfl
  rw [hrun, textOf?_text]
  rfl

end Pieces

/-! ### Paths of the runtime -/

/-- A path has a first word. -/
def HasWords (p : Node) : Prop :=
  ∃ colons first more, p = .node .path [colons, .list (first :: more)] ∧ first.isToken = false

theorem rootedWords_extend {p : Node} (h : HasWords p) (w : String) :
    rootedWords (extend p w) = rootedWords p ++ [w] := by
  obtain ⟨colons, first, more, rfl, -⟩ := h
  have hwords : (extend (.node .path [colons, .list (first :: more)]) w).segmentNames =
      Node.wordsOf (first :: more) ++ [w] := by
    show Node.wordsOf (first :: more ++ [.op "::", segment w]) = _
    rw [Node.wordsOf, List.filter_append, List.map_append]
    rfl
  rw [rootedWords, hwords, ← List.append_assoc]
  rfl

theorem rootedWords_ne_nil {p : Node} (h : HasWords p) : rootedWords p ≠ [] := by
  obtain ⟨colons, first, more, rfl, hfirst⟩ := h
  refine List.append_ne_nil_of_right_ne_nil _ ?_
  show Node.wordsOf (first :: more) ≠ []
  rw [Node.wordsOf, List.filter_cons_of_pos (by rw [hfirst]; rfl)]
  exact List.cons_ne_nil _ _

end RenderTrace.Injection
