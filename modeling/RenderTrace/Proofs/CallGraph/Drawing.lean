import RenderTrace.CallGraph.Dot
import RenderTrace.Proofs.CallGraph.Additions

/-!
# Reading drawings of graphs

A reader of the DOT text of a graph, which knows nothing of how the text was laid out: it scans
words, quoted strings and marks, cuts them into sentences at semicolons, and takes from each what it
says about a node or an edge. From the text of a graph it gets back the nodes by their numbers, with
their labels and whether they are highlighted, and the edges with their kinds
(`Drawing.read?_toDot`). For graphs that are made by additions, or for an index,
`CallGraph.toDot_shows` says which these are.

## Why any label comes back

In a quoted string a backslash says that the next character stands for itself. A label is written
with a backslash in front of every backslash and every quote (`CallGraph.escapeLabel_eq`), so the
first quote without one is the end of the string, whatever else stands in the label
(`Drawing.runs_escapeLabel`).

The scanner is a fold over the characters. So what it does with a text is told part by part, and a
part may end within a word or a string (`Drawing.runs_append`).
-/

namespace RenderTrace

/-! ### Drawings -/

/-- A node as it is drawn. -/
structure DrawnNode where
  number : Nat
  label : String
  highlighted : Bool
  deriving DecidableEq, Repr

/-- An edge as it is drawn, between the numbers of nodes. -/
structure DrawnEdge where
  source : Nat
  target : Nat
  kind : CallKind
  deriving DecidableEq, Repr

/-- A graph as it is drawn. -/
structure Drawing where
  nodes : List DrawnNode := []
  edges : List DrawnEdge := []
  deriving DecidableEq, Repr

/-- The drawing of a graph: its nodes by the functions that they stand for, and its edges by the
functions that they leave. -/
def CallGraph.drawing (g : CallGraph) (label : FunctionId → String)
    (highlighted : FunctionId → Bool) : Drawing where
  nodes := g.sortedNodes.map fun id ↦ ⟨g.nodeNumber id, label id, highlighted id⟩
  edges := g.edgesByCaller.map fun e ↦ ⟨g.nodeNumber e.caller, g.nodeNumber e.callee, e.kind⟩

namespace Drawing

/-- A drawing shows nodes and edges, each node once and none missing at the end of an edge. -/
structure Shows (d : Drawing) (ids : List FunctionId) (es : List Edge)
    (number : FunctionId → Nat) (label : FunctionId → String) (highlighted : FunctionId → Bool) :
    Prop where
  nodes_eq : d.nodes = ids.map fun id ↦ ⟨number id, label id, highlighted id⟩
  edges_eq : d.edges = es.map fun e ↦ ⟨number e.caller, number e.callee, e.kind⟩
  numbers_nodup : (d.nodes.map (·.number)).Nodup
  ends_mem : ∀ e ∈ d.edges,
    e.source ∈ d.nodes.map (·.number) ∧ e.target ∈ d.nodes.map (·.number)

/-! ### The scanner -/

/-- What a text is made of. -/
inductive Token where
  | word (text : String)
  | quoted (text : String)
  | mark (c : Char)
  deriving DecidableEq, Repr

/-- Where a scanner is, with the characters of what it is in, the latest first. -/
inductive Mode where
  | plain (word : List Char)
  | quoted (text : List Char)
  /-- Behind a backslash in a quoted string. -/
  | escaped (text : List Char)

/-- A scanner, and what it has found, the latest first. -/
structure Scanner where
  mode : Mode
  found : List Token

/-- Whether a character can stand in a word. -/
def isWordChar (c : Char) : Bool := c.isAlphanum || c == '_'

/-- What was found when a word has ended. -/
def closeWord (word : List Char) (found : List Token) : List Token :=
  if word.isEmpty then found else .word (String.ofList word.reverse) :: found

/-- A scanner behind one more character. -/
def Scanner.step : Scanner → Char → Scanner
  | ⟨.plain word, found⟩, c =>
    if isWordChar c then ⟨.plain (c :: word), found⟩
    else if c == '"' then ⟨.quoted [], closeWord word found⟩
    else if c.isWhitespace then ⟨.plain [], closeWord word found⟩
    else ⟨.plain [], .mark c :: closeWord word found⟩
  | ⟨.quoted text, found⟩, c =>
    if c == '\\' then ⟨.escaped text, found⟩
    else if c == '"' then ⟨.plain [], .quoted (String.ofList text.reverse) :: found⟩
    else ⟨.quoted (c :: text), found⟩
  | ⟨.escaped text, found⟩, c => ⟨.quoted (c :: text), found⟩

/-- A scanner behind a text. -/
def Scanner.runs (s : Scanner) (text : String) : Scanner := text.toList.foldl step s

/-- The tokens of a text; nothing if a string in it has no end. -/
def tokens? (text : String) : Option (List Token) :=
  match Scanner.runs ⟨.plain [], []⟩ text with
  | ⟨.plain word, found⟩ => some (closeWord word found).reverse
  | _ => none

/-! ### Sentences -/

/-- The sentences that semicolons end, behind the tokens of one that has begun, the latest first;
and the tokens behind the last semicolon. -/
def sentences (begun : List Token) : List Token → List (List Token) × List Token
  | [] => ([], begun.reverse)
  | t :: ts =>
    if t = .mark ';' then (begun.reverse :: (sentences [] ts).1, (sentences [] ts).2)
    else sentences (t :: begun) ts

/-- The text of a value. -/
def Token.text? : Token → Option String
  | .word text => some text
  | .quoted text => some text
  | .mark _ => none

/-- Attributes up to the bracket that ends them. -/
def attributes? : List Token → Option (List (String × String))
  | [.word name, .mark '=', value, .mark ']'] => do return [(name, ← value.text?)]
  | .word name :: .mark '=' :: value :: .mark ',' :: ts => do
    return (name, ← value.text?) :: (← attributes? ts)
  | _ => none

/-- The kind of an edge by the style of its line. -/
def kindOf? : String → Option CallKind
  | "solid" => some .direct
  | "dashed" => some .functionLiteral
  | "dotted" => some .reference
  | _ => none

/-- What a sentence says. -/
inductive Statement where
  | setting
  | node (n : DrawnNode)
  | edge (e : DrawnEdge)

/-- What a sentence says about a node, or about all of them. -/
def nodeStatement? (name : String) (attributes : List (String × String)) : Option Statement :=
  if name = "node" then some .setting
  else do return .node ⟨← name.toNat?, ← attributes.lookup "label",
    attributes.lookup "style" == some "filled"⟩

/-- What a sentence says about an edge. -/
def edgeStatement? (source target : String) (attributes : List (String × String)) :
    Option Statement := do
  return .edge ⟨← source.toNat?, ← target.toNat?, ← kindOf? (← attributes.lookup "style")⟩

/-- What a sentence says. -/
def statement? : List Token → Option Statement
  | [.word _, .mark '=', .word _] => some .setting
  | .word name :: .mark '[' :: ts => (attributes? ts).bind (nodeStatement? name)
  | .word source :: .mark '-' :: .mark '>' :: .word target :: .mark '[' :: ts =>
    (attributes? ts).bind (edgeStatement? source target)
  | _ => none

/-- A drawing with what one more sentence in front says. -/
def Statement.put : Statement → Drawing → Drawing
  | .setting, d => d
  | .node n, d => { d with nodes := n :: d.nodes }
  | .edge e, d => { d with edges := e :: d.edges }

/-- The drawing that sentences make. -/
def ofSentences? : List (List Token) → Option Drawing
  | [] => some {}
  | s :: ss => do return (← statement? s).put (← ofSentences? ss)

/-- The drawing that tokens make from behind its opening brace. -/
def ofBody? (ts : List Token) : Option Drawing :=
  if (sentences [] ts).2 = [.mark '\x7d'] then ofSentences? (sentences [] ts).1 else none

/-- The drawing that tokens make. -/
def ofTokens? : List Token → Option Drawing
  | .word "digraph" :: .word _ :: .mark '\x7b' :: ts => ofBody? ts
  | _ => none

/-- The drawing that a text describes. -/
def read? (text : String) : Option Drawing := (tokens? text).bind ofTokens?

end Drawing

/-! ### Labels -/

/-- Escaping a label is writing every backslash twice and then a backslash in front of every
quote. -/
theorem CallGraph.escapeLabel_eq (cs : List Char) :
    escapeLabel cs = (cs.flatMap fun c ↦ if c = '\\' then ['\\', '\\'] else [c]).flatMap
      fun c ↦ if c = '"' then ['\\', '"'] else [c] := by
  induction cs with
  | nil => rfl
  | cons c cs ih =>
    rw [escapeLabel, ih, List.flatMap_cons, List.flatMap_append]
    by_cases hslash : c = '\\'
    · simp [hslash]
    · by_cases hquote : c = '"'
      · simp [hquote]
      · simp [hslash, hquote]

namespace Drawing

open Scanner

variable {word text : List Char} {found : List Token}

/-! ### Scanning part by part -/

theorem runs_append (s : Scanner) (text text' : String) :
    s.runs (text ++ text') = (s.runs text).runs text' := by
  rw [runs, runs, runs, String.toList_append, List.foldl_append]

/-- A label is read as it was before it was escaped. -/
theorem runs_escapeLabel (label : List Char) :
    Scanner.runs ⟨.quoted text, found⟩ (String.ofList (CallGraph.escapeLabel label)) =
      ⟨.quoted (label.reverse ++ text), found⟩ := by
  rw [runs, String.toList_ofList]
  induction label generalizing text with
  | nil => rfl
  | cons c cs ih =>
    rw [CallGraph.escapeLabel, List.reverse_cons, List.append_assoc, List.singleton_append]
    by_cases hspecial : c = '\\' ∨ c = '"'
    · -- two steps, over a backslash and what it is for
      have hescape : (c == '\\' || c == '"') = true := by simpa using hspecial
      rw [if_pos hescape, List.foldl_cons, List.foldl_cons]
      exact ih
    · have hescape : ¬ (c == '\\' || c == '"') = true := by simpa using hspecial
      obtain ⟨hslash, hquote⟩ := not_or.1 hspecial
      have hstep : Scanner.step ⟨.quoted text, found⟩ c = ⟨.quoted (c :: text), found⟩ := by
        simp [Scanner.step, hslash, hquote]
      rw [if_neg hescape, List.foldl_cons, hstep]
      exact ih

theorem runs_word (cs : List Char) (h : ∀ c ∈ cs, isWordChar c = true) :
    Scanner.runs ⟨.plain word, found⟩ (String.ofList cs) =
      ⟨.plain (cs.reverse ++ word), found⟩ := by
  rw [runs, String.toList_ofList]
  induction cs generalizing word with
  | nil => rfl
  | cons c cs ih =>
    have hstep : Scanner.step ⟨.plain word, found⟩ c = ⟨.plain (c :: word), found⟩ := by
      rw [Scanner.step, if_pos (h c List.mem_cons_self)]
    rw [List.foldl_cons, hstep, List.reverse_cons, List.append_assoc, List.singleton_append]
    exact ih fun c hc ↦ h c (List.mem_cons_of_mem _ hc)

/-- A number is read as a word. -/
theorem runs_number (n : Nat) : Scanner.runs ⟨.plain [], found⟩ (toString n) =
    ⟨.plain (toString n).toList.reverse, found⟩ := by
  have htext : toString n = String.ofList (Nat.toDigits 10 n) := Nat.repr_eq_ofList_toDigits
  rw [htext, runs_word, List.append_nil, String.toList_ofList]
  intro c hc
  have hdigit := Nat.isDigit_of_mem_toDigits (by decide) (by decide) hc
  rw [isWordChar, Char.isAlphanum, hdigit]
  simp

theorem closeWord_number (n : Nat) :
    closeWord (toString n).toList.reverse found = .word (toString n) :: found := by
  have hne : (toString n).toList.reverse.isEmpty = false := by
    have htext : toString n = String.ofList (Nat.toDigits 10 n) := Nat.repr_eq_ofList_toDigits
    rw [htext, String.toList_ofList, List.isEmpty_reverse]
    simp
  rw [closeWord, hne, List.reverse_reverse, String.ofList_toList]
  rfl

/-! ### Lines and sentences -/

/-- The sentence that draws a node. -/
def nodeSentence : DrawnNode → List Token
  | ⟨number, label, false⟩ =>
    [.word (toString number), .mark '[', .word "label", .mark '=', .quoted label, .mark ']']
  | ⟨number, label, true⟩ =>
    [.word (toString number), .mark '[', .word "label", .mark '=', .quoted label,
      .mark ',', .word "style", .mark '=', .word "filled",
      .mark ',', .word "fillcolor", .mark '=', .quoted "lightblue", .mark ']']

/-- The sentence that draws an edge. -/
def edgeSentence (e : DrawnEdge) : List Token :=
  [.word (toString e.source), .mark '-', .mark '>', .word (toString e.target), .mark '[',
    .word "style", .mark '=', .word (CallGraph.lineStyle e.kind), .mark ']']

/-- What a drawing says of all nodes. -/
def settings : List (List Token) :=
  [[.word "rankdir", .mark '=', .word "LR"],
    [.word "node", .mark '[', .word "shape", .mark '=', .word "box", .mark ']']]

/-- Sentences with their semicolons. -/
def ended (ss : List (List Token)) : List Token := ss.flatMap (· ++ [Token.mark ';'])

theorem runs_head : Scanner.runs ⟨.plain [], []⟩
    "digraph CallGraph \x7b\n  rankdir=LR;\n  node [shape=box];\n\n" = ⟨.plain [],
      (.word "digraph" :: .word "CallGraph" :: .mark '\x7b' :: ended settings).reverse⟩ := by
  -- line by line: the whole header at once is too long a computation
  have hlines : "digraph CallGraph \x7b\n  rankdir=LR;\n  node [shape=box];\n\n" =
      "digraph CallGraph \x7b\n" ++ "  rankdir=LR;\n" ++ "  node [shape=box];\n\n" := by decide
  have hname : Scanner.runs ⟨.plain [], []⟩ "digraph CallGraph \x7b\n" =
      ⟨.plain [], [.mark '\x7b', .word "CallGraph", .word "digraph"]⟩ := rfl
  have hrank : ∀ found, Scanner.runs ⟨.plain [], found⟩ "  rankdir=LR;\n" =
      ⟨.plain [], .mark ';' :: .word "LR" :: .mark '=' :: .word "rankdir" :: found⟩ := fun _ ↦ rfl
  have hshape : ∀ found, Scanner.runs ⟨.plain [], found⟩ "  node [shape=box];\n\n" =
      ⟨.plain [], .mark ';' :: .mark ']' :: .word "box" :: .mark '=' :: .word "shape" ::
        .mark '[' :: .word "node" :: found⟩ := fun _ ↦ rfl
  rw [hlines, runs_append, runs_append, hname, hrank, hshape]
  rfl

theorem runs_nodeLine (g : CallGraph) (label : FunctionId → String)
    (highlighted : FunctionId → Bool) (id : FunctionId) (found : List Token) :
    Scanner.runs ⟨.plain [], found⟩ (g.nodeLine label highlighted id) = ⟨.plain [],
      (nodeSentence ⟨g.nodeNumber id, label id, highlighted id⟩ ++ [Token.mark ';']).reverse ++
        found⟩ := by
  have hindent : Scanner.runs ⟨.plain [], found⟩ "  " = ⟨.plain [], found⟩ := rfl
  have hopen : ∀ word found, Scanner.runs ⟨.plain word, found⟩ " [" =
      ⟨.plain [], .mark '[' :: closeWord word found⟩ := fun _ _ ↦ rfl
  have hlabel : ∀ found, Scanner.runs ⟨.plain [], found⟩ "label=\"" =
      ⟨.quoted [], .mark '=' :: .word "label" :: found⟩ := fun _ ↦ rfl
  have hquote : ∀ text found, Scanner.runs ⟨.quoted text, found⟩ "\"" =
      ⟨.plain [], .quoted (String.ofList text.reverse) :: found⟩ := fun _ _ ↦ rfl
  have hclose : ∀ found, Scanner.runs ⟨.plain [], found⟩ "];\n" =
      ⟨.plain [], .mark ';' :: .mark ']' :: found⟩ := fun _ ↦ rfl
  have hfill : ∀ found, Scanner.runs ⟨.plain [], found⟩
      (if highlighted id then ", style=filled, fillcolor=\"lightblue\"" else "") =
        ⟨.plain [], (if highlighted id then [.quoted "lightblue", .mark '=', .word "fillcolor",
          .mark ',', .word "filled", .mark '=', .word "style", .mark ','] else []) ++ found⟩ := by
    intro found
    cases highlighted id <;> rfl
  simp only [CallGraph.nodeLine, runs_append, hindent, runs_number, hopen, closeWord_number,
    hlabel, runs_escapeLabel, hquote, hfill, hclose, List.append_nil, List.reverse_reverse,
    String.ofList_toList]
  cases highlighted id <;> rfl

theorem runs_edgeLine (g : CallGraph) (e : Edge) (found : List Token) :
    Scanner.runs ⟨.plain [], found⟩ (g.edgeLine e) = ⟨.plain [],
      (edgeSentence ⟨g.nodeNumber e.caller, g.nodeNumber e.callee, e.kind⟩ ++
        [Token.mark ';']).reverse ++ found⟩ := by
  have hindent : Scanner.runs ⟨.plain [], found⟩ "  " = ⟨.plain [], found⟩ := rfl
  have harrow : ∀ word found, Scanner.runs ⟨.plain word, found⟩ " -> " =
      ⟨.plain [], .mark '>' :: .mark '-' :: closeWord word found⟩ := fun _ _ ↦ rfl
  have hopen : ∀ word found, Scanner.runs ⟨.plain word, found⟩ " [style=" =
      ⟨.plain [], .mark '=' :: .word "style" :: .mark '[' :: closeWord word found⟩ := fun _ _ ↦ rfl
  have hstyle : ∀ found, (Scanner.runs ⟨.plain [], found⟩ (CallGraph.lineStyle e.kind)).runs
      "];\n" = ⟨.plain [], .mark ';' :: .mark ']' :: .word (CallGraph.lineStyle e.kind) ::
        found⟩ := by
    intro found
    cases e.kind <;> rfl
  simp only [CallGraph.edgeLine, runs_append, hindent, runs_number, harrow, closeWord_number,
    hopen, hstyle]
  rfl

/-- Lines that are sentences, one behind the other. -/
theorem runs_lines {α : Type} {line : α → String} {sentence : α → List Token}
    (h : ∀ x found, Scanner.runs ⟨.plain [], found⟩ (line x) =
      ⟨.plain [], (sentence x ++ [Token.mark ';']).reverse ++ found⟩) (xs : List α)
    (found : List Token) : Scanner.runs ⟨.plain [], found⟩ (String.join (xs.map line)) =
      ⟨.plain [], (ended (xs.map sentence)).reverse ++ found⟩ := by
  induction xs generalizing found with
  | nil => rfl
  | cons x xs ih =>
    rw [List.map_cons, String.join_cons, runs_append, h, ih, List.map_cons, ended, ended,
      List.flatMap_cons, @List.reverse_append _ (sentence x ++ _), List.append_assoc]

/-- The tokens of the text of a graph. -/
theorem tokens?_toDot (g : CallGraph) (label : FunctionId → String)
    (highlighted : FunctionId → Bool) : tokens? (g.toDot label highlighted) =
      some (Token.word "digraph" :: Token.word "CallGraph" :: Token.mark '\x7b' ::
        (ended (settings ++ (g.drawing label highlighted).nodes.map nodeSentence ++
          (g.drawing label highlighted).edges.map edgeSentence) ++ [Token.mark '\x7d'])) := by
  have hblank : ∀ found, Scanner.runs ⟨.plain [], found⟩ "\n" = ⟨.plain [], found⟩ := fun _ ↦ rfl
  have hend : ∀ found, Scanner.runs ⟨.plain [], found⟩ "\x7d\n" =
      ⟨.plain [], .mark '\x7d' :: found⟩ := fun _ ↦ rfl
  -- by definition only: to state the equation, Lean compares long literals letter by letter
  delta CallGraph.toDot
  simp only [tokens?, runs_append, runs_head, runs_lines (runs_nodeLine g label highlighted),
    hblank, runs_lines (runs_edgeLine g), hend]
  simp [closeWord, ended, CallGraph.drawing, Function.comp_def]

/-! ### Reading sentences -/

/-- Tokens that are no semicolons belong to the sentence that has begun. -/
theorem sentences_append {s : List Token} (h : .mark ';' ∉ s) (begun ts : List Token) :
    sentences begun (s ++ ts) = sentences (s.reverse ++ begun) ts := by
  induction s generalizing begun with
  | nil => rfl
  | cons t s ih =>
    rw [List.mem_cons, not_or] at h
    rw [List.cons_append, sentences, if_neg (Ne.symm h.1), ih h.2, List.reverse_cons,
      List.append_assoc, List.singleton_append]

/-- Sentences are found as they were ended. -/
theorem sentences_ended {ss : List (List Token)} (h : ∀ s ∈ ss, .mark ';' ∉ s)
    {rest : List Token} (hrest : .mark ';' ∉ rest) :
    sentences [] (ended ss ++ rest) = (ss, rest) := by
  induction ss with
  | nil =>
    have hall := sentences_append hrest [] []
    rwa [List.append_nil, List.append_nil, sentences, List.reverse_reverse] at hall
  | cons s ss ih =>
    have hothers := ih fun s hs ↦ h s (List.mem_cons_of_mem _ hs)
    rw [ended, List.flatMap_cons, ← ended, List.append_assoc, List.append_assoc,
      List.singleton_append, sentences_append (h s List.mem_cons_self), sentences, if_pos rfl,
      hothers, List.append_nil, List.reverse_reverse]

theorem not_mem_nodeSentence (n : DrawnNode) : .mark ';' ∉ nodeSentence n := by
  obtain ⟨number, label, _ | _⟩ := n <;> simp [nodeSentence]

theorem not_mem_edgeSentence (e : DrawnEdge) : .mark ';' ∉ edgeSentence e := by
  simp [edgeSentence]

theorem toNat?_number (n : Nat) : (toString n).toNat? = some n := Nat.toNat?_repr n

theorem number_ne_node (n : Nat) : toString n ≠ "node" := by
  intro h
  -- a number is written in digits, and `n` is none
  have hdigits : Nat.toDigits 10 n = "node".toList := by
    have htext : toString n = String.ofList (Nat.toDigits 10 n) := Nat.repr_eq_ofList_toDigits
    rw [← h, htext, String.toList_ofList]
  have hmem : 'n' ∈ Nat.toDigits 10 n := hdigits ▸ List.mem_cons_self
  exact absurd (Nat.isDigit_of_mem_toDigits (by decide) (by decide) hmem) (by decide)

theorem nodeStatement?_number (n : Nat) (attributes : List (String × String)) :
    nodeStatement? (toString n) attributes = (attributes.lookup "label").map fun label ↦
      .node ⟨n, label, attributes.lookup "style" == some "filled"⟩ := by
  rw [nodeStatement?, if_neg (number_ne_node n), toNat?_number]
  cases attributes.lookup "label" <;> rfl

theorem statement?_nodeSentence (n : DrawnNode) :
    statement? (nodeSentence n) = some (.node n) := by
  obtain ⟨number, label, _ | _⟩ := n
  -- what is left is what the sentence says once its attributes are read
  · exact nodeStatement?_number number [("label", label)]
  · exact nodeStatement?_number number
      [("label", label), ("style", "filled"), ("fillcolor", "lightblue")]

theorem statement?_edgeSentence (e : DrawnEdge) :
    statement? (edgeSentence e) = some (.edge e) := by
  obtain ⟨source, target, kind⟩ := e
  have hattributes : statement? (edgeSentence ⟨source, target, kind⟩) = edgeStatement?
      (toString source) (toString target) [("style", CallGraph.lineStyle kind)] := rfl
  rw [hattributes, edgeStatement?, toNat?_number, toNat?_number]
  cases kind <;> rfl

theorem ofSentences?_cons {s : List Token} {st : Statement} {ss : List (List Token)} {d : Drawing}
    (hs : statement? s = some st) (hss : ofSentences? ss = some d) :
    ofSentences? (s :: ss) = some (st.put d) := by
  rw [ofSentences?, hs, hss]
  rfl

theorem ofSentences?_edges (es : List DrawnEdge) :
    ofSentences? (es.map edgeSentence) = some ⟨[], es⟩ := by
  induction es with
  | nil => rfl
  | cons e es ih => exact ofSentences?_cons (statement?_edgeSentence e) ih

theorem ofSentences?_nodes (ns : List DrawnNode) (es : List DrawnEdge) :
    ofSentences? (ns.map nodeSentence ++ es.map edgeSentence) = some ⟨ns, es⟩ := by
  induction ns with
  | nil => exact ofSentences?_edges es
  | cons n ns ih => exact ofSentences?_cons (statement?_nodeSentence n) ih

theorem ofSentences?_settings (ss : List (List Token)) :
    ofSentences? (settings ++ ss) = ofSentences? ss := by
  have hset : ∀ {s ss}, statement? s = some .setting →
      ofSentences? (s :: ss) = ofSentences? ss := fun {s ss} hs ↦ by
    rw [ofSentences?, hs]
    cases ofSentences? ss <;> rfl
  exact (hset rfl).trans (hset rfl)

/-- From the text of a graph its drawing is read. -/
theorem read?_toDot (g : CallGraph) (label : FunctionId → String)
    (highlighted : FunctionId → Bool) :
    read? (g.toDot label highlighted) = some (g.drawing label highlighted) := by
  have hsettings : ∀ s ∈ settings, .mark ';' ∉ s := by decide
  have hsentences : ∀ s ∈ settings ++ (g.drawing label highlighted).nodes.map nodeSentence ++
      (g.drawing label highlighted).edges.map edgeSentence, .mark ';' ∉ s := by
    simp only [List.mem_append, List.mem_map]
    rintro s ((hs | ⟨n, -, rfl⟩) | ⟨e, -, rfl⟩)
    · exact hsettings s hs
    · exact not_mem_nodeSentence n
    · exact not_mem_edgeSentence e
  have hrest : .mark ';' ∉ [Token.mark '\x7d'] := by decide
  rw [read?, tokens?_toDot, Option.bind_some]
  show ofBody? _ = _
  rw [ofBody?, sentences_ended hsentences hrest, if_pos rfl, List.append_assoc,
    ofSentences?_settings, ofSentences?_nodes]

end Drawing

/-! ### What is read -/

namespace CallGraph

variable {g : CallGraph}

/-- What is read from the text of a well-formed graph. -/
theorem WellFormed.drawing_shows (h : g.WellFormed) (label : FunctionId → String)
    (highlighted : FunctionId → Bool) : (g.drawing label highlighted).Shows g.sortedNodes
      g.edgesByCaller g.nodeNumber label highlighted := by
  have hmem : ∀ {id}, id ∈ g.sortedNodes ↔ id ∈ g.nodes := List.mem_mergeSort
  have hnumbers : (g.drawing label highlighted).nodes.map (·.number) =
      g.sortedNodes.map g.nodeNumber := List.map_map
  refine ⟨rfl, rfl, ?_, fun e he ↦ ?_⟩
  · rw [hnumbers]
    refine List.Nodup.map_on (fun a ha b _ hab ↦ (nodeNumber_inj (hmem.1 ha)).1 hab) ?_
    exact (List.mergeSort_perm _ _).nodup_iff.2 h.nodes_nodup
  · rw [hnumbers]
    obtain ⟨e, hedge, rfl⟩ := List.mem_map.1 he
    have hedge := mem_edges_of_mem_edgesByCaller hedge
    exact ⟨List.mem_map_of_mem (hmem.2 (h.caller_mem hedge)),
      List.mem_map_of_mem (hmem.2 (h.callee_mem hedge))⟩

/-- In the text of the graph of an index, functions are written by their own numbers. -/
theorem build_drawing_shows (o : Options) (u : Syntax.SourceUnit) (label : FunctionId → String)
    (highlighted : FunctionId → Bool) : ((build (Index.build o u)).drawing label highlighted).Shows
      (List.range (Index.build o u).functions.size) (build (Index.build o u)).edgesByCaller id
      label highlighted := by
  have hformed := build_wellFormed o u
  have hshows := hformed.drawing_shows label highlighted
  have hsorted : (build (Index.build o u)).sortedNodes =
      List.range (Index.build o u).functions.size := by
    rw [sortedNodes, build_nodes]
    exact List.mergeSort_of_pairwise (List.pairwise_le_range.imp decide_eq_true)
  rw [hsorted] at hshows
  refine ⟨hshows.nodes_eq.trans (List.map_congr_left fun x hx ↦ ?_),
    hshows.edges_eq.trans (List.map_congr_left fun e he ↦ ?_), hshows.numbers_nodup,
    hshows.ends_mem⟩
  · rw [nodeNumber_build (build_nodes o u ▸ hx), id]
  · have hedge := mem_edges_of_mem_edgesByCaller he
    rw [nodeNumber_build (hformed.caller_mem hedge), nodeNumber_build (hformed.callee_mem hedge),
      id, id]

/-- **The text of a graph can be read.** Whatever the labels are, a reader of the text of a graph
gets back its nodes by increasing functions, each with its number, its label and whether it is
highlighted, and its edges in their order, with their kinds and with ends that are nodes. In a graph
that additions make, a function has the number of its first mention among the functions. In the
graph of an index it has its own. -/
theorem toDot_shows (label : FunctionId → String) (highlighted : FunctionId → Bool) :
    (∀ es, ∃ d, Drawing.read? ((({} : CallGraph).addEdges es).toDot label highlighted) = some d ∧
      d.Shows (mentioned es).toFinset.sort (({} : CallGraph).addEdges es).edgesByCaller
        (mentioned es).eraseDups.idxOf label highlighted) ∧
    ∀ o u, ∃ d, Drawing.read? ((build (Index.build o u)).toDot label highlighted) = some d ∧
      d.Shows (List.range (Index.build o u).functions.size)
        (build (Index.build o u)).edgesByCaller id label highlighted := by
  refine ⟨fun es ↦ ⟨_, Drawing.read?_toDot _ label highlighted, ?_⟩,
    fun o u ↦ ⟨_, Drawing.read?_toDot _ label highlighted, build_drawing_shows o u _ _⟩⟩
  have hformed := wellFormed_empty.addEdges es
  have hnumber : (({} : CallGraph).addEdges es).nodeNumber = (mentioned es).eraseDups.idxOf := by
    rw [← nodes_addEdges_empty]
    rfl
  rw [← nodes_addEdges_empty_toFinset, ← hformed.sortedNodes_eq, ← hnumber]
  exact hformed.drawing_shows label highlighted

end CallGraph

end RenderTrace
