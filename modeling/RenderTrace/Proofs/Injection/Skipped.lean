import RenderTrace.Proofs.Function.Parameters
import RenderTrace.Proofs.Injection.Quotation
import RenderTrace.Proofs.Syntax.Sample
import RenderTrace.Proofs.Text.StringLiteral
import RenderTrace.Proofs.Tracker.Suppressed

/-!
# Parameters that are left out

A parameter with the skip marker is to be left out when a tracker compares the arguments of two
calls. The marker takes a long way there. The index collects the names of the marked parameters; the
tracker call lists them as string literals, and pushes the values of all parameters under keys that
are string literals too; and the tracker compares the keys with the names, as texts.

Here the tracker call is read back the way it runs: what it pushes (`Injection.pushes`) and what it
leaves out (`Injection.skippedOf`). The two texts of one parameter differ in the raw mark, which is
dropped from the key and kept in the name. So a marked parameter is left out if its name has no raw
mark, and else it is compared like the others (`Injection.skipped_iff`).
-/

namespace RenderTrace.Injection

open Syntax Quotation

/-! ### Reading a tracker call -/

/-- The text that an expression is, if it is a string literal. -/
def textOf? : Node → Option String
  | .node .exprLit [_, .token .literal t _] => Token.StringLiteral.text? t
  | _ => none

/-- The arguments of the call that a statement is. -/
def argumentsOf : Node → List Node
  | .node .stmtExpr [.node .exprCall [_, _, .group _ [args]], _] => args.elements
  | _ => []

/-- What a statement adds to the snapshot: the key, and the expression that captures the value. -/
def pushed? : Node → Option (String × Node)
  | .node .stmtExpr [.node .exprMethodCall [_, _, _, method, _, .group _ [args]], _] =>
    match args.elements with
    | [key, value] =>
      if method.text == "push_captured" then (textOf? key).map fun k ↦ (k, value) else none
    | _ => none
  | _ => none

/-- What a tracker call adds to its snapshot, one after the other. -/
def pushes (call : Node) : List (String × Node) :=
  match argumentsOf call with
  | [_, _, .node .exprReference [_, _, _, .node .exprBlock [_, _, b]], _] =>
    (Injector.statementsOf b).filterMap pushed?
  | _ => []

/-- The names that a tracker call leaves out. -/
def skippedOf (call : Node) : List String :=
  match argumentsOf call with
  | [_, _, _, .node .exprReference [_, _, _, .node .exprArray [_, .group _ [names]]]] =>
    names.elements.filterMap textOf?
  | _ => []

/-- The snapshot that a tracker call makes, where `value` says what expressions capture. -/
def snapshotOf (call : Node) (value : Node → Option Captured) : Arguments :=
  .of Prod.fst (fun push ↦ value push.2) (pushes call)

theorem textOf?_text (s : String) : textOf? (text s) = some s :=
  Token.StringLiteral.text?_stringLiteral s

theorem commas_elements {es : List Node} (h : ∀ e ∈ es, e.isToken = false) :
    (commas es).elements = es := by
  have hrest : ∀ es : List Node, (∀ e ∈ es, e.isToken = false) →
      (es.flatMap fun x ↦ [Node.op ",", x]).filter (fun c ↦ !c.isToken) = es := by
    intro es hes
    induction es with
    | nil => rfl
    | cons e es ih =>
      have hop : (Node.op ",").isToken = true := rfl
      rw [List.flatMap_cons, List.filter_append, ih fun x hx ↦ hes x (List.mem_cons_of_mem _ hx)]
      simp [hop, hes e List.mem_cons_self]
  cases es with
  | nil => rfl
  | cons e es =>
    have he := h e List.mem_cons_self
    have hes := hrest es fun x hx ↦ h x (List.mem_cons_of_mem _ hx)
    simp [commas, Node.elements, Node.list, Node.children, he, hes]

theorem argumentsOf_call {f : Node} {args : List Node} (h : ∀ e ∈ args, e.isToken = false)
    (hspells : spellsItself (call f args) = true) :
    argumentsOf (statement (call f args)) = args := by
  rw [statement_of_spellsItself hspells]
  exact commas_elements h

theorem captured_isToken (runtime : Node) (p : Param) : (captured runtime p).isToken = false := by
  unfold captured
  split <;> rfl

/-- A statement that pushes a parameter pushes it under its key. -/
theorem pushed?_push (runtime : Node) (p : Param) :
    pushed? (push runtime p) = some (snapshotKey p, captured runtime p) := by
  have hargs : (commas [text (snapshotKey p), captured runtime p]).elements =
      [text (snapshotKey p), captured runtime p] := by
    refine commas_elements fun e he ↦ ?_
    rcases List.mem_pair.1 he with rfl | rfl
    · rfl
    · exact captured_isToken runtime p
  have hpush : push runtime p = .node .stmtExpr [methodCall (name argumentsVariable) "push_captured"
      [text (snapshotKey p), captured runtime p], .op ";"] := statement_of_spellsItself rfl
  simp only [hpush, methodCall, pushed?, hargs, textOf?_text]
  rfl

variable {runtime call : Node} {host : String} {f : Function}

/-- A tracker call has four arguments, unless it is read as an assignment, which has none. There is
no snapshot then. -/
theorem argumentsOf_tracker (h : trackerStatement? runtime host f = some call) :
    argumentsOf call = [name host, text f.declaration.displayName,
        snapshot runtime (capturedParams f.declaration.params host), skippedNames f.skip] ∨
      argumentsOf call = [] ∧ capturedParams f.declaration.params host = [] := by
  unfold trackerStatement? at h
  dsimp only at h
  split at h
  · next hfits =>
    cases hspells : spellsItself (Quotation.call (use (extend runtime trackerEntry))
        [name host, text f.declaration.displayName,
          snapshot runtime (capturedParams f.declaration.params host), skippedNames f.skip]) with
    | true =>
      left
      rw [eq_statement h]
      refine argumentsOf_call (fun e he ↦ ?_) hspells
      simp only [List.mem_cons, List.not_mem_nil, or_false] at he
      rcases he with rfl | rfl | rfl | rfl
      · rfl
      · rfl
      · unfold snapshot
        split <;> rfl
      · rfl
    | false =>
      right
      obtain ⟨parts, semi, rfl⟩ := exists_assignment hspells h
      refine ⟨rfl, ?_⟩
      -- a path that is fit for an import is fit for a call
      have hpath : fitsExpression (extend runtime trackerEntry) = false := hspells
      rw [fitsExpression_extend] at hpath
      rw [Bool.or_eq_true, List.isEmpty_iff] at hfits
      refine hfits.resolve_right fun himport ↦ ?_
      rw [fitsImport, Bool.and_eq_true] at himport
      rw [fitsExpression_of_isPlainPath himport.1] at hpath
      cases hpath
  · cases h

/-- A tracker call pushes the captured parameters, each under its key. -/
theorem pushes_tracker (h : trackerStatement? runtime host f = some call) :
    pushes call = (capturedParams f.declaration.params host).map
      fun p ↦ (snapshotKey p, captured runtime p) := by
  rcases argumentsOf_tracker h with harguments | ⟨harguments, hnone⟩
  swap
  · rw [pushes, harguments, hnone]
    rfl
  rw [pushes, harguments]
  unfold snapshot
  cases hparams : capturedParams f.declaration.params host with
  | nil => rfl
  | cons p ps =>
    have hpushes : ((p :: ps).map (push runtime)).filterMap pushed? =
        (p :: ps).map fun p ↦ (snapshotKey p, captured runtime p) := by
      rw [List.filterMap_map, ← List.filterMap_eq_map]
      exact List.filterMap_congr fun p _ ↦ pushed?_push runtime p
    -- the import and the variable in front of them push nothing, nor does the value behind them
    show (_ ++ (p :: ps).map (push runtime) ++
      [value (name argumentsVariable)]).filterMap pushed? = _
    rw [List.filterMap_append, List.filterMap_append, hpushes]
    exact List.append_nil _

/-- A tracker call with a snapshot leaves out the names that the index has. -/
theorem skippedOf_tracker (h : trackerStatement? runtime host f = some call)
    (hsome : capturedParams f.declaration.params host ≠ []) :
    skippedOf call = f.skip.parameters := by
  have htexts : ((f.skip.parameters.map text).filterMap textOf?) = f.skip.parameters := by
    rw [List.filterMap_map]
    refine (List.filterMap_congr fun s _ ↦ textOf?_text s).trans ?_
    exact List.filterMap_some
  have helements : (commas (f.skip.parameters.map text)).elements = f.skip.parameters.map text := by
    refine commas_elements fun e he ↦ ?_
    obtain ⟨s, -, rfl⟩ := List.mem_map.1 he
    rfl
  rw [skippedOf, (argumentsOf_tracker h).resolve_right fun hnone ↦ hsome hnone.2]
  show (commas (f.skip.parameters.map text)).elements.filterMap textOf? = f.skip.parameters
  rw [helements, htexts]

/-! ### Names and keys -/

/-- The names that parameters bind are spelled as identifiers are, with no hash sign but in a raw
mark, and they are different, raw mark or not. -/
structure Named (params : List Param) : Prop where
  nodup : ((params.filter (·.binding)).map snapshotKey).Nodup
  spelled : ∀ p ∈ params, p.binding = true → '#' ∉ (snapshotKey p).toList

instance (params : List Param) : Decidable (Named params) :=
  decidable_of_iff (((params.filter (·.binding)).map snapshotKey).Nodup ∧
      ∀ p ∈ params, p.binding = true → '#' ∉ (snapshotKey p).toList)
    ⟨fun h ↦ ⟨h.1, h.2⟩, fun h ↦ ⟨h.nodup, h.spelled⟩⟩

theorem bareName_eq_self {s : String} (h : '#' ∉ s.toList) : Node.bareName s = s := by
  have hstart : s.startsWith "r#" = false := by
    rw [String.startsWith_string_eq_false_iff]
    exact fun hstarts ↦ h (hstarts.subset (by decide))
  rw [Node.bareName, hstart]
  rfl

variable {o : Options} {u : SourceUnit} {n : Node}

/-- A parameter is left out if it has the skip marker and no raw mark. -/
theorem mem_skipped_iff (hn : Index.Declares o n f) (hnames : Named f.declaration.params)
    {p : Param} {attrs : List Node} (hp : (p, attrs) ∈ Index.paramsOf o n)
    (hbinding : p.binding = true) :
    snapshotKey p ∈ f.skip.parameters ↔
      Marker.hasMarker attrs Marker.skipMarker = true ∧ snapshotKey p = p.name := by
  have hmem : ∀ q ∈ Index.paramsOf o n, q.1 ∈ f.declaration.params := by
    intro q hq
    rw [hn.params]
    exact List.mem_map_of_mem hq
  -- parameters are told apart by their keys
  have hinj : ∀ q ∈ Index.paramsOf o n, q.1.binding = true → snapshotKey q.1 = snapshotKey p →
      q = (p, attrs) := by
    intro q hq hqbinding hkey
    have hnodup := hnames.nodup
    rw [hn.params, List.filter_map, List.map_map] at hnodup
    exact List.inj_on_of_nodup_map hnodup (List.mem_filter.2 ⟨hq, hqbinding⟩)
      (List.mem_filter.2 ⟨hp, hbinding⟩) hkey
  rw [hn.skipped, Skip.mem_sorted_iff]
  simp only [List.mem_map, List.mem_filter, Bool.and_eq_true]
  constructor
  · rintro ⟨q, ⟨hq, hqbinding, hqmarked⟩, hname⟩
    have hkey : snapshotKey q.1 = snapshotKey p := by
      rw [snapshotKey, hname, bareName_eq_self (hnames.spelled p (hmem _ hp) hbinding)]
    obtain rfl := hinj q hq hqbinding hkey
    exact ⟨hqmarked, hname.symm⟩
  · rintro ⟨hmarked, hname⟩
    exact ⟨(p, attrs), ⟨hp, hbinding, hmarked⟩, hname.symm⟩

/-- The keys that a tracker call pushes are different. -/
theorem pushes_nodup (hcall : trackerStatement? runtime host f = some call)
    (hnames : Named f.declaration.params) : ((pushes call).map (·.1)).Nodup := by
  have hsublist : (capturedParams f.declaration.params host).Sublist
      (f.declaration.params.filter (·.binding)) := by
    rw [capturedParams, ← List.filter_filter]
    exact (List.filter_sublist).filter _
  rw [pushes_tracker hcall, List.map_map]
  exact hnames.nodup.sublist (hsublist.map snapshotKey)

/-- **Which parameters are left out.** A tracker call pushes every captured parameter under its key,
and it leaves out the keys of those that have the skip marker and are named without a raw mark. So a
call in the steady phase is suppressed if and only if a parameter differs from the call before, and
all that differ are of this kind. -/
theorem skipped_iff (hf : f ∈ (Index.build o u).functions)
    (hcall : trackerStatement? runtime host f = some call) (hnames : Named f.declaration.params) :
    ∃ n, u.Holds n ∧ Index.Declares o n f ∧
      (∀ p attrs, (p, attrs) ∈ Index.paramsOf o n → p ∈ capturedParams f.declaration.params host →
        (snapshotKey p, captured runtime p) ∈ pushes call ∧
        (snapshotKey p ∈ skippedOf call ↔
          Marker.hasMarker attrs Marker.skipMarker = true ∧ snapshotKey p = p.name)) ∧
      ∀ (t : Tracker) (before now : Node → Option Captured), t.phase = .steady →
        t.last = snapshotOf call before →
        ((∃ cs, (t.recompose (snapshotOf call now) (skippedOf call)).2.1 = .suppressed cs) ↔
          (∃ p ∈ capturedParams f.declaration.params host,
            (before (captured runtime p)).map (·.text) ≠ (now (captured runtime p)).map (·.text)) ∧
          ∀ p attrs, (p, attrs) ∈ Index.paramsOf o n →
            p ∈ capturedParams f.declaration.params host →
            (before (captured runtime p)).map (·.text) ≠ (now (captured runtime p)).map (·.text) →
            Marker.hasMarker attrs Marker.skipMarker = true ∧ snapshotKey p = p.name) := by
  obtain ⟨n, hholds, hn⟩ := Index.exists_declares hf
  have hskipped : ∀ p attrs, (p, attrs) ∈ Index.paramsOf o n →
      p ∈ capturedParams f.declaration.params host → (snapshotKey p ∈ skippedOf call ↔
        Marker.hasMarker attrs Marker.skipMarker = true ∧ snapshotKey p = p.name) := by
    intro p attrs hp hcaptured
    have hbinding := (Bool.and_eq_true_iff.1 (List.mem_filter.1 hcaptured).2).1
    rw [skippedOf_tracker hcall (List.ne_nil_of_mem hcaptured)]
    exact mem_skipped_iff hn hnames hp hbinding
  refine ⟨n, hholds, hn, fun p attrs hp hcaptured ↦ ⟨?_, hskipped p attrs hp hcaptured⟩, ?_⟩
  · rw [pushes_tracker hcall]
    exact List.mem_map_of_mem hcaptured
  · intro t before now hphase hlast
    rw [snapshotOf, Tracker.recompose_suppressed_iff hphase (pushes_nodup hcall hnames) hlast,
      pushes_tracker hcall, List.forall_mem_map]
    simp only [List.mem_map, exists_exists_and_eq_and]
    refine and_congr_right fun _ ↦ ⟨fun hall p attrs hp hcaptured hdiffers ↦ ?_,
      fun hall p hcaptured hdiffers ↦ ?_⟩
    · exact (hskipped p attrs hp hcaptured).1 (hall p hcaptured hdiffers)
    · -- every parameter was written with some attributes
      obtain ⟨⟨p, attrs⟩, hp, rfl⟩ : ∃ q ∈ Index.paramsOf o n, q.1 = p := by
        rw [← List.mem_map, ← hn.params]
        exact (List.mem_filter.1 hcaptured).1
      exact (hskipped p attrs hp hcaptured).2 (hall p attrs hp hcaptured hdiffers)

/-! A marked parameter with a raw mark: its key is not among the names left out. -/

/-- A function with the host and a marked parameter that is named by a keyword. -/
def rawUnit : SourceUnit :=
  unitOf [function 1 [] "field"
    [input [] "cx" "Host", input ["skip_recomposition_tracking"] "r#type" "u32"] []]

theorem skipped_iff_rawUnit : ∃ f call, f ∈ (Index.build {} rawUnit).functions ∧
    trackerStatement? (path true ["runtime"]) "cx" f = some call ∧ Named f.declaration.params ∧
    (pushes call).map (·.1) = ["type"] ∧ skippedOf call = ["r#type"] ∧
    ∃ n, rawUnit.Holds n ∧ Index.Declares {} n f ∧
      (∀ p attrs, (p, attrs) ∈ Index.paramsOf {} n →
        p ∈ capturedParams f.declaration.params "cx" →
        (snapshotKey p, captured (path true ["runtime"]) p) ∈ pushes call ∧
        (snapshotKey p ∈ skippedOf call ↔
          Marker.hasMarker attrs Marker.skipMarker = true ∧ snapshotKey p = p.name)) := by
  have hfield : ((Index.build {} rawUnit).functions[0]?.any fun f ↦
      decide (Named f.declaration.params) &&
        (trackerStatement? (path true ["runtime"]) "cx" f).any fun call ↦
          decide ((pushes call).map (·.1) = ["type"] ∧ skippedOf call = ["r#type"])) = true := by
    decide +kernel
  obtain ⟨f, hf, hfield⟩ := (Option.any_eq_true _ _).1 hfield
  obtain ⟨hnames, hcall⟩ := Bool.and_eq_true_iff.1 hfield
  obtain ⟨call, hcall, htexts⟩ := (Option.any_eq_true _ _).1 hcall
  have hmem := Array.mem_of_getElem? hf
  obtain ⟨n, hholds, hn, hskipped, -⟩ := skipped_iff hmem hcall (of_decide_eq_true hnames)
  obtain ⟨hkeys, hskips⟩ := of_decide_eq_true htexts
  exact ⟨f, call, hmem, hcall, of_decide_eq_true hnames, hkeys, hskips, n, hholds, hn, hskipped⟩

end RenderTrace.Injection
