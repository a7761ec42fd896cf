import RenderTrace.Marker
import RenderTrace.Token.Lexer

/-!
# What the tracking marker asks for

A function is tracked if one of its attributes is the tracking marker, and the first such marker
tells whether the functions that it refers to are included (`Tracking.ofAttributes_told`). The
marker tells it by a value, or by a list of arguments: by the first argument, if that is a truth
value, and else by the first assignment to the setting. Nothing else is looked at.

What decides is said in two steps: `IsTruthValue` and `Assigns` tell by the form of an expression
what `Marker.decides?` makes of it, and `AskNested` tells by the place of an argument which one it
is that decides.
-/

namespace RenderTrace

open Syntax

namespace Marker

/-! ### Arguments -/

/-- An expression is a truth value: the literal, or a truth value in parentheses. -/
inductive IsTruthValue (b : Bool) : Node → Prop where
  | literal (attributes : Node) (s : Span) :
      IsTruthValue b (.node .exprLit [attributes, .token .word (toString b) s])
  | paren (attributes : Node) (d : Delimiter) {e : Node} (h : IsTruthValue b e) :
      IsTruthValue b (.node .exprParen [attributes, .group d [e]])

/-- An argument assigns a value to the setting, which stands on the left side by its bare name. -/
inductive Assigns (value : Node) : Node → Prop where
  | of_name (attributes pathAttributes path op : Node) {key : String}
      (hkey : key ∈ includeNestedKeys) (hpath : path.isWord key = true) :
      Assigns value (.node .exprAssign [attributes, .node .exprPath [pathAttributes, path], op, value])

theorem truthValue?_eq_some_iff {b : Bool} {e : Node} :
    truthValue? e = some b ↔ IsTruthValue b e := by
  constructor
  · intro h
    fun_induction truthValue? e with
    | case1 attributes t s htrue =>
      obtain rfl := Option.some.inj h
      exact eq_of_beq htrue ▸ .literal attributes s
    | case2 attributes t s _ hfalse =>
      obtain rfl := Option.some.inj h
      exact eq_of_beq hfalse ▸ .literal attributes s
    | case4 attributes d e ih => exact .paren attributes d (ih h)
    | _ => cases h
  · intro h
    induction h with
    | literal attributes s => cases b <;> rfl
    | paren attributes d _ ih => exact ih

theorem decides?_of_assigns {value e : Node} (h : Assigns value e) (first : Bool) :
    decides? first e = some ((truthValue? value).getD false) := by
  obtain ⟨attributes, pathAttributes, path, op, hkey, hpath⟩ := h
  rw [decides?, if_pos (List.any_eq_true.2 ⟨_, hkey, hpath⟩)]

theorem truthValue?_exprAssign (cs : List Node) : truthValue? (.node .exprAssign cs) = none := by
  simp [truthValue?]

theorem not_isTruthValue_of_assigns {value e : Node} (h : Assigns value e) (b : Bool) :
    ¬ IsTruthValue b e := by
  rw [← truthValue?_eq_some_iff]
  obtain ⟨attributes, pathAttributes, path, op, -, -⟩ := h
  rw [truthValue?_exprAssign]
  exact nofun

theorem decides?_of_not_assigns {e : Node} (h : ∀ value, ¬ Assigns value e) (first : Bool) :
    decides? first e = if first then truthValue? e else none := by
  unfold decides?
  split
  · next attributes pathAttributes path op value =>
    have hno : ¬ includeNestedKeys.any path.isWord = true := fun hany ↦ by
      obtain ⟨key, hkey, hpath⟩ := List.any_eq_true.1 hany
      exact h value (.of_name attributes pathAttributes path op hkey hpath)
    rw [if_neg hno, truthValue?_exprAssign, ite_self]
  · rw [truthValue?_exprAssign, ite_self]
  · rfl

/-! ### Lists of arguments -/

/-- The first argument that assigns to the setting assigns `value`. -/
inductive FirstAssigns (value : Node) : List Node → Prop where
  | here {e : Node} (behind : List Node) (h : Assigns value e) : FirstAssigns value (e :: behind)
  | behind {e : Node} {behind : List Node} (he : ∀ other, ¬ Assigns other e)
      (h : FirstAssigns value behind) : FirstAssigns value (e :: behind)

/-- Arguments ask for the functions that are referred to: the first of them is `true`, or it is no
truth value and the first assignment to the setting says `true`. -/
def AskNested (args : List Node) : Prop :=
  (∃ e ∈ args.head?, IsTruthValue true e) ∨
    (∀ e ∈ args.head?, ∀ b, ¬ IsTruthValue b e) ∧
      ∃ value, FirstAssigns value args ∧ IsTruthValue true value

/-- An argument decides behind others: it assigns to the setting, or it is the first one and a truth
value. -/
def Decides (before : List Node) (e : Node) : Prop :=
  (∃ value, Assigns value e) ∨ before = [] ∧ ∃ b, IsTruthValue b e

theorem value_eq_of_assigns {value value' e : Node} (h : Assigns value e) (h' : Assigns value' e) :
    value = value' := by
  cases h
  cases h'
  rfl

theorem findSome?_decides {b : Bool} {args : List Node} : args.findSome? (decides? false) = some b ↔
    ∃ value, FirstAssigns value args ∧ (truthValue? value).getD false = b := by
  induction args with
  | nil => exact ⟨nofun, fun ⟨_, h, _⟩ ↦ by cases h⟩
  | cons e args ih =>
    by_cases he : ∃ value, Assigns value e
    · obtain ⟨value, he⟩ := he
      rw [List.findSome?_cons, decides?_of_assigns he]
      refine ⟨fun h ↦ ⟨value, .here args he, Option.some.inj h⟩, ?_⟩
      rintro ⟨other, hfirst, hb⟩
      cases hfirst with
      | here _ he' => rw [value_eq_of_assigns he he', hb]
      | behind hno _ => exact (hno value he).elim
    · have hno (other : Node) : ¬ Assigns other e := not_exists.1 he other
      rw [List.findSome?_cons, decides?_of_not_assigns hno, if_neg Bool.false_ne_true, ih]
      constructor
      · rintro ⟨value, hfirst, hb⟩
        exact ⟨value, .behind hno hfirst, hb⟩
      · rintro ⟨value, hfirst, hb⟩
        cases hfirst with
        | here _ he' => exact (hno value he').elim
        | behind _ hfirst => exact ⟨value, hfirst, hb⟩

theorem truthValue?_getD {value : Node} :
    (truthValue? value).getD false = true ↔ IsTruthValue true value := by
  rw [← truthValue?_eq_some_iff]
  cases truthValue? value <;> simp

/-- An argument in front that is no truth value is as good as any other. -/
theorem decides?_of_not_isTruthValue {e : Node} (h : ∀ b, ¬ IsTruthValue b e) (first : Bool) :
    decides? first e = decides? false e := by
  by_cases he : ∃ value, Assigns value e
  · obtain ⟨value, he⟩ := he
    rw [decides?_of_assigns he, decides?_of_assigns he]
  · have hnone : truthValue? e = none := by
      simpa [Option.eq_none_iff_forall_ne_some, truthValue?_eq_some_iff] using h
    rw [decides?_of_not_assigns (not_exists.1 he), decides?_of_not_assigns (not_exists.1 he), hnone,
      ite_self, ite_self]

theorem decides?_of_isTruthValue {b : Bool} {e : Node} (h : IsTruthValue b e) :
    decides? true e = some b := by
  rw [decides?_of_not_assigns fun value hvalue ↦ not_isTruthValue_of_assigns hvalue b h, if_pos rfl,
    truthValue?_eq_some_iff.2 h]

/-- A list that does not begin with a truth value is searched for the first assignment. -/
theorem settingOf_of_not_isTruthValue {args : List Node}
    (h : ∀ e ∈ args.head?, ∀ b, ¬ IsTruthValue b e) :
    settingOf args = (args.findSome? (decides? false)).getD false := by
  cases args with
  | nil => rfl
  | cons e args =>
    rw [settingOf, decides?_of_not_isTruthValue (h e rfl), List.findSome?_cons]
    cases decides? false e <;> rfl

theorem settingOf_eq_true_iff (args : List Node) : settingOf args = true ↔ AskNested args := by
  by_cases hfirst : ∃ e ∈ args.head?, ∃ b, IsTruthValue b e
  · obtain ⟨e, he, b, hb⟩ := hfirst
    obtain ⟨behind, rfl⟩ := List.head?_eq_some_iff.1 he
    have hsetting : settingOf (e :: behind) = b := by
      rw [settingOf, decides?_of_isTruthValue hb]
      rfl
    rw [hsetting]
    constructor
    · rintro rfl
      exact .inl ⟨e, rfl, hb⟩
    · rintro (⟨_, he', htrue⟩ | ⟨hno, -⟩)
      · obtain rfl := Option.some.inj he'
        rw [← truthValue?_eq_some_iff] at hb htrue
        exact Option.some.inj (hb.symm.trans htrue)
      · exact (hno e he b hb).elim
  · have hno : ∀ e ∈ args.head?, ∀ b, ¬ IsTruthValue b e := by simpa using hfirst
    rw [settingOf_of_not_isTruthValue hno]
    constructor
    · intro h
      obtain ⟨b, hfind, rfl⟩ : ∃ b, args.findSome? (decides? false) = some b ∧ b = true := by
        cases hfind : args.findSome? (decides? false) with
        | none => rw [hfind] at h; cases h
        | some b => rw [hfind] at h; exact ⟨b, rfl, h⟩
      obtain ⟨value, hfirst, hvalue⟩ := findSome?_decides.1 hfind
      exact .inr ⟨hno, value, hfirst, truthValue?_getD.1 hvalue⟩
    · rintro (⟨e, he, htrue⟩ | ⟨-, value, hfirst, hvalue⟩)
      · exact (hno e he true htrue).elim
      · rw [findSome?_decides.2 ⟨value, hfirst, truthValue?_getD.2 hvalue⟩]
        rfl

example : (Token.forest? "nested, include_nested = (true), include_nested = false").toOption.bind
    (fun trees ↦ (Marker.arguments trees).toOption.map settingOf) = some true := by
  decide +kernel

/-- What is behind an argument that decides makes no difference. -/
theorem settingOf_of_decides {before : List Node} {e : Node} (h : Decides before e)
    (behind behind' : List Node) :
    settingOf (before ++ e :: behind) = settingOf (before ++ e :: behind') := by
  rcases h with ⟨value, hvalue⟩ | ⟨rfl, b, hb⟩
  · cases before with
    | nil =>
      simp only [List.nil_append, settingOf, decides?_of_assigns hvalue]
      rfl
    | cons first before =>
      simp only [List.cons_append, settingOf, List.findSome?_append, List.findSome?_cons,
        decides?_of_assigns hvalue]
  · simp only [List.nil_append, settingOf, decides?_of_isTruthValue hb]
    rfl

theorem isMarker_iff {name : String} {a : Node} :
    isMarker name a = true ↔ a.attributeName? = some name :=
  beq_iff_eq

end Marker

open Marker

namespace Tracking

/-! ### Markers -/

/-- A marker has a list of arguments, which is read to its end. -/
inductive Lists (a : Node) (args : List Node) : Prop where
  | of_inside {path : Node} {d : Delimiter} {trees : List TokenTree}
      (hinside : a.attributeInside = .node .metaList [path, .group d [.unread trees]])
      (hread : Marker.arguments trees = .ok args)

/-- A marker asks for the functions that are referred to: by its value, or by its arguments. -/
inductive AsksNested (a : Node) : Prop where
  | value {path eq value : Node} (hinside : a.attributeInside = .node .metaNameValue [path, eq, value])
      (hvalue : IsTruthValue true value)
  | arguments {args : List Node} (hlists : Lists a args) (hask : AskNested args)

theorem settingOfMarker_of_lists {a : Node} {args : List Node} (h : Lists a args) :
    settingOfMarker a = (settingOf args, none) := by
  obtain ⟨hinside, hread⟩ := h
  simp only [settingOfMarker, hinside, hread]

theorem settingOfMarker_eq_true_iff (a : Node) :
    (settingOfMarker a).1 = true ↔ AsksNested a := by
  constructor
  · intro h
    unfold settingOfMarker at h
    split at h
    · next path eq value hinside => exact .value hinside (truthValue?_getD.1 h)
    · next path d trees hinside =>
      split at h
      · next args hread => exact .arguments ⟨hinside, hread⟩ ((settingOf_eq_true_iff args).1 h)
      · cases h
    · cases h
  · rintro (⟨hinside, hvalue⟩ | ⟨hlists, hask⟩)
    · simp only [settingOfMarker, hinside]
      exact truthValue?_getD.2 hvalue
    · rw [settingOfMarker_of_lists hlists]
      exact (settingOf_eq_true_iff _).2 hask

/-! ### Attributes -/

/-- The first tracking marker among attributes. -/
inductive FirstMarker (a : Node) : List Node → Prop where
  | of_append {before : List Node} (behind : List Node)
      (hbefore : ∀ b ∈ before, b.attributeName? ≠ some trackMarker)
      (ha : a.attributeName? = some trackMarker) : FirstMarker a (before ++ a :: behind)

variable {attributes : List Node} {a : Node}

theorem find?_eq_some_iff :
    attributes.find? (isMarker trackMarker) = some a ↔ FirstMarker a attributes := by
  rw [List.find?_eq_some_iff_append, isMarker_iff]
  constructor
  · rintro ⟨ha, before, behind, rfl, hbefore⟩
    refine .of_append behind (fun b hb hmarker ↦ ?_) ha
    have hno := hbefore b hb
    rw [isMarker_iff.2 hmarker] at hno
    cases hno
  · rintro ⟨behind, hbefore, ha⟩
    exact ⟨ha, _, behind, rfl, fun b hb ↦ by simpa [← isMarker_iff] using hbefore b hb⟩

theorem ofAttributes_of_firstMarker (h : FirstMarker a attributes) :
    ofAttributes attributes = (⟨true, (settingOfMarker a).1⟩, (settingOfMarker a).2) := by
  rw [ofAttributes, find?_eq_some_iff.2 h]

theorem ofAttributes_of_no_marker (h : ∀ a ∈ attributes, a.attributeName? ≠ some trackMarker) :
    ofAttributes attributes = ({}, none) := by
  have hnone : attributes.find? (isMarker trackMarker) = none :=
    List.find?_eq_none.2 fun a ha hmarker ↦ h a ha (isMarker_iff.1 hmarker)
  rw [ofAttributes, hnone]

theorem firstMarker_or (attributes : List Node) : (∃ a, FirstMarker a attributes) ∨
    ∀ a ∈ attributes, a.attributeName? ≠ some trackMarker := by
  cases hfind : attributes.find? (isMarker trackMarker) with
  | some a => exact .inl ⟨a, find?_eq_some_iff.1 hfind⟩
  | none => exact .inr fun a ha hmarker ↦ List.find?_eq_none.1 hfind a ha (isMarker_iff.2 hmarker)

theorem FirstMarker.exists_mem (h : FirstMarker a attributes) :
    ∃ a ∈ attributes, a.attributeName? = some trackMarker := by
  obtain ⟨behind, -, ha⟩ := h
  exact ⟨a, List.mem_append_right _ List.mem_cons_self, ha⟩

theorem FirstMarker.unique {a' : Node} (h : FirstMarker a attributes)
    (h' : FirstMarker a' attributes) : a = a' :=
  Option.some.inj ((find?_eq_some_iff.2 h).symm.trans (find?_eq_some_iff.2 h'))

/-- What attributes tell about tracking, and what they do not. -/
structure Told (attributes : List Node) : Prop where
  /-- A function is tracked if it has a tracking marker. -/
  isTracked_iff : (ofAttributes attributes).1.isTracked = true ↔
    ∃ a ∈ attributes, a.attributeName? = some trackMarker
  /-- The first marker tells whether the functions that are referred to are included. -/
  includeNested_iff : (ofAttributes attributes).1.includeNested = true ↔
    ∃ a, FirstMarker a attributes ∧ AsksNested a
  /-- Attributes are alike if their first markers are the same. -/
  eq_of_firstMarker : ∀ {a : Node} {attributes' : List Node}, FirstMarker a attributes →
    FirstMarker a attributes' → ofAttributes attributes' = ofAttributes attributes
  /-- Attributes are alike if they have no marker. -/
  eq_of_no_marker : (∀ a ∈ attributes, a.attributeName? ≠ some trackMarker) →
    ofAttributes attributes = ofAttributes []
  /-- What is behind the argument that decides makes no difference, if the arguments are read. -/
  eq_of_decides : ∀ {a a' e : Node} {before behind behind' attributes' : List Node},
    FirstMarker a attributes → Lists a (before ++ e :: behind) →
    FirstMarker a' attributes' → Lists a' (before ++ e :: behind') →
    Decides before e → ofAttributes attributes' = ofAttributes attributes

/-- **Tracking markers.** Attributes ask for tracking by a tracking marker, and for the functions
that are referred to by what the first such marker says in its value or in its arguments. -/
theorem ofAttributes_told (attributes : List Node) : Told attributes where
  isTracked_iff := by
    rcases firstMarker_or attributes with ⟨a, ha⟩ | hno
    · rw [ofAttributes_of_firstMarker ha]
      exact iff_of_true rfl ha.exists_mem
    · rw [ofAttributes_of_no_marker hno]
      exact iff_of_false Bool.false_ne_true fun ⟨a, ha, hmarker⟩ ↦ hno a ha hmarker
  includeNested_iff := by
    rcases firstMarker_or attributes with ⟨a, ha⟩ | hno
    · rw [ofAttributes_of_firstMarker ha, settingOfMarker_eq_true_iff]
      exact ⟨fun hask ↦ ⟨a, ha, hask⟩, fun ⟨a', ha', hask⟩ ↦ ha.unique ha' ▸ hask⟩
    · rw [ofAttributes_of_no_marker hno]
      refine iff_of_false Bool.false_ne_true fun ⟨a, ha, _⟩ ↦ ?_
      obtain ⟨a', ha', hmarker⟩ := ha.exists_mem
      exact hno a' ha' hmarker
  eq_of_firstMarker ha ha' := by
    rw [ofAttributes_of_firstMarker ha, ofAttributes_of_firstMarker ha']
  eq_of_no_marker h := ofAttributes_of_no_marker h
  eq_of_decides ha hlists ha' hlists' he := by
    rw [ofAttributes_of_firstMarker ha, ofAttributes_of_firstMarker ha',
      settingOfMarker_of_lists hlists, settingOfMarker_of_lists hlists', settingOf_of_decides he]

end Tracking

end RenderTrace
