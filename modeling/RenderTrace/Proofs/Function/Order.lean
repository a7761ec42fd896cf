import RenderTrace.Proofs.Function.Parameters

/-!
# Functions in another order of discovery

Functions are numbered as they are found, and the closures outside any function are named by their
number among them. So one and the same item adds other functions to an index that holds many already
than to one that holds few. `Index.walk_alongside` says how the two differ: in the numbers, which are
shifted by as many as were there before, and in the names of closures, in the number that they begin
with. A function without all that is `Function.anonymous`.

## How a name may depend on what was found before

A closure is counted among those with the same function around it. The functions found before an
item are not around anything inside it (`Index.Closed`), so counting inside an item starts from
nothing. Only outside any function all closures of the unit are counted together.
-/

namespace RenderTrace

open Syntax

/-! ### What is left without numbers -/

namespace Function

/-- What a function is apart from the order of discovery: without the numbers, and without the name
of a closure. -/
def anonymous (f : Function) : Function :=
  { f with
    declaration := { f.declaration with
      id := 0
      localName := if f.isClosure then "" else f.declaration.localName }
    context := { f.context with enclosing := none } }

variable {f f' : Function}

theorem kind_of_anonymous (h : f'.anonymous = f.anonymous) :
    f'.declaration.kind = f.declaration.kind :=
  congrArg (·.declaration.kind) h

theorem location_of_anonymous (h : f'.anonymous = f.anonymous) :
    f'.declaration.location = f.declaration.location :=
  congrArg (·.declaration.location) h

theorem isRender_of_anonymous (h : f'.anonymous = f.anonymous) :
    f'.declaration.isRender = f.declaration.isRender :=
  congrArg (·.declaration.isRender) h

theorem params_of_anonymous (h : f'.anonymous = f.anonymous) :
    f'.declaration.params = f.declaration.params :=
  congrArg (·.declaration.params) h

theorem hasBody_of_anonymous (h : f'.anonymous = f.anonymous) :
    f'.declaration.hasBody = f.declaration.hasBody :=
  congrArg (·.declaration.hasBody) h

theorem tracking_of_anonymous (h : f'.anonymous = f.anonymous) : f'.tracking = f.tracking :=
  (congrArg (fun g : Function ↦ g.tracking) h :)

theorem skip_of_anonymous (h : f'.anonymous = f.anonymous) : f'.skip = f.skip :=
  (congrArg (fun g : Function ↦ g.skip) h :)

theorem sourcePath_of_anonymous (h : f'.anonymous = f.anonymous) : f'.sourcePath = f.sourcePath :=
  (congrArg (fun g : Function ↦ g.sourcePath) h :)

theorem body_of_anonymous (h : f'.anonymous = f.anonymous) : f'.body = f.body :=
  (congrArg (fun g : Function ↦ g.body) h :)

theorem isClosure_of_anonymous (h : f'.anonymous = f.anonymous) : f'.isClosure = f.isClosure := by
  rw [isClosure, isClosure, kind_of_anonymous h]

/-- The name of a function that is no closure is left. -/
theorem localName_of_anonymous (h : f'.anonymous = f.anonymous)
    (hkind : f.declaration.kind ≠ .closure) :
    f'.declaration.localName = f.declaration.localName := by
  have hname : (if f'.isClosure then "" else f'.declaration.localName) =
      if f.isClosure then "" else f.declaration.localName := congrArg (·.declaration.localName) h
  have hclosure : ∀ {g : Function}, g.declaration.kind ≠ .closure → ¬g.isClosure = true :=
    fun hg ↦ by simpa [isClosure] using hg
  rwa [if_neg (hclosure hkind), if_neg (hclosure (kind_of_anonymous h ▸ hkind))] at hname

end Function

namespace Index

/-! ### Names of closures -/

/-- The name of a closure outside any function, by its number. -/
def closureNumber (n : Nat) : String := "\x7bclosure#" ++ toString n ++ "\x7d"

/-- Two names are the same, or those of closures outside any function and of closures inside these,
up to the number that they begin with. -/
inductive SameName : String → String → Prop
  | refl (name : String) : SameName name name
  | renumbered (n n' : Nat) (rest : String) :
    SameName (closureNumber n ++ rest) (closureNumber n' ++ rest)

theorem SameName.append {name name' : String} (h : SameName name name') (rest : String) :
    SameName (name ++ rest) (name' ++ rest) := by
  cases h with
  | refl => exact .refl _
  | renumbered n n' front =>
    rw [String.append_assoc, String.append_assoc]
    exact .renumbered n n' _

/-- How many closures with the same function around them were found. -/
def closuresIn (enclosing : Option FunctionId) (fs : List Function) : Nat :=
  (fs.filter fun f ↦ f.declaration.kind == .closure && f.context.enclosing == enclosing).length

theorem closureName_eq (ctx : Context) (s : Index) :
    closureName ctx s =
      match ctx.enclosing with
      | none => closureNumber (closuresIn ctx.enclosing s.functions.toList + 1)
      | some id => (s.functions[id]?.map (·.declaration.localName)).getD "" ++ "::" ++
          closureNumber (closuresIn ctx.enclosing s.functions.toList + 1) := by
  have hsize : (s.functions.filter fun f ↦ f.declaration.kind == .closure &&
      f.context.enclosing == ctx.enclosing).size =
        closuresIn ctx.enclosing s.functions.toList := by
    rw [closuresIn, ← Array.toList_filter, Array.length_toList]
  unfold closureName
  dsimp only
  rw [hsize]
  rfl

/-! ### Two walks side by side -/

/-- Two numbers are shifted: they count as many from `b` and from `b'` on, fewer than `n`. -/
inductive Shifted (b b' n : Nat) : Option FunctionId → Option FunctionId → Prop
  | none : Shifted b b' n none none
  | some (j : Nat) (h : j < n) : Shifted b b' n (some (b + j)) (some (b' + j))

theorem Shifted.mono {b b' n n' : Nat} (hn : n ≤ n') {e e' : Option FunctionId}
    (h : Shifted b b' n e e') : Shifted b b' n' e e' := by
  cases h with
  | none => exact .none
  | some j hj => exact .some j (Nat.lt_of_lt_of_le hj hn)

/-- Shifted numbers are equal to shifted numbers alike. -/
theorem Shifted.eq_iff {b b' n : Nat} {e e' : Option FunctionId} (h : Shifted b b' n e e')
    (j : Nat) : e' = Option.some (b' + j) ↔ e = Option.some (b + j) := by
  cases h with
  | none => simp
  | some k hk => simp

/-- Two functions with `n` functions in front of each, behind `b` and `b'` others, are the same but
for what depends on those. -/
structure Twin (b b' n : Nat) (f f' : Function) : Prop where
  same : f'.anonymous = f.anonymous
  name : SameName f.declaration.localName f'.declaration.localName
  enclosing : Shifted b b' n f.context.enclosing f'.context.enclosing

/-- Two lists of functions are twins one by one. -/
inductive Twins (b b' : Nat) : List Function → List Function → Prop
  | nil : Twins b b' [] []
  | concat {fs fs' : List Function} {f f' : Function} : Twins b b' fs fs' →
    Twin b b' fs.length f f' → Twins b b' (fs ++ [f]) (fs' ++ [f'])

/-- The functions around those of a list are in the list. -/
def Closed (fs : List Function) : Prop :=
  ∀ f ∈ fs, ∀ j : Nat, f.context.enclosing = some j → j < fs.length

variable {b b' : Nat} {pre pre' fs fs' : List Function}

namespace Twins

theorem length_eq (h : Twins b b' fs fs') : fs'.length = fs.length := by
  induction h with
  | nil => rfl
  | concat _ _ ih => rw [List.length_append, List.length_append, ih]; rfl

theorem exists_twin (h : Twins b b' fs fs') {i : Nat} {f : Function} (hf : fs[i]? = some f) :
    ∃ f', fs'[i]? = some f' ∧ Twin b b' i f f' := by
  induction h with
  | nil => cases hf
  | @concat fs fs' g g' hinit hlast ih =>
    by_cases hi : i < fs.length
    · rw [List.getElem?_append_left hi] at hf
      obtain ⟨f', hf', htwin⟩ := ih hf
      exact ⟨f', by rwa [List.getElem?_append_left (hinit.length_eq ▸ hi)], htwin⟩
    · rw [List.getElem?_append_right (by omega)] at hf
      obtain ⟨hzero, rfl⟩ : i - fs.length = 0 ∧ g = f := by
        cases hsub : i - fs.length with
        | zero =>
          rw [hsub] at hf
          exact ⟨rfl, Option.some.inj hf⟩
        | succ k =>
          rw [hsub] at hf
          cases hf
      obtain rfl : i = fs.length := by omega
      refine ⟨g', ?_, hlast⟩
      have hlength := hinit.length_eq
      rw [List.getElem?_append_right (by omega), hlength, hzero]
      rfl

/-- Twins are counted alike. -/
theorem closuresIn_eq (h : Twins b b' fs fs') (j : Nat) :
    closuresIn (some (b' + j)) fs' = closuresIn (some (b + j)) fs := by
  induction h with
  | nil => rfl
  | @concat fs fs' f f' _ hlast ih =>
    have hone : closuresIn (some (b' + j)) [f'] = closuresIn (some (b + j)) [f] := by
      have hsame : (f'.context.enclosing == some (b' + j)) =
          (f.context.enclosing == some (b + j)) := by
        rw [Bool.eq_iff_iff, beq_iff_eq, beq_iff_eq]
        exact hlast.enclosing.eq_iff j
      simp only [closuresIn, List.filter_cons, List.filter_nil,
        Function.kind_of_anonymous hlast.same, hsame]
      split <;> rfl
    simp only [closuresIn, List.filter_append, List.length_append] at ih hone ⊢
    rw [ih, hone]

end Twins

/-- Nothing in a list is around what is found behind it. -/
theorem closuresIn_of_closed (h : Closed pre) (j : Nat) :
    closuresIn (some (pre.length + j)) pre = 0 := by
  rw [closuresIn, List.length_eq_zero_iff, List.filter_eq_nil_iff]
  intro f hf hclosure
  rw [Bool.and_eq_true, beq_iff_eq, beq_iff_eq] at hclosure
  have hlt := h f hf _ hclosure.2
  omega

/-- Two states of a walk, in which `n` functions were found behind others: those are twins. -/
def Alongside (pre pre' : List Function) (n : Nat) (s s' : Index) : Prop :=
  ∃ fs fs', s.functions.toList = pre ++ fs ∧ s'.functions.toList = pre' ++ fs' ∧
    Twins pre.length pre'.length fs fs' ∧ fs.length = n

/-- Two contexts of a walk in which `n` functions were found. -/
structure ContextTwin (b b' n : Nat) (ctx ctx' : Context) : Prop where
  module : ctx'.module = ctx.module
  selfType : ctx'.selfType = ctx.selfType
  enclosing : Shifted b b' n ctx.enclosing ctx'.enclosing

variable {o : Options} {s s' : Index} {ctx ctx' : Context} {n : Nat}

theorem ContextTwin.isSome_eq (h : ContextTwin b b' n ctx ctx') :
    ctx'.enclosing.isSome = ctx.enclosing.isSome := by
  have henclosing := h.enclosing
  generalize ctx.enclosing = e, ctx'.enclosing = e' at henclosing ⊢
  cases henclosing <;> rfl

theorem ContextTwin.mono {n' : Nat} (hn : n ≤ n') (h : ContextTwin b b' n ctx ctx') :
    ContextTwin b b' n' ctx ctx' :=
  ⟨h.module, h.selfType, h.enclosing.mono hn⟩

/-- A function declared in two contexts. The names differ only if they are those of closures. -/
theorem functionOf_twin (hctx : ContextTwin b b' n ctx ctx') (d : Declared) {name : String}
    (hname : SameName d.name name) (hnamed : d.kind ≠ .closure → name = d.name)
    (id id' : FunctionId) :
    Twin b b' n (functionOf o ctx id d) (functionOf o ctx' id' { d with name }) where
  same := by
    have hnone : ctx'.enclosing.isNone = ctx.enclosing.isNone := by
      rw [← Option.not_isSome, hctx.isSome_eq, Option.not_isSome]
    by_cases hkind : d.kind = .closure
    · simp [Function.anonymous, Function.isClosure, functionOf, hkind, hctx.module, hctx.selfType]
    · simp [Function.anonymous, Function.isClosure, functionOf, hnamed hkind, hnone, hctx.module,
        hctx.selfType]
  name := hname
  enclosing := hctx.enclosing

theorem record_alongside (halong : Alongside pre pre' n s s')
    (hctx : ContextTwin pre.length pre'.length n ctx ctx') (d : Declared) {name : String}
    (hname : SameName d.name name) (hnamed : d.kind ≠ .closure → name = d.name) :
    Alongside pre pre' (n + 1) (record o ctx d s) (record o ctx' { d with name } s') := by
  have hpush : ∀ (ctx : Context) (d : Declared) (s : Index), (record o ctx d s).functions.toList =
      s.functions.toList ++ [functionOf o ctx s.functions.size d] := fun _ _ _ ↦ Array.toList_push
  obtain ⟨fs, fs', hfs, hfs', htwins, rfl⟩ := halong
  have htwin : Twin pre.length pre'.length fs.length (functionOf o ctx s.functions.size d)
      (functionOf o ctx' s'.functions.size { d with name }) :=
    functionOf_twin hctx d hname hnamed _ _
  refine ⟨fs ++ [_], fs' ++ [_], ?_, ?_, htwins.concat htwin, List.length_append⟩
  · rw [hpush, hfs, List.append_assoc]
  · rw [hpush, hfs', List.append_assoc]

/-- The name of the next closure. -/
theorem closureName_same (hpre : Closed pre) (hpre' : Closed pre')
    (halong : Alongside pre pre' n s s')
    (hctx : ContextTwin pre.length pre'.length n ctx ctx') :
    SameName (closureName ctx s) (closureName ctx' s') := by
  obtain ⟨fs, fs', hfs, hfs', htwins, rfl⟩ := halong
  -- the functions in front are closed, so the closures to count are among the twins
  have hcount : ∀ j, closuresIn (some (pre'.length + j)) s'.functions.toList =
      closuresIn (some (pre.length + j)) s.functions.toList := fun j ↦ by
    have happend : ∀ (e : Option FunctionId) (l l' : List Function),
        closuresIn e (l ++ l') = closuresIn e l + closuresIn e l' := fun e l l' ↦ by
      rw [closuresIn, List.filter_append, List.length_append]
      rfl
    rw [hfs, hfs', happend, happend, closuresIn_of_closed hpre, closuresIn_of_closed hpre',
      htwins.closuresIn_eq]
  rw [closureName_eq, closureName_eq]
  have henclosing := hctx.enclosing
  generalize ctx.enclosing = e, ctx'.enclosing = e' at henclosing ⊢
  cases henclosing with
  | none => simpa using SameName.renumbered _ _ ""
  | some j hj =>
    have hat : ∀ (l : List Function) (s : Index) (pre : List Function),
        s.functions.toList = pre ++ l → s.functions[pre.length + j]? = l[j]? := fun l s pre hl ↦ by
      rw [← Array.getElem?_toList, hl, List.getElem?_append_right (Nat.le_add_right _ _),
        Nat.add_sub_cancel_left]
    obtain ⟨f', hf', htwin⟩ := htwins.exists_twin (List.getElem?_eq_getElem hj)
    simp only [hcount, hat fs s pre hfs, hat fs' s' pre' hfs', hf', List.getElem?_eq_getElem hj,
      Option.map_some, Option.getD_some]
    exact (htwin.name.append _).append _

/-! ### The walk -/

theorem Alongside.size_eq (h : Alongside pre pre' n s s') :
    s.functions.size = pre.length + n ∧ s'.functions.size = pre'.length + n := by
  obtain ⟨fs, fs', hfs, hfs', htwins, rfl⟩ := h
  rw [← Array.length_toList, ← Array.length_toList, hfs, hfs', List.length_append,
    List.length_append, htwins.length_eq]
  exact ⟨rfl, rfl⟩

/-- Two steps of a walk. -/
structure StepTwin (pre pre' : List Function) (n : Nat) (step step' : Step) : Prop where
  context : ContextTwin pre.length pre'.length n step.context step'.context
  walks : step'.walks = step.walks
  index : Alongside pre pre' n step.index step'.index

theorem inside_twin {outer outer' : Context} (halong : Alongside pre pre' n s s')
    (houter : ContextTwin pre.length pre'.length n outer outer') (d : Declared) {name : String}
    (hname : SameName d.name name) (hnamed : d.kind ≠ .closure → name = d.name) (walks : Nat → Bool) :
    StepTwin pre pre' (n + 1)
      ⟨{ outer with enclosing := some s.functions.size }, walks, record o outer d s⟩
      ⟨{ outer' with enclosing := some s'.functions.size }, walks,
        record o outer' { d with name } s'⟩ := by
  obtain ⟨hsize, hsize'⟩ := halong.size_eq
  refine ⟨⟨houter.module, houter.selfType, ?_⟩, rfl, record_alongside halong houter d hname hnamed⟩
  dsimp only
  rw [hsize, hsize']
  exact .some n n.lt_succ_self

theorem enter_twin (hpre : Closed pre) (hpre' : Closed pre') (halong : Alongside pre pre' n s s')
    (hctx : ContextTwin pre.length pre'.length n ctx ctx') (m : Node) :
    ∃ n', StepTwin pre pre' n' (enter o ctx m s) (enter o ctx' m s') ∧ n ≤ n' := by
  have hinside : ∀ {outer outer' : Context} (d : Declared) (at_ : Nat),
      ContextTwin pre.length pre'.length n outer outer' →
      ∃ n', StepTwin pre pre' n'
        ⟨{ outer with enclosing := some s.functions.size }, fun i ↦ i == at_, record o outer d s⟩
        ⟨{ outer' with enclosing := some s'.functions.size }, fun i ↦ i == at_,
          record o outer' d s'⟩ ∧ n ≤ n' := fun d at_ houter ↦
    ⟨n + 1, inside_twin halong houter d (.refl _) (fun _ ↦ rfl) _, n.le_succ⟩
  have houtside : ∀ d : Declared, ∃ n', StepTwin pre pre' n'
      ⟨ctx, fun _ ↦ false, record o ctx d s⟩ ⟨ctx', fun _ ↦ false, record o ctx' d s'⟩ ∧ n ≤ n' :=
    fun d ↦ ⟨n + 1, ⟨hctx.mono n.le_succ, rfl,
      record_alongside halong hctx d (.refl _) fun _ ↦ rfl⟩, n.le_succ⟩
  -- functions open their bodies but where there is none, and other nodes change the context only
  unfold enter
  split
  case h_1 => exact ⟨n, ⟨⟨by rw [hctx.module], hctx.selfType, hctx.enclosing⟩, rfl, halong⟩, n.le_refl⟩
  case h_2 => exact ⟨n, ⟨⟨hctx.module, rfl, hctx.enclosing⟩, rfl, halong⟩, n.le_refl⟩
  case h_3 => exact ⟨n, ⟨⟨hctx.module, rfl, hctx.enclosing⟩, rfl, halong⟩, n.le_refl⟩
  case h_4 => -- a function
    rw [hctx.isSome_eq]
    split
    · exact hinside _ 3 ⟨hctx.module, rfl, hctx.enclosing⟩
    · exact hinside _ 3 hctx
  case h_5 => exact hinside _ 4 hctx
  case h_6 => -- a method of a trait
    split
    · exact houtside _
    · exact hinside _ 2 hctx
  case h_7 => exact houtside _
  case h_8 => -- a closure
    split
    · exact ⟨n + 1, inside_twin halong hctx _ (closureName_same hpre hpre' halong hctx)
        (fun h ↦ absurd rfl h) _, n.le_succ⟩
    · exact ⟨n, ⟨hctx, rfl, halong⟩, n.le_refl⟩
  case h_9 => exact ⟨n, ⟨hctx, rfl, halong⟩, n.le_refl⟩

/-- A tree adds twins. -/
theorem walk_alongside (hpre : Closed pre) (hpre' : Closed pre') (m : Node)
    (halong : Alongside pre pre' n s s')
    (hctx : ContextTwin pre.length pre'.length n ctx ctx') :
    ∃ n', Alongside pre pre' n' (walk o ctx m s) (walk o ctx' m s') ∧ n ≤ n' := by
  -- what is added below one child moves the numbers on for the next ones
  have hall : ∀ cs : List Node, (∀ c ∈ cs, ∀ {s s' ctx ctx' n}, Alongside pre pre' n s s' →
        ContextTwin pre.length pre'.length n ctx ctx' →
        ∃ n', Alongside pre pre' n' (walk o ctx c s) (walk o ctx' c s') ∧ n ≤ n') →
      ∀ {ctx ctx' s s' n} (walks i), Alongside pre pre' n s s' →
        ContextTwin pre.length pre'.length n ctx ctx' →
        ∃ n', Alongside pre pre' n' (walkAll o ctx walks i cs s) (walkAll o ctx' walks i cs s') ∧
          n ≤ n' := by
    intro cs
    induction cs with
    | nil => exact fun _ {_ _ _ _ n} _ _ halong _ ↦ ⟨n, halong, n.le_refl⟩
    | cons c cs ih =>
      intro hcs ctx ctx' s s' n walks i halong hctx
      rw [walkAll, walkAll]
      split
      · obtain ⟨k, halong, hk⟩ := hcs c List.mem_cons_self halong hctx
        obtain ⟨k', halong, hk'⟩ := ih (fun c hc ↦ hcs c (List.mem_cons_of_mem _ hc)) walks (i + 1)
          halong (hctx.mono hk)
        exact ⟨k', halong, Nat.le_trans hk hk'⟩
      · exact ih (fun c hc ↦ hcs c (List.mem_cons_of_mem _ hc)) walks (i + 1) halong hctx
  induction m using Node.induction generalizing s s' ctx ctx' n with
  | token | unread => exact ⟨n, halong, n.le_refl⟩
  | group d cs ih => exact hall cs ih _ 0 halong hctx
  | node k cs ih =>
    obtain ⟨j, hstep, hj⟩ := enter_twin (o := o) hpre hpre' halong hctx (.node k cs)
    obtain ⟨j', halong, hj'⟩ := hall cs ih (enter o ctx (.node k cs) s).walks 0 hstep.index
      hstep.context
    rw [walk, walk, hstep.walks]
    exact ⟨j', halong, Nat.le_trans hj hj'⟩

end Index

end RenderTrace
