import Mathlib.Data.List.Basic
import Mathlib.Data.List.Infix
import Mathlib.Data.List.Sort
import RenderTrace.CallGraph.Resolution
import RenderTrace.Proofs.Function.Declared

/-!
# Functions by path

A path is relative to a module: the word at its head says to which one, and what is behind it is the
path below that module (`Site.Relative`). There it is looked up below the module and below each one
around it, and what is found is what has the path below the longest of these (`Site.nearest_cases`).

Whatever a lookup finds, it lists the render functions of which something holds by their numbers, in
increasing order (`Index.Lists`); there is one such list.
-/

namespace RenderTrace

namespace Index

/-- A list holds the numbers of the render functions of which something holds, in increasing
order. -/
structure Lists (s : Index) (P : Function → Prop) (ids : List FunctionId) : Prop where
  mem_iff (id : FunctionId) :
    id ∈ ids ↔ ∃ f, s.functions[id]? = some f ∧ f.declaration.isRender = true ∧ P f
  increasing : ids.Pairwise (· < ·)

variable {s : Index} {P : Function → Prop} {ids ids' : List FunctionId}

/-- There is one such list. -/
theorem Lists.unique (h : s.Lists P ids) (h' : s.Lists P ids') : ids = ids' :=
  h.increasing.eq_of_mem_iff h'.increasing fun id ↦ (h.mem_iff id).trans (h'.mem_iff id).symm

/-- What is picked from the functions of an index is such a list. -/
theorem Numbered.lists (hn : s.Numbered) {p : Function → Bool}
    (hp : ∀ f, p f = true ↔ f.declaration.isRender = true ∧ P f) :
    s.Lists P ((s.functions.toList.filter p).map (·.declaration.id)) where
  mem_iff id := by
    simp only [List.mem_map, List.mem_filter, Array.mem_toList_iff, hp]
    constructor
    · rintro ⟨f, ⟨hf, hrender, hP⟩, rfl⟩
      exact ⟨f, hn.getElem?_id hf, hrender, hP⟩
    · rintro ⟨f, hf, hrender, hP⟩
      exact ⟨f, ⟨Array.mem_of_getElem? hf, hrender, hP⟩, (hn _ f hf).1⟩
  increasing := hn.ids_increasing.sublist (List.filter_sublist.map _)

end Index

namespace Site

/-- Words that are no names at the head of a path. -/
def pathWords : List String := ["crate", "self", "super", "Self"]

/-- A render function has this path from the top of the unit. -/
def IsAt (functions : List Function) (words : List String) : Prop :=
  ∃ f ∈ functions, f.declaration.isRender = true ∧ f.sourcePath = some words

variable {functions : List Function} {words base rest m : List String} {id : FunctionId}
  {ctx : Context}

theorem mem_atPath_iff : id ∈ atPath functions words ↔ ∃ f ∈ functions,
    f.declaration.isRender = true ∧ f.sourcePath = some words ∧ f.declaration.id = id := by
  simp [atPath, and_assoc]

theorem isEmpty_atPath : (atPath functions words).isEmpty = false ↔ IsAt functions words := by
  rw [List.isEmpty_eq_false_iff_exists_mem]
  simp only [mem_atPath_iff, IsAt]
  exact ⟨fun ⟨_, f, hf, hrender, hpath, _⟩ ↦ ⟨f, hf, hrender, hpath⟩,
    fun ⟨f, hf, hrender, hpath⟩ ↦ ⟨_, f, hf, hrender, hpath, rfl⟩⟩

/-! ### The modules around a reference -/

theorem ancestors_concat (base : List String) (name : String) :
    ancestors (base ++ [name]) = (base ++ [name]) :: ancestors base := by
  have htake : ∀ k, (base ++ [name]).take (base.length + 1 - (k + 1)) =
      base.take (base.length - k) := fun k ↦ by
    rw [Nat.add_sub_add_right, List.take_append_of_le_length (Nat.sub_le _ _)]
  rw [ancestors, List.length_append, List.length_singleton, List.range_succ_eq_map, List.map_cons,
    List.map_map, Nat.sub_zero, List.take_of_length_le (by simp), ancestors]
  exact congrArg _ (List.map_congr_left fun k _ ↦ htake k)

theorem nearest_concat (functions : List Function) (base words : List String) (name : String) :
    nearest functions (base ++ [name]) words =
      if (atPath functions (base ++ [name] ++ words)).isEmpty then nearest functions base words
      else atPath functions (base ++ [name] ++ words) := by
  rw [nearest, ancestors_concat, List.map_cons, List.find?_cons]
  cases (atPath functions (base ++ [name] ++ words)).isEmpty <;> rfl

/-- What is found by path is what has the path below the nearest module below which something has
it. -/
theorem nearest_cases (functions : List Function) (base words : List String) :
    (nearest functions base words = [] ∧ ∀ m, m <+: base → ¬ IsAt functions (m ++ words)) ∨
    ∃ m, m <+: base ∧ nearest functions base words = atPath functions (m ++ words) ∧
      IsAt functions (m ++ words) ∧
      ∀ m', m' <+: base → m.length < m'.length → ¬ IsAt functions (m' ++ words) := by
  -- the search goes outwards, so the induction takes the innermost module off
  induction base using List.reverseRecOn with
  | nil =>
    have hnearest : nearest functions [] words = atPath functions words := by
      rw [nearest]
      cases hempty : atPath functions words <;> simp [ancestors, hempty]
    rw [hnearest]
    by_cases hat : IsAt functions words
    · refine Or.inr ⟨[], List.prefix_rfl, rfl, hat, fun m' hm' hlength ↦ ?_⟩
      rw [List.prefix_nil.1 hm'] at hlength
      exact absurd hlength (Nat.lt_irrefl _)
    · refine Or.inl ⟨?_, fun m hm ↦ by rwa [List.prefix_nil.1 hm]⟩
      rw [← List.isEmpty_iff]
      exact eq_true_of_ne_false fun hempty ↦ hat (isEmpty_atPath.1 hempty)
  | append_singleton base name ih =>
    rw [nearest_concat]
    by_cases hat : IsAt functions (base ++ [name] ++ words)
    · rw [isEmpty_atPath.2 hat]
      refine Or.inr ⟨base ++ [name], List.prefix_rfl, rfl, hat, fun m' hm' hlength ↦ ?_⟩
      exact absurd hm'.length_le (Nat.not_le_of_lt hlength)
    · have hempty : (atPath functions (base ++ [name] ++ words)).isEmpty = true :=
        eq_true_of_ne_false fun hempty ↦ hat (isEmpty_atPath.1 hempty)
      rw [hempty, if_pos rfl]
      -- nothing is found in this module, and the modules around it are those of the shorter path
      have hsplit {m : List String} (hm : m <+: base ++ [name]) :
          m = base ++ [name] ∨ m <+: base := List.prefix_concat_iff.1 hm
      rcases ih with ⟨hnil, hnone⟩ | ⟨m, hm, hnearest, hat', hfirst⟩
      · refine Or.inl ⟨hnil, fun m hm ↦ ?_⟩
        rcases hsplit hm with rfl | hm
        · exact hat
        · exact hnone m hm
      · refine Or.inr ⟨m, hm.trans (List.prefix_append _ _), hnearest, hat', fun m' hm' ↦ ?_⟩
        rcases hsplit hm' with rfl | hm'
        · exact fun _ ↦ hat
        · exact hfirst m' hm'

/-- The nearest module is told by its length. -/
theorem nearest_eq_atPath (hm : m <+: base) (hat : IsAt functions (m ++ words))
    (hfirst : ∀ m', m' <+: base → m.length < m'.length → ¬ IsAt functions (m' ++ words)) :
    nearest functions base words = atPath functions (m ++ words) := by
  rcases nearest_cases functions base words with ⟨-, hnone⟩ | ⟨m', hm', hnearest, hat', hfirst'⟩
  · exact absurd hat (hnone m hm)
  · have hle : m'.length ≤ m.length := Nat.le_of_not_lt fun hlt ↦ hfirst m' hm' hlt hat'
    have hge : m.length ≤ m'.length := Nat.le_of_not_lt fun hlt ↦ hfirst' m hm hlt hat
    obtain rfl := (List.prefix_of_prefix_length_le hm hm' hge).eq_of_length_le hle
    exact hnearest

/-- What is found by path is what a path means. -/
theorem resolvePath_eq_atPath (hnormal : normalise ctx words = some (base, rest))
    (hrest : rest ≠ []) (hm : m <+: base) (hat : IsAt functions (m ++ rest))
    (hfirst : ∀ m', m' <+: base → m.length < m'.length → ¬ IsAt functions (m' ++ rest)) :
    resolvePath functions ctx words = atPath functions (m ++ rest) := by
  obtain ⟨name, hlast⟩ : ∃ name, rest.getLast? = some name :=
    ⟨_, List.getLast?_eq_getLast_of_ne_nil hrest⟩
  rw [resolvePath, hnormal]
  dsimp only
  rw [hlast]
  dsimp only
  rw [nearest_eq_atPath hm hat hfirst, isEmpty_atPath.2 hat]
  rfl

/-! ### What a path is relative to -/

/-- A path is relative to a module: what is left of it behind the words at its head is a path below
that module. -/
inductive Relative (ctx : Context) : List String → List String → List String → Prop
  | crate (rest : List String) : Relative ctx ("crate" :: rest) [] rest
  | self (rest : List String) : Relative ctx ("self" :: rest) ctx.module rest
  | super {k : Nat} {rest : List String} (hk : 0 < k) (hrest : rest.head? ≠ some "super") :
    Relative ctx (List.replicate k "super" ++ rest) (ctx.module.take (ctx.module.length - k)) rest
  | selfType {t : String} {rest : List String} (ht : ctx.selfType = some t) :
    Relative ctx ("Self" :: rest) ctx.module (t :: rest)
  | name {words : List String} (h : ∀ w ∈ words.head?, w ∉ pathWords) :
    Relative ctx words ctx.module words

theorem climb_replicate (base : List String) (k : Nat) {rest : List String}
    (hrest : rest.head? ≠ some "super") :
    climb base (List.replicate k "super" ++ rest) = (base.take (base.length - k), rest) := by
  induction k generalizing base with
  | zero =>
    rw [Nat.sub_zero, List.take_length, List.replicate_zero, List.nil_append]
    unfold climb
    split
    · exact absurd rfl hrest
    · rfl
  | succ k ih =>
    rw [List.replicate_succ, List.cons_append, climb, ih, List.dropLast_eq_take, List.length_take,
      List.take_take]
    congr 2
    omega

/-- The words `super` at the head of a path. -/
theorem exists_replicate_super (words : List String) :
    ∃ k rest, words = List.replicate k "super" ++ rest ∧ rest.head? ≠ some "super" := by
  induction words with
  | nil => exact ⟨0, [], rfl, nofun⟩
  | cons w ws ih =>
    by_cases hw : w = "super"
    · obtain ⟨k, rest, rfl, hrest⟩ := ih
      exact ⟨k + 1, rest, by rw [hw]; rfl, hrest⟩
    · exact ⟨0, w :: ws, rfl, by simpa using hw⟩

theorem normalise_of_relative (h : Relative ctx words base rest) :
    normalise ctx words = some (base, rest) := by
  cases h with
  | crate | self => rfl
  | super hk hrest =>
    rename_i k
    obtain ⟨k, rfl⟩ := Nat.exists_eq_succ_of_ne_zero (Nat.ne_of_gt hk)
    exact congrArg some (climb_replicate ctx.module (k + 1) hrest)
  | selfType ht => simp [normalise, ht]
  | name hname =>
    unfold normalise
    split
    case h_5 => rfl
    all_goals exact absurd (hname _ rfl) (by decide)

/-- What is looked up for a path is told by the words at its head. -/
theorem normalise_eq_some_iff :
    normalise ctx words = some (base, rest) ↔ Relative ctx words base rest := by
  refine ⟨fun h ↦ ?_, normalise_of_relative⟩
  have hsome {p : List String × List String} (hp : some p = some (base, rest)) :
      p.1 = base ∧ p.2 = rest := by
    obtain rfl := Option.some.inj hp
    exact ⟨rfl, rfl⟩
  unfold normalise at h
  split at h
  case h_1 =>
    obtain ⟨rfl, rfl⟩ := hsome h
    exact .crate _
  case h_2 =>
    obtain ⟨rfl, rfl⟩ := hsome h
    exact .self _
  case h_3 ws =>
    -- as many modules are left as there are words `super` in front
    obtain ⟨k, rest', hwords, hrest⟩ := exists_replicate_super ("super" :: ws)
    have hk : 0 < k := by
      refine Nat.pos_of_ne_zero ?_
      rintro rfl
      rw [List.replicate_zero, List.nil_append] at hwords
      exact hrest (hwords ▸ rfl)
    rw [hwords, climb_replicate _ _ hrest] at h
    obtain ⟨rfl, rfl⟩ := hsome h
    rw [hwords]
    exact .super hk hrest
  case h_4 =>
    obtain ⟨t, ht, hp⟩ := Option.map_eq_some_iff.1 h
    obtain ⟨rfl, rfl⟩ := hsome (congrArg some hp)
    exact .selfType ht
  case h_5 hcrate hself hsuper hSelf =>
    obtain ⟨rfl, rfl⟩ := hsome h
    refine .name fun w hw ↦ ?_
    obtain ⟨ws, rfl⟩ := List.head?_eq_some_iff.1 hw
    simp only [pathWords, List.mem_cons, List.not_mem_nil, or_false]
    rintro (rfl | rfl | rfl | rfl)
    · exact hcrate _ rfl
    · exact hself _ rfl
    · exact hsuper _ rfl
    · exact hSelf _ rfl

/-- A path means nothing if it begins with the type of `self` and there is none. -/
theorem normalise_eq_none_iff :
    normalise ctx words = none ↔ words.head? = some "Self" ∧ ctx.selfType = none := by
  unfold normalise
  split
  case h_4 => simp
  case h_5 hcrate hself hsuper hSelf =>
    refine iff_of_false nofun fun h ↦ ?_
    obtain ⟨ws, rfl⟩ := List.head?_eq_some_iff.1 h.1
    exact hSelf _ rfl
  all_goals simp

theorem normalise_of_name {name : String} (h : name ∉ pathWords) (words : List String) :
    normalise ctx (name :: words) = some (ctx.module, name :: words) :=
  normalise_of_relative (.name (by simpa using h))

end Site

end RenderTrace
