import Mathlib.Data.List.Nodup
import Mathlib.Order.Lattice.Nat
import RenderTrace.ClosureSet

/-!
# Reachability between candidates

What the closure of a list of candidates is about, said without a search: `BringsIn` is one
reference to a function that may be included, `ReachedIn n` is reachability from the *origins* (the
seeds that include nested functions) by exactly `n` of them, and `distance` is the least such `n`.

## Two asymmetries

* An origin may be skipped: being skipped matters only for a function that a reference arrives at.
  So the condition sits at the far end of `BringsIn`, and `ReachedIn.origin` has none.
* A seed that is no origin is a member without being read, but a reference may arrive at it later,
  and then it is read like any other function. So `ReachedIn` does not ask whether a function is a
  seed.
-/

namespace RenderTrace.ClosureSet

variable (cs : List Candidate)

/-- The candidates stand at the positions that their numbers say. -/
def Positioned : Prop := ∀ (i : Nat) (c : Candidate), cs[i]? = some c → c.id = i

/-- The seeds, in the order of the candidates. -/
def seeds : List Nat := (cs.filter (·.isSeed)).map (·.id)

/-- The candidate at a position is a seed. -/
def IsSeed (id : Nat) : Prop := ∃ c, cs[id]? = some c ∧ c.isSeed = true

/-- The candidate at a position is a seed that includes nested functions. -/
def IsOrigin (id : Nat) : Prop := ∃ c, cs[id]? = some c ∧ c.isSeed = true ∧ c.nested = true

/-- `a` refers to `b`, and `b` is a candidate that may be included. -/
def BringsIn (a b : Nat) : Prop :=
  ∃ c t, cs[a]? = some c ∧ b ∈ c.callees ∧ cs[b]? = some t ∧ t.isIncludable = true

/-- Reachability from an origin by exactly `n` references. -/
inductive ReachedIn : Nat → Nat → Prop
  | origin {a : Nat} : IsOrigin cs a → ReachedIn 0 a
  | step {n a b : Nat} : ReachedIn n a → BringsIn cs a b → ReachedIn (n + 1) b

/-- Reachability from an origin by at most `n` references. -/
def ReachedWithin (n id : Nat) : Prop := ∃ m, m ≤ n ∧ ReachedIn cs m id

/-- The least number of references that lead from an origin to a function. -/
noncomputable def distance (id : Nat) : Nat := sInf {n | ReachedIn cs n id}

variable {cs}

instance : Decidable (Positioned cs) :=
  decidable_of_iff (∀ i : Fin cs.length, cs[i].id = i) <| by
    constructor
    · intro h i c hc
      obtain ⟨hlt, rfl⟩ := List.getElem?_eq_some_iff.1 hc
      exact h ⟨i, hlt⟩
    · exact fun h i ↦ h i _ (List.getElem?_eq_getElem i.isLt)

theorem IsOrigin.isSeed {id : Nat} (h : IsOrigin cs id) : IsSeed cs id := by
  obtain ⟨c, hc, hseed, -⟩ := h
  exact ⟨c, hc, hseed⟩

theorem ReachedIn.within {n id : Nat} (h : ReachedIn cs n id) : ReachedWithin cs n id :=
  ⟨n, le_rfl, h⟩

theorem ReachedWithin.mono {n m id : Nat} (h : ReachedWithin cs n id) (hle : n ≤ m) :
    ReachedWithin cs m id := by
  obtain ⟨k, hk, hr⟩ := h
  exact ⟨k, hk.trans hle, hr⟩

theorem ReachedWithin.step {n a b : Nat} (h : ReachedWithin cs n a) (hb : BringsIn cs a b) :
    ReachedWithin cs (n + 1) b := by
  obtain ⟨k, hk, hr⟩ := h
  exact ⟨k + 1, Nat.succ_le_succ hk, hr.step hb⟩

theorem reachedWithin_zero {id : Nat} : ReachedWithin cs 0 id ↔ IsOrigin cs id := by
  constructor
  · rintro ⟨n, hn, hr⟩
    obtain rfl := Nat.le_zero.1 hn
    cases hr with
    | origin h => exact h
  · intro h
    exact (ReachedIn.origin h).within

/-- What takes one reference more either takes no more than before, or is brought in by something
that does. -/
theorem ReachedWithin.cases_succ {n b : Nat} (h : ReachedWithin cs (n + 1) b) :
    ReachedWithin cs n b ∨ ∃ a, ReachedWithin cs n a ∧ BringsIn cs a b := by
  obtain ⟨k, hk, hr⟩ := h
  cases hr with
  | origin ho => exact Or.inl ⟨0, Nat.zero_le n, .origin ho⟩
  | step hr hb => exact Or.inr ⟨_, ⟨_, Nat.le_of_succ_le_succ hk, hr⟩, hb⟩

theorem ReachedIn.at_distance {n id : Nat} (h : ReachedIn cs n id) :
    ReachedIn cs (distance cs id) id :=
  Nat.sInf_mem (s := {n | ReachedIn cs n id}) ⟨n, h⟩

/-- A function is within `n` references exactly if its distance is at most `n`, once it is within
any number of them. -/
theorem distance_le_iff {n m id : Nat} (h : ReachedWithin cs m id) :
    distance cs id ≤ n ↔ ReachedWithin cs n id := by
  obtain ⟨k, -, hr⟩ := h
  constructor
  · intro hle
    exact ⟨distance cs id, hle, hr.at_distance⟩
  · rintro ⟨j, hj, hrj⟩
    have hle : distance cs id ≤ j := Nat.sInf_le (s := {n | ReachedIn cs n id}) hrj
    exact hle.trans hj

/-- Whatever is reached and no seed is reached by at least one reference. -/
theorem ReachedIn.exists_succ {n id : Nat} (h : ReachedIn cs n id) (hs : ¬ IsSeed cs id) :
    ∃ m, ReachedIn cs (m + 1) id := by
  cases h with
  | origin ho => exact absurd ho.isSeed hs
  | step hr hb => exact ⟨_, hr.step hb⟩

/-! ### Seeds -/

section Seeds

variable (hid : Positioned cs)
include hid

theorem map_id_eq_range : cs.map (·.id) = List.range cs.length := by
  refine List.ext_getElem (by simp) fun i hi hi' ↦ ?_
  have hlt : i < cs.length := by simpa using hi
  have hget : cs[i]? = some cs[i] := List.getElem?_eq_getElem hlt
  simpa using hid i _ hget

theorem seeds_pairwise_lt : (seeds cs).Pairwise (· < ·) := by
  have hsub : (seeds cs).Sublist (cs.map (·.id)) := List.filter_sublist.map _
  rw [map_id_eq_range hid] at hsub
  exact List.pairwise_lt_range.sublist hsub

theorem seeds_nodup : (seeds cs).Nodup :=
  (seeds_pairwise_lt hid).imp fun hlt ↦ hlt.ne

theorem mem_seeds_iff {id : Nat} : id ∈ seeds cs ↔ IsSeed cs id := by
  simp only [seeds, List.mem_map, List.mem_filter]
  constructor
  · rintro ⟨c, ⟨hmem, hseed⟩, rfl⟩
    obtain ⟨i, hi⟩ := List.getElem?_of_mem hmem
    rw [hid i c hi]
    exact ⟨c, hi, hseed⟩
  · rintro ⟨c, hc, hseed⟩
    exact ⟨c, ⟨List.mem_of_getElem? hc, hseed⟩, hid id c hc⟩

/-- The queue that a search starts with holds the origins. -/
theorem mem_nested_seeds_iff {id : Nat} :
    id ∈ ((cs.filter (·.isSeed)).filter (·.nested)).map (·.id) ↔ IsOrigin cs id := by
  simp only [List.mem_map, List.mem_filter]
  constructor
  · rintro ⟨c, ⟨⟨hmem, hseed⟩, hnested⟩, rfl⟩
    obtain ⟨i, hi⟩ := List.getElem?_of_mem hmem
    rw [hid i c hi]
    exact ⟨c, hi, hseed, hnested⟩
  · rintro ⟨c, hc, hseed, hnested⟩
    exact ⟨c, ⟨⟨List.mem_of_getElem? hc, hseed⟩, hnested⟩, hid id c hc⟩

end Seeds

end RenderTrace.ClosureSet
