import Mathlib.Data.List.Nodup
import Mathlib.Data.List.Perm.Basic

/-!
# Lists that are put together by numbers

A list may be put together of what belongs to several things, each of which has a number that can be
told of what belongs to it: the edges that leave functions, the remarks about trackers. If the
numbers are different, what belongs to one of the things is picked out again by its number.
-/

namespace RenderTrace

variable {α β : Type} {f : α → List β} {xs : List α} {n : Nat}

/-- Of what belongs to some numbers, nothing belongs to another one. -/
theorem filter_flatMap_of_forall_ne {key : β → Nat} (number : α → Nat)
    (hf : ∀ x ∈ xs, ∀ r ∈ f x, key r = number x) (hn : ∀ x ∈ xs, number x ≠ n) :
    (xs.flatMap f).filter (key · == n) = [] := by
  refine List.filter_eq_nil_iff.2 fun r hr ↦ ?_
  obtain ⟨x, hx, hr⟩ := List.mem_flatMap.1 hr
  simpa [hf x hx r hr] using hn x hx

/-- Different numbers are those of different things. -/
theorem ne_of_nodup_middle {number : α → Nat} {front back : List α} {x : α}
    (hnodup : ((front ++ x :: back).map number).Nodup) :
    ∀ y ∈ front ++ back, number y ≠ number x := by
  have hperm : (number x :: (front ++ back).map number).Nodup :=
    (List.perm_middle.map number).nodup hnodup
  exact fun y hy heq ↦ (List.nodup_cons.1 hperm).1 (heq ▸ List.mem_map_of_mem hy)

/-- Of what belongs to different numbers, that which belongs to one of them. -/
theorem filter_flatMap_of_mem {key : β → Nat} (number : α → Nat)
    (hf : ∀ x ∈ xs, ∀ r ∈ f x, key r = number x) (hxs : (xs.map number).Nodup) {x : α}
    (hx : x ∈ xs) : (xs.flatMap f).filter (key · == number x) = f x := by
  obtain ⟨front, back, rfl⟩ := List.append_of_mem hx
  have hothers := ne_of_nodup_middle hxs
  have hself : (f x).filter (key · == number x) = f x :=
    List.filter_eq_self.2 fun r hr ↦ beq_iff_eq.2 (hf x hx r hr)
  rw [List.flatMap_append, List.flatMap_cons, List.filter_append, List.filter_append, hself,
    filter_flatMap_of_forall_ne number (fun y hy ↦ hf y (List.mem_append_left _ hy))
      fun y hy ↦ hothers y (List.mem_append_left _ hy),
    filter_flatMap_of_forall_ne number
      (fun y hy ↦ hf y (List.mem_append_right _ (List.mem_cons_of_mem _ hy)))
      fun y hy ↦ hothers y (List.mem_append_right _ hy)]
  simp

end RenderTrace
