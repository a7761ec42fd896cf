import Mathlib.Algebra.BigOperators.Group.Finset.Basic
import RenderTrace.Proofs.ClosureSet.Reach

/-!
# The closure search finds what is reachable, nearest first

`ClosureSet.compute` is a breadth-first search whose queue may hold a function several times: every
reference to an includable function puts it there, and only `visited` keeps it from being read
again. So the queue is *not* sorted by `distance`, and the usual queue argument does not apply to
it. What is sorted is the *level* at which an entry was put: `Level cs n now later late s` cuts the
queue into `now`, put at level `n`, and `later`, put at level `n + 1`, and says what the search
knows at that point. One step takes an entry off `now` (`Level.step`); when `now` is used up, the
levels move on by one (`Level.shift`).

## Why the members come in order

A function is a member as soon as it is put into the queue for the first time. If it was within `n`
references already, `Level.seen` says that it was put there before. So at level `n` only functions
at distance `n + 1` are appended.

## Why the search ends

`work` counts the entries of the queue and the references of the functions that were not read yet.
A step takes one entry, and the entries it puts are paid for by the references it reads.
-/

namespace RenderTrace.ClosureSet

variable {cs : List Candidate}

/-! ### Inserting several functions -/

/-- The set with several functions inserted in a row. -/
def insertAll (s : ClosureSet) (ids : List Nat) : ClosureSet :=
  ids.foldl (fun s id ↦ (s.insert id).1) s

theorem insert_fst_of_mem {s : ClosureSet} {id : Nat} (h : id ∈ s.order) : (s.insert id).1 = s := by
  simp [insert, contains, h]

theorem insert_fst_of_not_mem {s : ClosureSet} {id : Nat} (h : id ∉ s.order) :
    (s.insert id).1 = ⟨s.order ++ [id]⟩ := by
  simp [insert, contains, h]

/-- Inserting appends what is new, each function once. -/
theorem exists_insertAll_order (s : ClosureSet) (ids : List Nat) :
    ∃ new, (insertAll s ids).order = s.order ++ new ∧ new.Nodup ∧
      ∀ x, x ∈ new ↔ x ∈ ids ∧ x ∉ s.order := by
  induction ids generalizing s with
  | nil => exact ⟨[], by simp [insertAll], List.nodup_nil, by simp⟩
  | cons id ids ih =>
    by_cases hmem : id ∈ s.order
    · obtain ⟨new, horder, hnodup, hnew⟩ := ih s
      refine ⟨new, ?_, hnodup, fun x ↦ ?_⟩
      · rw [insertAll, List.foldl_cons, insert_fst_of_mem hmem]
        exact horder
      · rw [hnew x, List.mem_cons]
        constructor
        · exact fun ⟨hx, hxs⟩ ↦ ⟨Or.inr hx, hxs⟩
        · rintro ⟨rfl | hx, hxs⟩
          · exact absurd hmem hxs
          · exact ⟨hx, hxs⟩
    · obtain ⟨new, horder, hnodup, hnew⟩ := ih ⟨s.order ++ [id]⟩
      have hid : id ∉ new := fun h ↦ ((hnew id).1 h).2 (by simp)
      refine ⟨id :: new, ?_, List.nodup_cons.2 ⟨hid, hnodup⟩, fun x ↦ ?_⟩
      · rw [insertAll, List.foldl_cons, insert_fst_of_not_mem hmem]
        exact horder.trans (by simp)
      · by_cases hx : x = id
        · subst hx
          simp [hmem]
        · simp [hnew x, hx]

/-- Functions that are new and differ are all appended. -/
theorem insertAll_order_of_nodup {s : ClosureSet} {ids : List Nat} (hnodup : ids.Nodup)
    (hfresh : ∀ x ∈ ids, x ∉ s.order) : (insertAll s ids).order = s.order ++ ids := by
  induction ids generalizing s with
  | nil => simp [insertAll]
  | cons id ids ih =>
    obtain ⟨hid, hrest⟩ := List.nodup_cons.1 hnodup
    rw [insertAll, List.foldl_cons, insert_fst_of_not_mem (hfresh id (by simp))]
    refine (ih hrest fun x hx ↦ ?_).trans (by simp)
    have hne : x ≠ id := fun h ↦ hid (h ▸ hx)
    simpa [hne] using hfresh x (by simp [hx])

/-! ### One step of the search -/

/-- The references among `ids` that bring something in. -/
def broughtIn (cs : List Candidate) (ids : List Nat) : List Nat :=
  ids.filter fun b ↦ cs[b]?.any (·.isIncludable)

theorem mem_broughtIn_iff {a b : Nat} {c : Candidate} (hc : cs[a]? = some c) :
    b ∈ broughtIn cs c.callees ↔ BringsIn cs a b := by
  simp only [broughtIn, List.mem_filter, Option.any_eq_true]
  constructor
  · rintro ⟨hb, t, ht, hincl⟩
    exact ⟨c, t, hc, hb, ht, hincl⟩
  · rintro ⟨c', t, hc', hb, ht, hincl⟩
    obtain rfl : c = c' := Option.some.inj (hc.symm.trans hc')
    exact ⟨hb, t, ht, hincl⟩

/-- Following references puts what they bring in into the queue and among the members, and nothing
else matters. -/
theorem foldl_follow (current : Nat) (ids : List Nat) (s : Search) :
    (ids.foldl (Search.follow cs current) s).queue = s.queue ++ broughtIn cs ids ∧
      (ids.foldl (Search.follow cs current) s).visited = s.visited ∧
      (ids.foldl (Search.follow cs current) s).members =
        insertAll s.members (broughtIn cs ids) := by
  induction ids generalizing s with
  | nil => simp [broughtIn, insertAll]
  | cons id ids ih =>
    obtain ⟨hqueue, hvisited, hmembers⟩ := ih (Search.follow cs current s id)
    rw [List.foldl_cons, hqueue, hvisited, hmembers]
    cases hc : cs[id]? with
    | none => simp [Search.follow, broughtIn, hc]
    | some t =>
      by_cases hincl : t.isIncludable = true
      · simp [Search.follow, broughtIn, insertAll, hc, hincl]
      · simp [Search.follow, broughtIn, hc, hincl]

theorem step_of_visited {s : Search} {x : Nat} {rest : List Nat} (h : x ∈ s.visited) :
    s.step cs x rest = { s with queue := rest } := by
  simp [Search.step, h]

theorem step_of_not_visited {s : Search} {x : Nat} {c : Candidate} (h : x ∉ s.visited)
    (hc : cs[x]? = some c) (rest : List Nat) :
    (s.step cs x rest).queue = rest ++ broughtIn cs c.callees ∧
      (s.step cs x rest).visited = x :: s.visited ∧
      (s.step cs x rest).members = insertAll s.members (broughtIn cs c.callees) := by
  have hstep : s.step cs x rest =
      c.callees.foldl (Search.follow cs x) { s with queue := rest, visited := x :: s.visited } := by
    simp [Search.step, h, hc]
  rw [hstep]
  exact foldl_follow x c.callees _

/-! ### The invariant -/

/-- What holds when the queue is at level `n`: `now` was put at this level and `later` at the next
one, and `late` are the members that are no seeds. -/
structure Level (cs : List Candidate) (n : Nat) (now later late : List Nat) (s : Search) :
    Prop where
  queue_eq : s.queue = now ++ later
  now_reached : ∀ x ∈ now, ReachedWithin cs n x
  later_reached : ∀ x ∈ later, ReachedWithin cs (n + 1) x
  visited_reached : ∀ x ∈ s.visited, ReachedWithin cs n x
  /-- Nothing at this level or below is still to come. -/
  seen : ∀ x, ReachedWithin cs n x → x ∈ s.visited ∨ x ∈ now
  /-- The references of what was read were followed. -/
  closed : ∀ a ∈ s.visited, ∀ b, BringsIn cs a b → b ∈ s.visited ∨ b ∈ s.queue
  members_eq : s.members.order = seeds cs ++ late
  late_nodup : late.Nodup
  mem_late : ∀ x, x ∈ late ↔ x ∉ seeds cs ∧ (x ∈ s.visited ∨ x ∈ s.queue)
  /-- What came in first is not farther away. -/
  late_sorted : late.Pairwise fun a b ↦ ∀ m, ReachedWithin cs m b → ReachedWithin cs m a

namespace Level

variable {n x : Nat} {now later late : List Nat} {s : Search}

theorem late_reached (h : Level cs n now later late s) (hx : x ∈ late) :
    ReachedWithin cs (n + 1) x := by
  rcases ((h.mem_late x).1 hx).2 with hv | hq
  · exact (h.visited_reached x hv).mono (Nat.le_succ n)
  · rw [h.queue_eq, List.mem_append] at hq
    rcases hq with hq | hq
    · exact (h.now_reached x hq).mono (Nat.le_succ n)
    · exact h.later_reached x hq

/-- When nothing is left at a level, the next one begins. -/
theorem shift (h : Level cs n [] later late s) : Level cs (n + 1) later [] late s where
  queue_eq := by simpa using h.queue_eq
  now_reached := h.later_reached
  later_reached := by simp
  visited_reached y hy := (h.visited_reached y hy).mono (Nat.le_succ n)
  seen y hy := by
    have hvisited : ∀ z, ReachedWithin cs n z → z ∈ s.visited := fun z hz ↦ by
      simpa using h.seen z hz
    rcases hy.cases_succ with hy | ⟨a, ha, hab⟩
    · exact Or.inl (hvisited y hy)
    · simpa [h.queue_eq] using h.closed a (hvisited a ha) y hab
  closed := h.closed
  members_eq := h.members_eq
  late_nodup := h.late_nodup
  mem_late := h.mem_late
  late_sorted := h.late_sorted

/-- Taking an entry that was read before loses nothing. -/
theorem step_of_visited (h : Level cs n (x :: now) later late s) (hx : x ∈ s.visited) :
    Level cs n now later late (s.step cs x (now ++ later)) := by
  rw [ClosureSet.step_of_visited hx]
  have hqueue : ∀ y, y ∈ s.visited ∨ y ∈ s.queue ↔ y ∈ s.visited ∨ y ∈ now ++ later := fun y ↦ by
    rw [h.queue_eq, List.cons_append, List.mem_cons]
    constructor
    · rintro (hy | rfl | hy)
      · exact Or.inl hy
      · exact Or.inl hx
      · exact Or.inr hy
    · rintro (hy | hy)
      · exact Or.inl hy
      · exact Or.inr (Or.inr hy)
  exact
    { queue_eq := rfl
      now_reached := fun y hy ↦ h.now_reached y (List.mem_cons_of_mem x hy)
      later_reached := h.later_reached
      visited_reached := h.visited_reached
      seen := fun y hy ↦ by
        rcases h.seen y hy with hv | hn
        · exact Or.inl hv
        · rcases List.mem_cons.1 hn with rfl | hn
          · exact Or.inl hx
          · exact Or.inr hn
      closed := fun a ha b hab ↦ (hqueue b).1 (h.closed a ha b hab)
      members_eq := h.members_eq
      late_nodup := h.late_nodup
      mem_late := fun y ↦ by rw [h.mem_late y, hqueue y]
      late_sorted := h.late_sorted }

/-- What is put into the queue and is no member yet stands exactly one level further. -/
theorem not_reached_of_new (h : Level cs n now later late s) {y : Nat}
    (hy : y ∉ s.members.order) : ¬ ReachedWithin cs n y := by
  intro hr
  rw [h.members_eq, List.mem_append, not_or] at hy
  refine hy.2 ((h.mem_late y).2 ⟨hy.1, ?_⟩)
  rw [h.queue_eq, List.mem_append]
  exact (h.seen y hr).imp_right Or.inl

/-- Reading a function puts what it brings in at the next level. -/
theorem step_of_not_visited (h : Level cs n (x :: now) later late s) (hx : x ∉ s.visited)
    {c : Candidate} (hc : cs[x]? = some c) :
    ∃ late', Level cs n now (later ++ broughtIn cs c.callees) late'
      (s.step cs x (now ++ later)) := by
  obtain ⟨hqueue, hvisited, hmembers⟩ :=
    ClosureSet.step_of_not_visited hx hc (now ++ later)
  obtain ⟨new, horder, hnodup, hnew⟩ :=
    exists_insertAll_order s.members (broughtIn cs c.callees)
  have hxr : ReachedWithin cs n x := h.now_reached x (by simp)
  have hbrought : ∀ y ∈ broughtIn cs c.callees, ReachedWithin cs (n + 1) y := fun y hy ↦
    hxr.step ((mem_broughtIn_iff hc).1 hy)
  -- whatever is within `n` references was put into the queue before, so it is not new
  have hfar : ∀ y ∈ new, ∀ m, ReachedWithin cs m y → n + 1 ≤ m := fun y hy m hm ↦ by
    by_contra hlt
    exact h.not_reached_of_new ((hnew y).1 hy).2 (hm.mono (by omega))
  have hnear : ∀ y ∈ late ++ new, ReachedWithin cs (n + 1) y := fun y hy ↦ by
    rcases List.mem_append.1 hy with hy | hy
    · exact h.late_reached hy
    · exact hbrought y ((hnew y).1 hy).1
  refine ⟨late ++ new, ?_⟩
  exact
    { queue_eq := by rw [hqueue, List.append_assoc]
      now_reached := fun y hy ↦ h.now_reached y (List.mem_cons_of_mem x hy)
      later_reached := fun y hy ↦ by
        rcases List.mem_append.1 hy with hy | hy
        · exact h.later_reached y hy
        · exact hbrought y hy
      visited_reached := fun y hy ↦ by
        rw [hvisited] at hy
        rcases List.mem_cons.1 hy with rfl | hy
        · exact hxr
        · exact h.visited_reached y hy
      seen := fun y hy ↦ by
        rw [hvisited, List.mem_cons]
        rcases h.seen y hy with hv | hn
        · exact Or.inl (Or.inr hv)
        · rcases List.mem_cons.1 hn with rfl | hn
          · exact Or.inl (Or.inl rfl)
          · exact Or.inr hn
      closed := fun a ha b hab ↦ by
        rw [hvisited] at ha
        rw [hvisited, hqueue]
        -- the references of `x` are in the queue now, those of the others were followed before
        rcases List.mem_cons.1 ha with rfl | ha
        · exact Or.inr (List.mem_append_right _ ((mem_broughtIn_iff hc).2 hab))
        · rcases h.closed a ha b hab with hv | hq
          · exact Or.inl (List.mem_cons_of_mem x hv)
          · rw [h.queue_eq, List.cons_append] at hq
            rcases List.mem_cons.1 hq with rfl | hq
            · exact Or.inl (by simp)
            · exact Or.inr (List.mem_append_left _ hq)
      members_eq := by rw [hmembers, horder, h.members_eq, List.append_assoc]
      late_nodup := by
        refine List.Nodup.append h.late_nodup hnodup fun y hy hy' ↦ ?_
        refine ((hnew y).1 hy').2 ?_
        rw [h.members_eq]
        exact List.mem_append_right _ hy
      mem_late := fun y ↦ by
        rw [hvisited, hqueue]
        have hq : y ∈ s.queue ↔ y = x ∨ y ∈ now ++ later := by
          rw [h.queue_eq, List.cons_append, List.mem_cons]
        rw [List.mem_append, h.mem_late y, hnew y, h.members_eq, List.mem_append, h.mem_late y, hq]
        simp only [List.mem_cons, List.mem_append]
        grind
      late_sorted := by
        -- all of them are within `n + 1` references, and the new ones are not within fewer
        refine List.pairwise_append.2 ⟨h.late_sorted, ?_, fun a ha b hb m hm ↦ ?_⟩
        · refine List.pairwise_of_forall_mem_list fun a ha b hb m hm ↦ ?_
          exact (hnear a (List.mem_append_right _ ha)).mono (hfar b hb m hm)
        · exact (hnear a (List.mem_append_left _ ha)).mono (hfar b hb m hm) }

/-- What is in the queue is a candidate. -/
theorem exists_candidate (h : Level cs n (x :: now) later late s) : ∃ c, cs[x]? = some c := by
  obtain ⟨k, -, hr⟩ := h.now_reached x (by simp)
  cases hr with
  | origin ho => exact ⟨_, ho.choose_spec.1⟩
  | step _ hb =>
    obtain ⟨-, t, -, -, ht, -⟩ := hb
    exact ⟨t, ht⟩

/-- One step keeps the invariant, whether the entry was read before or not. -/
theorem step (h : Level cs n (x :: now) later late s) :
    ∃ later' late', Level cs n now later' late' (s.step cs x (now ++ later)) := by
  by_cases hx : x ∈ s.visited
  · exact ⟨later, late, h.step_of_visited hx⟩
  · obtain ⟨c, hc⟩ := h.exists_candidate
    obtain ⟨late', hlevel⟩ := h.step_of_not_visited hx hc
    exact ⟨_, late', hlevel⟩

/-- The search begins at level zero. -/
theorem start (hpos : Positioned cs) : Level cs 0 (Search.start cs).queue [] [] (.start cs) where
  queue_eq := by simp
  now_reached y hy := reachedWithin_zero.2 ((mem_nested_seeds_iff hpos).1 hy)
  later_reached := by simp
  visited_reached := by simp [Search.start]
  seen y hy := Or.inr ((mem_nested_seeds_iff hpos).2 (reachedWithin_zero.1 hy))
  closed := by simp [Search.start]
  members_eq := by
    have hmembers : (Search.start cs).members = insertAll {} (seeds cs) := by
      rw [insertAll, seeds, List.foldl_map]
      rfl
    rw [hmembers, insertAll_order_of_nodup (seeds_nodup hpos) (by simp)]
    simp
  late_nodup := List.nodup_nil
  mem_late y := by
    have horigin : y ∈ (Search.start cs).queue → y ∈ seeds cs := fun hy ↦
      (mem_seeds_iff hpos).2 ((mem_nested_seeds_iff hpos).1 hy).isSeed
    have hvisited : y ∉ (Search.start cs).visited := by simp [Search.start]
    simp only [List.not_mem_nil, false_iff, not_and, not_or]
    exact fun hy ↦ ⟨hvisited, fun hq ↦ hy (horigin hq)⟩
  late_sorted := List.Pairwise.nil

end Level

/-! ### The search ends -/

/-- The references of the candidate at a position. -/
def calleesAt (cs : List Candidate) (i : Nat) : List Nat := (cs[i]?.map (·.callees)).getD []

/-- How many references are still to be followed once `visited` were read. -/
def unread (cs : List Candidate) (visited : List Nat) : Nat :=
  ∑ i ∈ (Finset.range cs.length).filter (· ∉ visited), (calleesAt cs i).length

/-- A bound on the number of steps that are left. -/
def work (cs : List Candidate) (s : Search) : Nat := s.queue.length + unread cs s.visited

theorem unread_cons {visited : List Nat} {x : Nat} (hx : x ∉ visited) (hlt : x < cs.length) :
    unread cs visited = (calleesAt cs x).length + unread cs (x :: visited) := by
  have hmem : x ∈ (Finset.range cs.length).filter (· ∉ visited) := by
    simp [hx, hlt]
  have herase : ((Finset.range cs.length).filter (· ∉ visited)).erase x =
      (Finset.range cs.length).filter (· ∉ x :: visited) := by
    ext i
    simp only [Finset.mem_erase, Finset.mem_filter, List.mem_cons, not_or]
    tauto
  rw [unread, ← Finset.add_sum_erase _ _ hmem, herase, unread]

theorem unread_nil : unread cs [] = (cs.map (·.callees.length)).foldr (· + ·) 0 := by
  have hsum : ((List.range cs.length).map fun i ↦ (calleesAt cs i).length) =
      cs.map (·.callees.length) := by
    refine List.ext_getElem (by simp) fun i hi hi' ↦ ?_
    have hlt : i < cs.length := by simpa using hi
    simp [calleesAt, List.getElem?_eq_getElem hlt]
  rw [← hsum, ← List.sum_eq_foldr, unread, Finset.filter_true_of_mem (by simp)]
  rfl

theorem work_step_lt {n x : Nat} {now later late : List Nat} {s : Search}
    (h : Level cs n (x :: now) later late s) :
    work cs (s.step cs x (now ++ later)) < work cs s := by
  have hlen : s.queue.length = (now ++ later).length + 1 := by rw [h.queue_eq]; simp
  by_cases hx : x ∈ s.visited
  · rw [step_of_visited hx, work, work, hlen]
    exact Nat.add_lt_add_right (Nat.lt_succ_self _) _
  · obtain ⟨c, hc⟩ := h.exists_candidate
    obtain ⟨hqueue, hvisited, -⟩ := step_of_not_visited hx hc (now ++ later)
    obtain ⟨hlt, -⟩ := List.getElem?_eq_some_iff.1 hc
    have hcallees : calleesAt cs x = c.callees := by simp [calleesAt, hc]
    have hbrought : (broughtIn cs c.callees).length ≤ c.callees.length := List.length_filter_le ..
    rw [work, work, hqueue, hvisited, unread_cons hx hlt, hcallees, hlen, List.length_append]
    omega

theorem work_start_le : work cs (.start cs) ≤ enoughSteps cs := by
  have hqueue : (Search.start cs).queue.length ≤ cs.length := by
    rw [Search.start, List.length_map]
    exact (List.length_filter_le ..).trans (List.length_filter_le ..)
  have hvisited : (Search.start cs).visited = [] := rfl
  rw [work, hvisited, unread_nil, enoughSteps]
  omega

theorem run_of_queue_nil {s : Search} (h : s.queue = []) (fuel : Nat) : s.run cs fuel = s := by
  cases fuel with
  | zero => rfl
  | succ fuel => rw [Search.run, h]

theorem run_of_queue_cons {s : Search} {x : Nat} {rest : List Nat} (h : s.queue = x :: rest)
    (fuel : Nat) : s.run cs (fuel + 1) = (s.step cs x rest).run cs fuel := by
  rw [Search.run, h]

theorem run_add (a b : Nat) (s : Search) : s.run cs (a + b) = (s.run cs a).run cs b := by
  induction a generalizing s with
  | zero => rw [Nat.zero_add, Search.run]
  | succ a ih =>
    rw [Nat.succ_add]
    cases hqueue : s.queue with
    | nil => rw [run_of_queue_nil hqueue, run_of_queue_nil hqueue, run_of_queue_nil hqueue]
    | cons x rest => rw [run_of_queue_cons hqueue, run_of_queue_cons hqueue, ih]

/-- With enough fuel the queue runs empty, and the invariant holds at some level then. -/
theorem exists_level_run {fuel n : Nat} {now later late : List Nat} {s : Search}
    (h : Level cs n now later late s) (hfuel : work cs s ≤ fuel) :
    ∃ m late', Level cs m [] [] late' (s.run cs fuel) := by
  induction fuel generalizing n now later late s with
  | zero =>
    have hqueue : s.queue = [] := List.eq_nil_of_length_eq_zero (by rw [work] at hfuel; omega)
    have hparts : now = [] ∧ later = [] := by simpa using h.queue_eq.symm.trans hqueue
    obtain ⟨rfl, rfl⟩ := hparts
    exact ⟨n, late, h⟩
  | succ fuel ih =>
    -- an entry at level `n`, one at the next level, or no entry at all
    match now, later, h with
    | x :: now, later, h =>
      obtain ⟨later', late', hstep⟩ := h.step
      rw [run_of_queue_cons h.queue_eq]
      exact ih hstep (Nat.le_of_lt_succ ((work_step_lt h).trans_le hfuel))
    | [], x :: later, h =>
      obtain ⟨later', late', hstep⟩ := h.shift.step
      rw [run_of_queue_cons h.shift.queue_eq]
      exact ih hstep (Nat.le_of_lt_succ ((work_step_lt h.shift).trans_le hfuel))
    | [], [], h =>
      rw [run_of_queue_nil h.queue_eq]
      exact ⟨n, late, h⟩

/-! ### What the search finds -/

/-- When the queue is empty, everything that can be reached was read. -/
theorem Level.mem_visited_iff {n : Nat} {late : List Nat} {s : Search}
    (h : Level cs n [] [] late s) {id : Nat} :
    id ∈ s.visited ↔ ∃ m, ReachedIn cs m id := by
  constructor
  · intro hv
    obtain ⟨m, -, hr⟩ := h.visited_reached id hv
    exact ⟨m, hr⟩
  · rintro ⟨m, hr⟩
    induction hr with
    | origin ho =>
      have hseen := h.seen _ ((ReachedIn.origin ho).within.mono (Nat.zero_le n))
      simpa using hseen
    | step _ hb ih => simpa [h.queue_eq] using h.closed _ ih _ hb

/-- The members after the seeds are what was reached and is no seed. -/
theorem Level.mem_late_iff {n : Nat} {late : List Nat} {s : Search}
    (h : Level cs n [] [] late s) {id : Nat} :
    id ∈ late ↔ id ∉ seeds cs ∧ ∃ m, ReachedIn cs m id := by
  rw [h.mem_late id, ← h.mem_visited_iff, h.queue_eq]
  simp

/-- The search ends at some level, with nothing left in the queue. -/
theorem exists_level_search (hpos : Positioned cs) :
    ∃ n late, Level cs n [] [] late (search cs) :=
  exists_level_run (Level.start hpos) work_start_le

theorem compute_order_nodup (hpos : Positioned cs) : (compute cs).order.Nodup := by
  obtain ⟨n, late, h⟩ := exists_level_search hpos
  have horder : (compute cs).order = seeds cs ++ late := h.members_eq
  rw [horder]
  exact List.Nodup.append (seeds_nodup hpos) h.late_nodup fun x hx hx' ↦
    (h.mem_late_iff.1 hx').1 hx

/-- The members are the seeds and what is reached by at least one reference. -/
theorem mem_compute_iff (hpos : Positioned cs) {id : Nat} :
    id ∈ (compute cs).order ↔ IsSeed cs id ∨ ∃ n, ReachedIn cs (n + 1) id := by
  obtain ⟨n, late, h⟩ := exists_level_search hpos
  have horder : (compute cs).order = seeds cs ++ late := h.members_eq
  rw [horder, List.mem_append, h.mem_late_iff, mem_seeds_iff hpos]
  -- a seed may be reached as well, but it is a member anyway
  by_cases hs : IsSeed cs id
  · simp [hs]
  · simp only [hs, not_false_eq_true, true_and, false_or]
    exact ⟨fun ⟨_, hr⟩ ↦ hr.exists_succ hs, fun ⟨_, hr⟩ ↦ ⟨_, hr⟩⟩

/-- The members are candidates with a body. -/
theorem exists_candidate_of_mem_compute (hpos : Positioned cs) {id : Nat}
    (hid : id ∈ (compute cs).order) : ∃ c, cs[id]? = some c ∧ c.hasBody = true := by
  rcases (mem_compute_iff hpos).1 hid with ⟨c, hc, hseed⟩ | ⟨n, hr⟩
  · simp only [Candidate.isSeed, Bool.and_eq_true] at hseed
    exact ⟨c, hc, hseed.2⟩
  · cases hr with
    | step _ hb =>
      obtain ⟨-, t, -, -, ht, hincl⟩ := hb
      simp only [Candidate.isIncludable, Bool.and_eq_true] at hincl
      exact ⟨t, ht, hincl.1.2⟩

/-- **What a closure is.** The search runs its queue empty, and more steps would change nothing. The
members are the seeds and what is reached by at least one reference, each once. The seeds come first
in the order of their numbers, and the others follow by distance from the origins. -/
theorem compute_breadth_first (hpos : Positioned cs) :
    ((search cs).queue = [] ∧
        ∀ fuel, enoughSteps cs ≤ fuel → Search.run cs fuel (.start cs) = search cs) ∧
      (∀ id, id ∈ (compute cs).order ↔ IsSeed cs id ∨ ∃ n, ReachedIn cs (n + 1) id) ∧
      (compute cs).order.Nodup ∧
      ∃ late, (compute cs).order = seeds cs ++ late ∧
        ((seeds cs).Pairwise (· < ·) ∧ ∀ id, id ∈ seeds cs ↔ IsSeed cs id) ∧
        (∀ id ∈ late, ReachedIn cs (distance cs id) id) ∧
        late.Pairwise fun a b ↦ distance cs a ≤ distance cs b := by
  obtain ⟨n, late, h⟩ := exists_level_search hpos
  have hqueue : (search cs).queue = [] := h.queue_eq
  have horder : (compute cs).order = seeds cs ++ late := h.members_eq
  refine ⟨⟨hqueue, fun fuel hle ↦ ?_⟩, fun id ↦ ?_, compute_order_nodup hpos, late, horder,
    ⟨seeds_pairwise_lt hpos, fun id ↦ mem_seeds_iff hpos⟩, fun id hid ↦ ?_, ?_⟩
  · obtain ⟨more, rfl⟩ := Nat.exists_eq_add_of_le hle
    rw [run_add, ← search, run_of_queue_nil hqueue]
  · -- a seed may be reached as well, but it is a member anyway
    rw [horder, List.mem_append, h.mem_late_iff, mem_seeds_iff hpos]
    constructor
    · rintro (hs | ⟨hs, m, hr⟩)
      · exact Or.inl hs
      · exact Or.inr (hr.exists_succ hs)
    · rintro (hs | ⟨m, hr⟩)
      · exact Or.inl hs
      · by_cases hs : IsSeed cs id
        · exact Or.inl hs
        · exact Or.inr ⟨hs, _, hr⟩
  · exact (h.mem_late_iff.1 hid).2.elim fun _ hr ↦ hr.at_distance
  · refine h.late_sorted.imp_of_mem fun {a b} ha hb hab ↦ ?_
    obtain ⟨-, ka, hra⟩ := h.mem_late_iff.1 ha
    obtain ⟨-, kb, hrb⟩ := h.mem_late_iff.1 hb
    exact (distance_le_iff hra.within).2 (hab _ hrb.at_distance.within)

/-- A skipped seed on a cycle, with a reference to itself and one to no candidate, beside a seed
that is reached before it is read. -/
def cycleOfSeeds : List Candidate :=
  [{ id := 0, tracked := true, nested := true, skipped := true, callees := [3, 0, 7] },
    { id := 1, tracked := true, callees := [2, 0] },
    { id := 2, hasBody := false, callees := [1] },
    { id := 3, callees := [4, 1, 3] },
    { id := 4, callees := [2, 5] },
    { id := 5, skipped := true }]

theorem compute_breadth_first_cycleOfSeeds :
    (compute cycleOfSeeds).order = [0, 1, 3, 4] ∧
      (search cycleOfSeeds).queue = [] ∧
      (∀ id, id ∈ (compute cycleOfSeeds).order ↔
        IsSeed cycleOfSeeds id ∨ ∃ n, ReachedIn cycleOfSeeds (n + 1) id) ∧
      ∃ late, (compute cycleOfSeeds).order = seeds cycleOfSeeds ++ late ∧
        late.Pairwise fun a b ↦ distance cycleOfSeeds a ≤ distance cycleOfSeeds b := by
  have hpos : Positioned cycleOfSeeds := by decide
  obtain ⟨⟨hqueue, -⟩, hmem, -, late, horder, -, -, hsorted⟩ := compute_breadth_first hpos
  exact ⟨by decide, hqueue, hmem, late, horder, hsorted⟩

end RenderTrace.ClosureSet
