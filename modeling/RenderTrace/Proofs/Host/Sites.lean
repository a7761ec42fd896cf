import RenderTrace.Proofs.Host.Rendering

/-!
# Call sites do not interfere

While tracking is on and nobody holds a tracker, a host that renders again and again treats its
call sites as if each had trackers of its own: what is seen at a position depends on nothing but the
calls that came to this position, and is what is seen of a tracker on its own that is tracked by
them (`Host.sights_new`). A tracker on its own ends when no call comes, and the next call starts a
new one.

What is seen at a position is told by numbers. The tracker of a position is the one in its slot, and
what it says is told from what others say by its number, which no other tracker has.
-/

namespace RenderTrace

/-- What is seen at a position in a rendering: the answer to the call that came, if one did, the
records of what was said, and the tracker afterwards. -/
structure Sight where
  answer : Option Outcome := none
  said : List Record := []
  tracker : Option Tracker := none
  deriving DecidableEq, Repr

/-! ### A tracker on its own -/

namespace Sight

/-- What is seen of a tracker on its own. A call is tracked, by a new tracker if there is none, and
without a call the tracker ends. -/
def alone (live : Option Tracker) : Option SiteCall → Sight
  | some c =>
    let t := live.getD { name := c.name }
    let (t', outcome, said) := t.track c.arguments c.skipped
    { answer := some outcome, said := said.map (Message.record t.name), tracker := some t' }
  | none => { said := (live.map fun t ↦ t.close.map (Message.record t.name)).getD [] }

/-- What is seen of a tracker on its own in one rendering after the other. -/
def aloneAll (live : Option Tracker) : List (Option SiteCall) → List Sight
  | [] => []
  | c :: cs => alone live c :: aloneAll (alone live c).tracker cs

end Sight

namespace Host

/-! ### A position of a host -/

/-- The number of the tracker at a position. -/
def numberAt (h : Host) (i : Nat) : Option Nat := h.slots[i]?.bind Slot.number?

/-- The tracker at a position. -/
def trackerAt (h : Host) (i : Nat) : Option Tracker := (h.numberAt i).bind (h.trackers[·]?)

/-- What is seen at a position when a host renders: what is said is what the tracker says that was
there before, or is there afterwards. -/
def sight (h : Host) (calls : List SiteCall) (i : Nat) : Sight :=
  let (after, answers) := h.compose (calls.map SiteCall.use)
  { answer := answers[i]?
    said := ((after.said.drop h.said.length).filter fun r ↦
      some r.number == h.numberAt i || some r.number == after.numberAt i).map Remark.record
    tracker := after.trackerAt i }

/-- What is seen at a position in one rendering after the other. -/
def sights (h : Host) (i : Nat) : List (List SiteCall) → List Sight
  | [] => []
  | calls :: passes => h.sight calls i :: (h.compose (calls.map SiteCall.use)).1.sights i passes

variable {h : Host}

/-! ### Seats -/

/-- Each call gets a seat, with the tracker of its site if there is one, or else with a new one. -/
theorem getElem?_seats {calls : List SiteCall} {i : Nat} {c : SiteCall} (hc : calls[i]? = some c)
    (fresh : Nat) (sites : List (Nat × Tracker)) :
    ∃ n, (seats fresh sites calls)[i]? =
        some ⟨n, (sites[i]?.map (·.2)).getD { name := c.name }, c⟩ ∧
      ∀ s, sites[i]? = some s → s.1 = n := by
  induction calls generalizing fresh sites i with
  | nil => simp at hc
  | cons c' cs ih =>
    cases i with
    | zero =>
      obtain rfl : c' = c := by simpa using hc
      cases sites with
      | nil => exact ⟨fresh, rfl, by simp⟩
      | cons s sites => exact ⟨s.1, rfl, by simp⟩
    | succ i =>
      cases sites with
      | nil => exact ih hc (fresh + 1) []
      | cons s sites => exact ih hc fresh sites

theorem length_seats (fresh : Nat) (sites : List (Nat × Tracker)) (calls : List SiteCall) :
    (seats fresh sites calls).length = calls.length := by
  induction calls generalizing fresh sites with
  | nil => cases sites <;> rfl
  | cons c cs ih => cases sites <;> simp [seats, ih]

theorem number_of_mem_remarks {s : Seat} {r : Remark} (hr : r ∈ s.remarks) :
    r.number = s.number := by
  obtain ⟨m, -, rfl⟩ := List.mem_map.1 hr
  rfl

theorem number_of_mem_farewell {s : Nat × Tracker} {r : Remark} (hr : r ∈ farewell s) :
    r.number = s.1 := by
  obtain ⟨m, -, rfl⟩ := List.mem_map.1 hr
  rfl

namespace Settled

variable {sites : List (Nat × Tracker)} {i : Nat}

theorem numberAt (hs : Settled h sites) (i : Nat) : h.numberAt i = sites[i]?.map (·.1) := by
  have hslots : h.slots = sites.map fun s ↦ .tracker s.1 := hs.slots_eq
  rw [Host.numberAt, hslots, List.getElem?_map]
  cases sites[i]? <;> rfl

theorem trackerAt (hs : Settled h sites) (i : Nat) : h.trackerAt i = sites[i]?.map (·.2) := by
  rw [Host.trackerAt, hs.numberAt]
  cases hi : sites[i]? with
  | none => rfl
  | some s => exact hs.trackers_eq s (List.mem_of_getElem? hi)

/-- What is seen at a position, told by the seats of the calls and the sites that are left. -/
theorem sight_eq_of_seats (hs : Settled h sites) (calls : List SiteCall) (i : Nat) :
    let used := seats h.trackers.length sites calls
    let left := sites.drop calls.length
    h.sight calls i =
      { answer := used[i]?.map Seat.answer
        said := ((used.flatMap Seat.remarks ++ left.flatMap farewell).filter fun r ↦
          some r.number == sites[i]?.map (·.1) || some r.number == used[i]?.map (·.number)).map
            Remark.record
        tracker := used[i]?.map (·.tracked.2) } := by
  intro used left
  obtain ⟨-, h', hcompose, hs', hsaid⟩ := hs.compose calls
  have hsay : h'.said.drop h.said.length =
      used.flatMap Seat.remarks ++ left.flatMap farewell := by
    rw [hsaid, List.append_assoc, List.drop_left]
  have hnumber : h'.numberAt i = used[i]?.map (·.number) := by
    rw [hs'.numberAt, List.getElem?_map, Option.map_map]
    rfl
  have htracker : h'.trackerAt i = used[i]?.map (·.tracked.2) := by
    rw [hs'.trackerAt, List.getElem?_map, Option.map_map]
    rfl
  rw [sight, hcompose]
  dsimp only
  rw [hsay, hnumber, htracker, hs.numberAt, List.getElem?_map]

/-- Where a call comes, its tracker is tracked, or a new one. -/
theorem sight_of_call (hs : Settled h sites) {calls : List SiteCall} {c : SiteCall}
    (hc : calls[i]? = some c) :
    h.sight calls i = Sight.alone (sites[i]?.map (·.2)) (some c) := by
  obtain ⟨n, hseat, hn⟩ := getElem?_seats hc h.trackers.length sites
  have hmem := List.mem_of_getElem? hseat
  obtain ⟨hused, -, hapart⟩ := List.nodup_append.1 (hs.compose calls).1
  have hothers : ∀ s ∈ sites.drop calls.length, s.1 ≠ n := fun s hleft ↦
    (hapart n (List.mem_map_of_mem hmem) s.1 (List.mem_map_of_mem hleft)).symm
  -- the tracker that was there before is the one that is called
  have hby : (fun r : Remark ↦ some r.number == sites[i]?.map (·.1) || some r.number == some n) =
      fun r ↦ r.number == n := by
    funext r
    cases hi : sites[i]? with
    | none => simp
    | some s => simp [hn s hi]
  rw [hs.sight_eq_of_seats, hseat]
  simp only [Option.map_some]
  rw [hby, List.filter_append,
    filter_flatMap_of_mem Seat.number (fun _ _ _ hr ↦ number_of_mem_remarks hr) hused hmem,
    filter_flatMap_of_forall_ne _ (fun _ _ _ hr ↦ number_of_mem_farewell hr) hothers]
  simp [Sight.alone, Seat.answer, Seat.remarks, Seat.tracked, Tracker.track, Remark.record,
    Function.comp_def]

/-- Where no call comes, the tracker ends, if there is one. -/
theorem sight_of_no_call (hs : Settled h sites) {calls : List SiteCall} (hc : calls[i]? = none) :
    h.sight calls i = Sight.alone (sites[i]?.map (·.2)) none := by
  have hle : calls.length ≤ i := List.getElem?_eq_none_iff.1 hc
  have hseat : (seats h.trackers.length sites calls)[i]? = none := by
    rwa [List.getElem?_eq_none_iff, length_seats]
  rw [hs.sight_eq_of_seats, hseat]
  cases hi : sites[i]? with
  | none => simp [Sight.alone]
  | some s =>
    have hmem : s ∈ sites.drop calls.length := by
      refine List.mem_of_getElem? (i := i - calls.length) ?_
      rw [List.getElem?_drop, Nat.add_sub_cancel' hle, hi]
    obtain ⟨-, hleft, hapart⟩ := List.nodup_append.1 (hs.compose calls).1
    have hothers : ∀ u ∈ seats h.trackers.length sites calls, u.number ≠ s.1 := fun u hu ↦
      hapart u.number (List.mem_map_of_mem hu) s.1 (List.mem_map_of_mem hmem)
    have hby : (fun r : Remark ↦ some r.number == some s.1 || some r.number == none) =
        fun r ↦ r.number == s.1 := by
      funext r
      simp
    simp only [Option.map_some, Option.map_none]
    rw [hby, List.filter_append,
      filter_flatMap_of_forall_ne _ (fun _ _ _ hr ↦ number_of_mem_remarks hr) hothers,
      filter_flatMap_of_mem _ (fun _ _ _ hr ↦ number_of_mem_farewell hr) hleft hmem]
    simp [Sight.alone, farewell, Remark.record, Function.comp_def]

/-- What is seen at a position depends on its tracker and on the call that comes to it only. -/
theorem sight_eq (hs : Settled h sites) (calls : List SiteCall) (i : Nat) :
    h.sight calls i = Sight.alone (sites[i]?.map (·.2)) calls[i]? := by
  cases hc : calls[i]? with
  | none => exact hs.sight_of_no_call hc
  | some c => exact hs.sight_of_call hc

end Settled

/-- What is seen at a position of a settled host, in one rendering after the other. -/
theorem sights_eq {sites : List (Nat × Tracker)} (hs : Settled h sites)
    (passes : List (List SiteCall)) (i : Nat) :
    h.sights i passes = Sight.aloneAll (sites[i]?.map (·.2)) (passes.map (·[i]?)) := by
  induction passes generalizing h sites with
  | nil => rfl
  | cons calls passes ih =>
    obtain ⟨-, h', hcompose, hs', -⟩ := hs.compose calls
    have htracker : (h.sight calls i).tracker = h'.trackerAt i := by
      rw [sight, hcompose]
    rw [sights, hcompose, ih hs', List.map_cons, Sight.aloneAll, ← hs.sight_eq, htracker,
      hs'.trackerAt]

/-- **Call sites do not interfere.** However often a new host renders and whatever calls come, what
is seen at a position is what is seen of a tracker on its own when the calls of this position are
tracked: the answers, what is said, and the tracker with its count and its latest arguments. A
rendering without a call at this position ends the tracker, and the next call starts a new one. -/
theorem sights_new (passes : List (List SiteCall)) (i : Nat) :
    ({} : Host).sights i passes = Sight.aloneAll none (passes.map (·[i]?)) :=
  have hnew : Settled {} [] := ⟨rfl, rfl, rfl, List.nodup_nil, by simp, rfl, rfl, by simp⟩
  sights_eq hnew passes i

/-- A site that a rendering leaves out starts again with a new tracker, and its neighbour goes on. -/
example :
    let row : SiteCall := ⟨"row", {}, []⟩
    let cell : SiteCall := ⟨"cell", {}, []⟩
    let passes := [[row, cell], [row], [row, cell]]
    (({} : Host).sights 0 passes).map (·.answer) =
        [some .initial, some (.unreflected 1), some (.unreflected 2)] ∧
      (({} : Host).sights 1 passes).map (·.answer) = [some .initial, none, some .initial] := by
  decide

end Host

end RenderTrace
