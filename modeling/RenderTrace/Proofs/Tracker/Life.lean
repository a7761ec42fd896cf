import RenderTrace.Proofs.Tracker.Reference

/-!
# The log of a whole life

A tracker lives through operations and then ends. This module says what is heard of it on the
channel for debugging, from its first operation to its end: a greeting if it was called at all, an
announcement for each call that counted, and a farewell (`Tracker.heard_lifetime`). The numbers in
the announcements are those in the answers, and count from one to the final count.

## One operation

What a single call does is said once (`recompose_name` to `recompose_isInPhase`), and with it what
an operation does that is a call (`call?_eq_some`) or not (`call?_eq_none`). The laws of a life
follow by induction on the operations, for a tracker in any state: a tracker that was called before
has said its greeting, and its farewell has the arguments of that call unless another one comes.
-/

namespace RenderTrace

/-! ### What is said in a life -/

/-- The number that a message tells. -/
def Message.count? : Message → Option Nat
  | .recomposed n => some n
  | .unreflected n => some n
  | _ => none

/-- The number that an answer tells. -/
def Outcome.count? : Outcome → Option Nat
  | .changed n _ => some n
  | .unreflected n => some n
  | _ => none

namespace Tracker

/-- What a tracker says at an operation. -/
def messages (t : Tracker) : Operation → List Message
  | .recompose a skipped => (t.recompose a skipped).2.2
  | .commit => []
  | .track a skipped => (t.track a skipped).2.2

/-- A tracker after operations. -/
def run (t : Tracker) (ops : List Operation) : Tracker := ops.foldl (fun t op ↦ (t.perform op).1) t

/-- What a tracker says at operations and then at its end. -/
def lifetime (t : Tracker) : List Operation → List Message
  | [] => t.close
  | op :: ops => t.messages op ++ (t.perform op).1.lifetime ops

/-- What is heard on the channel for debugging when a tracker of this name speaks. -/
def heard (name : String) (ms : List Message) : List String :=
  Record.messagesOf .debug (ms.map (Message.record name))

/-- A call in a life: what came, when, and what was answered. -/
structure Call where
  arguments : Arguments
  /-- The phase in which the call was made. -/
  phase : Phase
  answer : Outcome
  deriving DecidableEq, Repr

/-- The call that an operation is, if it is one. -/
def call? (t : Tracker) : Operation → Option Call
  | .recompose a skipped => some ⟨a, t.phase, (t.recompose a skipped).2.1⟩
  | .commit => none
  | .track a skipped => some ⟨a, t.phase, (t.track a skipped).2.1⟩

/-- The calls among operations. -/
def calls (t : Tracker) : List Operation → List Call
  | [] => []
  | op :: ops => (t.call? op).toList ++ (t.perform op).1.calls ops

namespace Call

/-- What is announced of a call. -/
def announcement (c : Call) : List Message :=
  match c.phase, c.answer with
  | .steady, .changed n changes => [.recomposed n, .changes changes]
  | .steady, .unreflected n => [.unreflected n]
  | _, _ => []

/-- Whether the answer to a call is one of its phase. -/
def IsInPhase (c : Call) : Prop :=
  match c.phase with
  | .initial => c.answer = .initial
  | .steady => (∃ n cs, c.answer = .changed n cs) ∨ (∃ n, c.answer = .unreflected n) ∨
      ∃ cs, c.answer = .suppressed cs

end Call

/-- What is said first in a life with these calls. -/
def greeting (cs : List Call) : List Message :=
  (cs.head?.map fun c ↦ .entered c.arguments).toList

/-- What is said last in a life with these calls: it has the arguments of the latest one, or of the
latest one before if there are none. -/
def farewell (before : Arguments) (cs : List Call) : Message :=
  .exited ((cs.getLast?.map (·.arguments)).getD before)

/-! ### One call -/

section Call

variable (t : Tracker) (a : Arguments) (skipped : List String)

@[simp] theorem recompose_name : (t.recompose a skipped).1.name = t.name := by
  cases h : t.atSecond <;> simp [recompose, advance, turn, fill, h]

@[simp] theorem recompose_phase : (t.recompose a skipped).1.phase = t.phase := by
  cases h : t.atSecond <;> simp [recompose, advance, turn, fill, h]

@[simp] theorem recompose_entered : (t.recompose a skipped).1.entered = true := by
  cases h : t.atSecond <;> simp [recompose, advance, turn, fill, h]

@[simp] theorem recompose_last : (t.recompose a skipped).1.last = a :=
  congrArg Reference.last (t.recompose_view a skipped).1

/-- A call says the greeting if it is the first, and what its answer calls for. -/
theorem recompose_said :
    (t.recompose a skipped).2.2 =
      (if t.entered then [] else [.entered a]) ++ saidAbout (t.recompose a skipped).2.1 := rfl

theorem recompose_answer :
    (t.recompose a skipped).2.1 = t.view.answer a skipped := (t.recompose_view a skipped).2

theorem countAfter_eq (logged : Nat) (o : Outcome) :
    countAfter logged o = o.count?.getD logged := by
  cases o <;> rfl

/-- The count after a call is the number in the answer, if there is one. -/
theorem recompose_logged :
    (t.recompose a skipped).1.logged = (t.recompose a skipped).2.1.count?.getD t.logged := by
  have hadvance : ({ t with entered := true }.advance a skipped).1.logged = t.logged :=
    congrArg Reference.logged (advance_eq { t with entered := true } a skipped).1
  rw [← hadvance, ← countAfter_eq]
  rfl

/-- The number in an answer is the count before the call and one. -/
theorem recompose_count? {n : Nat} (h : (t.recompose a skipped).2.1.count? = some n) :
    n = t.logged + 1 := by
  rw [recompose_answer] at h
  cases hphase : t.phase with
  | initial => simp [Reference.answer, view, hphase, Outcome.count?] at h
  | steady =>
    simp only [Reference.answer, view, hphase] at h
    split_ifs at h <;> simp_all [Outcome.count?]

theorem recompose_isInPhase : Call.IsInPhase ⟨a, t.phase, (t.recompose a skipped).2.1⟩ := by
  rw [recompose_answer]
  cases hphase : t.phase with
  | initial => simp [Call.IsInPhase, Reference.answer, view, hphase]
  | steady =>
    simp only [Call.IsInPhase, Reference.answer, view, hphase]
    split_ifs <;> simp

/-- A call is answered with `initial` in the initial phase only. -/
theorem recompose_eq_initial_iff :
    (t.recompose a skipped).2.1 = .initial ↔ t.phase = .initial := by
  have hphase := t.recompose_isInPhase a skipped
  cases h : t.phase with
  | initial => simpa [Call.IsInPhase, h] using hphase
  | steady =>
    rw [h] at hphase
    obtain ⟨n, cs, heq⟩ | ⟨n, heq⟩ | ⟨cs, heq⟩ := hphase <;> (dsimp only at heq; simp [heq])

end Call

/-! ### One operation -/

variable {t : Tracker} {op : Operation} {c : Call}

@[simp] theorem perform_name (t : Tracker) (op : Operation) : (t.perform op).1.name = t.name := by
  cases op <;> simp [perform, track, commit]

/-- An operation that is no call says nothing, and leaves the count and the latest arguments. -/
theorem call?_eq_none (h : t.call? op = none) :
    t.messages op = [] ∧ (t.perform op).1.entered = t.entered ∧ (t.perform op).1.last = t.last ∧
      (t.perform op).1.logged = t.logged := by
  cases op with
  | commit => exact ⟨rfl, rfl, rfl, rfl⟩
  | recompose a skipped => simp [call?] at h
  | track a skipped => simp [call?] at h

/-- An operation that is a call recomposes, and may commit afterwards. -/
theorem exists_recompose (h : t.call? op = some c) :
    ∃ a skipped, c = ⟨a, t.phase, (t.recompose a skipped).2.1⟩ ∧
      t.messages op = (t.recompose a skipped).2.2 ∧
      ((t.perform op).1 = (t.recompose a skipped).1 ∨
        (t.perform op).1 = (t.recompose a skipped).1.commit) := by
  cases op with
  | commit => simp [call?] at h
  | recompose a skipped => exact ⟨a, skipped, (Option.some.inj h).symm, rfl, .inl rfl⟩
  | track a skipped => exact ⟨a, skipped, (Option.some.inj h).symm, rfl, .inr rfl⟩

/-- What an operation does that is a call. -/
theorem call?_eq_some (h : t.call? op = some c) :
    t.messages op = (if t.entered then [] else [.entered c.arguments]) ++ saidAbout c.answer ∧
      (t.perform op).1.entered = true ∧ (t.perform op).1.last = c.arguments ∧
      (t.perform op).1.logged = c.answer.count?.getD t.logged := by
  obtain ⟨a, skipped, rfl, hsaid, hperform⟩ := exists_recompose h
  refine ⟨hsaid.trans (recompose_said ..), ?_⟩
  -- a commit leaves all three as they are
  rcases hperform with hperform | hperform <;> rw [hperform] <;>
    exact ⟨recompose_entered t a skipped, recompose_last t a skipped, recompose_logged ..⟩

theorem isInPhase_of_call? (h : t.call? op = some c) : c.IsInPhase := by
  obtain ⟨a, skipped, rfl, -⟩ := exists_recompose h
  exact t.recompose_isInPhase a skipped

theorem count?_of_call? (h : t.call? op = some c) {n : Nat} (hn : c.answer.count? = some n) :
    n = t.logged + 1 := by
  obtain ⟨a, skipped, rfl, -⟩ := exists_recompose h
  exact t.recompose_count? a skipped hn

/-- What is said besides the greeting tells the number of the answer, if it has one. -/
theorem counts_saidAbout (o : Outcome) :
    (saidAbout o).filterMap Message.count? = o.count?.toList := by
  cases o <;> rfl

/-! ### A whole life -/

theorem heard_append (name : String) (ms ms' : List Message) :
    heard name (ms ++ ms') = heard name ms ++ heard name ms' := by
  simp [heard, Record.messagesOf]

/-- Of what is said about an answer, the announcement of its call is heard. -/
theorem heard_saidAbout (h : c.IsInPhase) (name : String) :
    heard name (saidAbout c.answer) = c.announcement.map fun m ↦ (m.record name).message := by
  obtain ⟨a, phase, answer⟩ := c
  cases phase with
  | initial =>
    obtain rfl : answer = .initial := h
    rfl
  | steady => obtain ⟨n, cs, rfl⟩ | ⟨n, rfl⟩ | ⟨cs, rfl⟩ := h <;> rfl

theorem isInPhase_of_mem_calls (t : Tracker) (ops : List Operation) :
    ∀ c ∈ t.calls ops, c.IsInPhase := by
  induction ops generalizing t with
  | nil => simp [calls]
  | cons op ops ih =>
    intro c hc
    rcases List.mem_append.1 hc with hop | hops
    · exact isInPhase_of_call? (Option.mem_toList.1 hop)
    · exact ih _ c hops

/-- A life from some state on: the greeting is left out if it was said before. -/
theorem heard_lifetime_from (t : Tracker) (ops : List Operation) :
    heard t.name (t.lifetime ops) =
      ((if t.entered then [] else greeting (t.calls ops)) ++
        (t.calls ops).flatMap Call.announcement ++ [farewell t.last (t.calls ops)]).map
          fun m ↦ (m.record t.name).message := by
  induction ops generalizing t with
  | nil => cases h : t.entered <;> rfl
  | cons op ops ih =>
    rw [lifetime, calls, heard_append, ← perform_name t op, ih, perform_name]
    cases hcall : t.call? op with
    | none =>
      obtain ⟨hsaid, hentered, hlast, -⟩ := call?_eq_none hcall
      rw [hsaid, hentered, hlast]
      rfl
    | some c =>
      obtain ⟨hsaid, hentered, hlast, -⟩ := call?_eq_some hcall
      -- the farewell is about the latest call, and the greeting about the first
      have hfarewell : farewell t.last (c :: (t.perform op).1.calls ops) =
          farewell c.arguments ((t.perform op).1.calls ops) := by
        cases hcs : (t.perform op).1.calls ops <;> simp [farewell, List.getLast?_cons]
      have hgreeting : heard t.name (if t.entered then [] else [.entered c.arguments]) =
          (if t.entered then [] else greeting (c :: (t.perform op).1.calls ops)).map
            fun m ↦ (m.record t.name).message := by
        cases t.entered <;> rfl
      rw [hsaid, heard_append, heard_saidAbout (isInPhase_of_call? hcall), hentered, hlast,
        hgreeting]
      simp [hfarewell]

/-- The numbers that are told are those in the answers, and count on from the count. -/
theorem counts_from (t : Tracker) (ops : List Operation) :
    (t.lifetime ops).filterMap Message.count? = (t.calls ops).filterMap (·.answer.count?) ∧
      ∃ k, (t.calls ops).filterMap (·.answer.count?) = List.range' (t.logged + 1) k ∧
        (t.run ops).logged = t.logged + k := by
  induction ops generalizing t with
  | nil => exact ⟨rfl, 0, rfl, rfl⟩
  | cons op ops ih =>
    obtain ⟨htold, k, hcounts, hlogged⟩ := ih (t.perform op).1
    cases hcall : t.call? op with
    | none =>
      obtain ⟨hsaid, -, -, hsame⟩ := call?_eq_none hcall
      rw [hsame] at hcounts hlogged
      exact ⟨by simp [lifetime, calls, hsaid, hcall, htold], k, by simp [calls, hcall, hcounts],
        hlogged⟩
    | some c =>
      obtain ⟨hsaid, -, -, hcount⟩ := call?_eq_some hcall
      have hgreeting : (if t.entered then [] else [Message.entered c.arguments]).filterMap
          Message.count? = [] := by
        cases t.entered <;> rfl
      refine ⟨?_, ?_⟩
      · rw [lifetime, calls, hsaid, hcall, List.filterMap_append, List.filterMap_append, hgreeting,
          counts_saidAbout, htold]
        cases hn : c.answer.count? <;> simp [hn]
      · -- an answer with a number counts one on, and any other leaves the count
        cases hn : c.answer.count? with
        | none =>
          rw [hn, Option.getD_none] at hcount
          rw [hcount] at hcounts hlogged
          exact ⟨k, by simp [calls, hcall, hn, hcounts], hlogged⟩
        | some n =>
          obtain rfl := count?_of_call? hcall hn
          rw [hn, Option.getD_some] at hcount
          rw [hcount] at hcounts hlogged
          have hrun : (t.run (op :: ops)).logged = t.logged + 1 + k := hlogged
          exact ⟨k + 1, by simp [calls, hcall, hn, hcounts, List.range'_succ], by omega⟩

/-- **The log of a life.** What is heard of a new tracker, to its end, is a greeting with the
arguments of the first call if there is one, then the announcements of its calls, and a farewell
with the arguments of the latest call, or none. A call in the initial phase is answered with
`initial` and announced by nothing, one in the steady phase is announced by two messages if it
changed something, by one if it changed nothing, and else by none. The numbers in the answers and
those in the messages are both 1, 2, and so on up to the final count. -/
theorem heard_lifetime (name : String) (ops : List Operation) :
    let t : Tracker := { name }
    let cs := t.calls ops
    heard name (t.lifetime ops) =
        (greeting cs ++ cs.flatMap Call.announcement ++ [farewell {} cs]).map
          (fun m ↦ (m.record name).message) ∧
      (∀ c ∈ cs, c.IsInPhase) ∧
      cs.filterMap (·.answer.count?) = List.range' 1 (t.run ops).logged ∧
      (t.lifetime ops).filterMap Message.count? = List.range' 1 (t.run ops).logged := by
  intro t cs
  obtain ⟨htold, k, hcounts, hlogged⟩ := counts_from t ops
  obtain rfl : (t.run ops).logged = k := hlogged.trans (Nat.zero_add k)
  exact ⟨heard_lifetime_from t ops, isInPhase_of_mem_calls t ops, hcounts, htold.trans hcounts⟩

/-- A tracker that is committed before its first call. -/
example : heard "row" (({ name := "row" } : Tracker).lifetime [.commit, .recompose {} []]) =
    ["row enters composition, params: (no arguments)",
      "row recomposed 1 times due to state not reflected in tracked parameters",
      "row exits composition, params: (no arguments)"] := by
  decide

end Tracker

end RenderTrace
