import Mathlib
import RenderTrace.CommandLine.Run

/-!
# The trace of a run

A run that fails leaves no trace: nothing stands on the standard output, and all files are as before
(`run_leaves_no_trace`). A run that succeeds changes one file at most, the one that it was asked to
write (`run_writes`).

The stages at which a run can fail are the constructors of `Request.Fails` and `Fails`: the
arguments, what the request reads and makes of it, and the delivery. A file is written in the last
stage only, and what is said about it comes behind that.
-/

namespace RenderTrace.CommandLine

/-! ### Writing a file -/

namespace Directory

variable {d d' : Directory} {path text : String}

/-- Files that take another content where they lie. -/
theorem lookup_map_content {way v : List String} (c : Content) (fs : List (List String × Content)) :
    (fs.map fun f ↦ if f.1 == way then (way, c) else f).lookup v =
      if v = way then (fs.lookup v).map fun _ ↦ c else fs.lookup v := by
  induction fs with
  | nil => simp
  | cons f fs ih =>
    rw [List.map_cons, List.lookup_cons, List.lookup_cons, ih]
    by_cases hway : f.1 = way <;> by_cases hv : v = f.1
    · simp [hv, hway]
    · simp [hway, hway ▸ hv, beq_eq_false_iff_ne.2 (hway ▸ hv)]
    · simp [hv, hway]
    · simp [hway, beq_eq_false_iff_ne.2 hv]

/-- A text that is written is what the file on its way holds, and the files on other ways are as
before. -/
theorem lookup_of_write? (h : d.write? path text = some d') :
    ∃ way, d.way? path = some way ∧ ∀ v,
      d'.files.lookup v = if v = way then some (.text text) else d.files.lookup v := by
  obtain ⟨way, hway, h⟩ := Option.bind_eq_some_iff.1 h
  refine ⟨way, hway, fun v ↦ ?_⟩
  split at h
  · cases h
  split at h
  · next hfile =>
    obtain rfl := Option.some.inj h
    rw [lookup_map_content]
    split
    · next hv =>
      -- The file is there, so its content is replaced.
      obtain ⟨f, hf, hsame⟩ := List.any_eq_true.1 hfile
      have hfound : (d.files.lookup v).isSome := by
        rw [List.lookup_isSome_iff]
        exact ⟨f, hf, by rw [hv, eq_of_beq hsame, beq_self_eq_true]⟩
      obtain ⟨c, hc⟩ := Option.isSome_iff_exists.1 hfound
      rw [hc, Option.map_some]
    · rfl
  · next hnone =>
    obtain rfl := Option.some.inj h
    rw [List.lookup_append, List.lookup_cons, List.lookup_nil]
    by_cases hv : v = way
    · -- The file is not there, so it is the one behind all others.
      have hmissing : d.files.lookup v = none := by
        rw [List.lookup_eq_none_iff]
        intro f hf
        rw [hv, bne_comm, bne_iff_ne]
        exact fun hsame ↦ hnone (List.any_eq_true.2 ⟨f, hf, beq_iff_eq.2 hsame⟩)
      rw [if_pos hv, hmissing, beq_iff_eq.2 hv, Option.none_or]
    · rw [if_neg hv, beq_eq_false_iff_ne.2 hv, Option.or_none]

end Directory

/-! ### Stages of a run -/

/-- Trouble shows in the exit code. -/
theorem Trouble.code_ne_zero (t : Trouble) : t.code ≠ 0 := by
  unfold Trouble.code
  split <;> decide

/-- Why a request fails: a file that it reads cannot be read, the options or the unit are at fault,
the instrumentation breaks off, or a report has no such format. -/
inductive Request.Fails (r : Request) (read : String → Option String) : Trouble → Prop
  | reading {path : String} (named : path ∈ r.reads) (missing : read path = none) :
    Fails r read (.unreadable path)
  | options {text : Option String} {f : Failure} (broken : readOptions text = .error f) :
    Fails r read (.failure f)
  | unit {source : String} {f : Failure} (given : read r.input = some source)
    (broken : parseUnit source = .error f) : Fails r read (.failure f)
  | breakdown {b : Breakdown} (command : r.command = .instrument) :
    Fails r read (.failure (.breakdown b))
  | format (command : r.command = .analyze) (unknown : r.ownValue?.getD "" ∉ ["json", "text"]) :
    Fails r read (.format (r.ownValue?.getD ""))

/-- Why a run fails. -/
inductive Fails (args : List String) (d : Directory) : Trouble → Prop
  | arguments (wish : Wish.ofArguments args = .refused) : Fails args d .usage
  | request {r : Request} {t : Trouble} (wish : Wish.ofArguments args = .perform r)
    (fails : r.Fails d.read? t) : Fails args d t
  | delivery {r : Request} {p : Product} {path : String}
    (wish : Wish.ofArguments args = .perform r) (product : r.perform d.read? = .ok p)
    (target : p.target = some path) (write : d.write? path p.text = none) :
    Fails args d (.unwritable path)

theorem bind_eq_error {α β ε : Type} {x : Except ε α} {f : α → Except ε β} {e : ε} :
    (x >>= f) = .error e ↔ x = .error e ∨ ∃ a, x = .ok a ∧ f a = .error e := by
  cases x <;> simp [Bind.bind, Except.bind]

theorem mapError_eq_error {α ε ε' : Type} {x : Except ε α} {g : ε → ε'} {e : ε'} :
    x.mapError g = .error e ↔ ∃ e', x = .error e' ∧ g e' = e := by
  cases x <;> simp [Except.mapError]

namespace Request

variable {r : Request} {read : String → Option String} {t : Trouble}

theorem readFile_eq_error {path : String} :
    readFile read path = .error t ↔ read path = none ∧ t = .unreadable path := by
  unfold readFile
  split <;> simp_all [eq_comm]

theorem readFile_eq_ok {path text : String} :
    readFile read path = .ok text ↔ read path = some text := by
  unfold readFile
  split <;> simp_all

/-- The options of a request fail with their file. -/
theorem fails_of_options (h : r.options read = .error t) : r.Fails read t := by
  have hrest (text : Option String)
      (h : (do return r.override (← (readOptions text).mapError .failure)) = Except.error t) :
      r.Fails read t := by
    rcases bind_eq_error.1 h with hread | ⟨_, _, hpure⟩
    · obtain ⟨f, hbroken, rfl⟩ := mapError_eq_error.1 hread
      exact .options hbroken
    · cases hpure
  unfold options at h
  cases hconfig : r.value? "config" with
  | none =>
    rw [hconfig] at h
    exact hrest none h
  | some path =>
    rw [hconfig] at h
    dsimp only at h
    cases hread : readFile read path with
    | error t' =>
      rw [hread] at h
      obtain rfl := Except.error.inj h
      obtain ⟨hmissing, rfl⟩ := readFile_eq_error.1 hread
      exact .reading (by simp [reads, hconfig]) hmissing
    | ok text =>
      rw [hread] at h
      exact hrest (some text) h

theorem reportText_eq_error {format : String} {report : Report} :
    reportText format report = .error t ↔ format ∉ ["json", "text"] ∧ t = .format format := by
  unfold reportText
  by_cases hjson : format = "json"
  · simp [hjson]
  by_cases htext : format = "text"
  · simp [htext]
  rw [if_neg (by simpa using hjson), if_neg (by simpa using htext), Except.error.injEq, eq_comm]
  simp [hjson, htext]

/-- An instrumentation fails with its unit or breaks off. -/
theorem fails_of_instrumentSource {layout : Syntax.SourceUnit → Option String} {o : Options}
    {name source : String} {f : Failure} (hcommand : r.command = .instrument)
    (hgiven : read r.input = some source)
    (h : (instrumentSource layout o name source).result = .error f) : r.Fails read (.failure f) := by
  unfold instrumentSource at h
  split at h
  · cases h
  split at h
  · next e hparse =>
    obtain rfl := Except.error.inj h
    exact .unit hgiven hparse
  split at h
  · obtain rfl := Except.error.inj h
    exact .breakdown hcommand
  dsimp only at h
  split at h
  · cases h
  split at h
  · obtain rfl := Except.error.inj h
    exact .breakdown hcommand
  · cases h

/-- A request that fails does so at one of its stages. -/
theorem fails_of_perform (h : r.perform read = .error t) : r.Fails read t := by
  unfold perform at h
  rcases bind_eq_error.1 h with hoptions | ⟨o, -, h⟩
  · exact fails_of_options hoptions
  rcases bind_eq_error.1 h with hread | ⟨source, hread, h⟩
  · obtain ⟨hmissing, rfl⟩ := readFile_eq_error.1 hread
    exact .reading (by simp [reads]) hmissing
  have hgiven := readFile_eq_ok.1 hread
  cases hcommand : r.command with
  | instrument =>
    rw [hcommand] at h
    rcases bind_eq_error.1 h with hrun | ⟨_, _, hpure⟩
    · obtain ⟨f, hfailed, rfl⟩ := mapError_eq_error.1 hrun
      exact fails_of_instrumentSource hcommand hgiven hfailed
    · cases hpure
  | analyze =>
    rw [hcommand] at h
    rcases bind_eq_error.1 h with hrun | ⟨report, -, h⟩
    · obtain ⟨f, hfailed, rfl⟩ := mapError_eq_error.1 hrun
      rcases bind_eq_error.1 hfailed with hparse | ⟨_, _, hpure⟩
      · exact .unit hgiven hparse
      · cases hpure
    · rcases bind_eq_error.1 h with hformat | ⟨_, _, hpure⟩
      · obtain ⟨hunknown, rfl⟩ := reportText_eq_error.1 hformat
        exact .format hcommand hunknown
      · cases hpure
  | graph =>
    rw [hcommand] at h
    rcases bind_eq_error.1 h with hrun | ⟨_, _, hpure⟩
    · obtain ⟨f, hfailed, rfl⟩ := mapError_eq_error.1 hrun
      rcases bind_eq_error.1 hfailed with hparse | ⟨_, _, hpure⟩
      · exact .unit hgiven hparse
      · cases hpure
    · cases hpure

end Request

/-! ### What a run leaves -/

variable {args : List String} {d : Directory}

/-- A delivery fails if a file cannot be written; else it writes the file that was asked for, or
none. -/
theorem deliver_cases (d : Directory) (p : Product) :
    (∃ path, p.target = some path ∧ d.write? path p.text = none ∧
      Outcome.deliver d p = .failed d (.unwritable path)) ∨
    (Outcome.deliver d p).code = 0 ∧ ((Outcome.deliver d p).directory = d ∨ ∃ path,
      p.target = some path ∧ d.write? path p.text = some (Outcome.deliver d p).directory) := by
  unfold Outcome.deliver
  cases htarget : p.target with
  | none => exact Or.inr ⟨rfl, Or.inl rfl⟩
  | some path =>
    dsimp only
    cases hwrite : d.write? path p.text with
    | none => exact Or.inl ⟨path, rfl, hwrite, rfl⟩
    | some d' => exact Or.inr ⟨rfl, Or.inr ⟨path, rfl, hwrite⟩⟩

/-- A run that fails in a stage ends with that trouble; any other run ends well, and has written the
file that it was asked to write, or none. -/
theorem run_cases (args : List String) (d : Directory) :
    (∃ t, Fails args d t ∧ run args d = .failed d t) ∨
      (run args d).code = 0 ∧ ((run args d).directory = d ∨
        ∃ r p path, Wish.ofArguments args = .perform r ∧ r.perform d.read? = .ok p ∧
          p.target = some path ∧ d.write? path p.text = some (run args d).directory) := by
  unfold run
  cases hwish : Wish.ofArguments args with
  | explain text => exact Or.inr ⟨rfl, Or.inl rfl⟩
  | refused => exact Or.inl ⟨_, .arguments hwish, rfl⟩
  | perform r =>
    dsimp only
    cases hperform : r.perform d.read? with
    | error t => exact Or.inl ⟨t, .request hwish (Request.fails_of_perform hperform), rfl⟩
    | ok p =>
      rcases deliver_cases d p with ⟨path, htarget, hwrite, hfailed⟩ | ⟨hcode, hsame | hwritten⟩
      · exact Or.inl ⟨_, .delivery hwish hperform htarget hwrite, hfailed⟩
      · exact Or.inr ⟨hcode, Or.inl hsame⟩
      · obtain ⟨path, htarget, hwrite⟩ := hwritten
        exact Or.inr ⟨hcode, Or.inr ⟨r, p, path, rfl, hperform, htarget, hwrite⟩⟩

/-- **A run that fails leaves no trace**: it failed at a stage, nothing stands on the standard
output, and the directory is as it was. -/
theorem run_leaves_no_trace (h : (run args d).code ≠ 0) :
    (run args d).output = "" ∧ (run args d).directory = d ∧
      ∃ t, Fails args d t ∧ (run args d).code = t.code := by
  rcases run_cases args d with ⟨t, hfails, hrun⟩ | ⟨hcode, -⟩
  · rw [hrun]
    exact ⟨rfl, rfl, t, hfails, rfl⟩
  · exact absurd hcode h

/-- A directory with one file. -/
def oneFile : Directory := ⟨[(["a"], .text "fn f() {}")]⟩

/-- The graph of the file is made, but where it is to go there is no directory. -/
theorem run_leaves_no_trace_oneFile :
    (run ["graph", "a", "--dot", "b/c"] oneFile).code = 1 ∧
      (run ["graph", "a", "--dot", "b/c"] oneFile).output = "" ∧
      (run ["graph", "a", "--dot", "b/c"] oneFile).directory = oneFile := by
  have hread : oneFile.read? "a" = some "fn f() {}" := by
    have hway : oneFile.way? "a" = some ["a"] := by
      have hparts : "a".splitOn "/" = ["a"] := by cbv
      rw [Directory.way?, hparts]
      decide +kernel
    rw [Directory.read?, hway]
    rfl
  have hwrite (text : String) : oneFile.write? "b/c" text = none := by
    have hway : oneFile.way? "b/c" = none := by
      have hparts : "b/c".splitOn "/" = ["b", "c"] := by cbv
      rw [Directory.way?, hparts]
      decide +kernel
    rw [Directory.write?, hway]
    rfl
  have hwish : Wish.ofArguments ["graph", "a", "--dot", "b/c"] =
      .perform ⟨.graph, "a", [("dot", "b/c")]⟩ := by decide +kernel
  have hperform : Request.perform ⟨.graph, "a", [("dot", "b/c")]⟩ oneFile.read? =
      Request.perform ⟨.graph, "a", [("dot", "b/c")]⟩ fun _ ↦ some "fn f() {}" := by
    unfold Request.perform Request.readFile
    dsimp only
    rw [hread]
    rfl
  have hproduct : (Request.perform ⟨.graph, "a", [("dot", "b/c")]⟩
      fun _ ↦ some "fn f() {}").toOption.map (·.target) = some (some "b/c") := by decide +kernel
  have hcode : (run ["graph", "a", "--dot", "b/c"] oneFile).code = 1 := by
    rw [run, hwish]
    dsimp only
    rw [hperform]
    cases hp : Request.perform ⟨.graph, "a", [("dot", "b/c")]⟩ fun _ ↦ some "fn f() {}" with
    | error t => rw [hp] at hproduct; cases hproduct
    | ok p =>
      rw [hp] at hproduct
      have htarget : p.target = some "b/c" := Option.some.inj hproduct
      dsimp only [Outcome.deliver]
      rw [htarget]
      dsimp only
      rw [hwrite]
      rfl
  obtain ⟨houtput, hdirectory, -⟩ := run_leaves_no_trace (by rw [hcode]; decide)
  exact ⟨hcode, houtput, hdirectory⟩

/-- A run that succeeds changes no file but the one that it was asked to write. -/
theorem run_writes (h : (run args d).code = 0) :
    (run args d).directory = d ∨
      ∃ r p path way, Wish.ofArguments args = .perform r ∧ r.perform d.read? = .ok p ∧
        p.target = some path ∧ d.way? path = some way ∧
        ∀ v, (run args d).directory.files.lookup v =
          if v = way then some (.text p.text) else d.files.lookup v := by
  rcases run_cases args d with ⟨t, -, hrun⟩ | ⟨-, hsame | ⟨r, p, path, hwish, hp, htarget, hwrite⟩⟩
  · rw [hrun] at h
    exact absurd h t.code_ne_zero
  · exact Or.inl hsame
  · obtain ⟨way, hway, hlookup⟩ := Directory.lookup_of_write? hwrite
    exact Or.inr ⟨r, p, path, way, hwish, hp, htarget, hway, hlookup⟩

end RenderTrace.CommandLine
