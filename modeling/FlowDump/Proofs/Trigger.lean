import FlowDump.Proofs.Files.AtomicWrite
import FlowDump.Proofs.Recording
import FlowDump.Trigger

/-!
# The apply command finds the descriptor of its own job

Sessions are handed over one after the other, whatever comes of each of them.  The runs of the
apply command are kept with the files that they found, and each of them found the whole descriptor
of the session that it was run for.

* `Run`, `Host.watching` — a run of a program with the files that it found, and the host that keeps
  the runs; `Host.KeepsRuns` is what it has in common with the host that keeps the calls.
* `Trigger.Job`, `Trigger.Job.Proper` — one call, and what holds of it.
* `Trigger.exists_job` — every call is a proper one.
* `Trigger.trigger_keeps` — handing a session over on a host that keeps something; `Trigger.calls`
  are the calls that it makes.
* `Trigger.triggerAll` — calls one after the other, and `Trigger.triggerAll_jobs` says that all of
  them are proper.
-/

namespace FlowDump

variable {ε α κ : Type}

/-! ### Keeping the runs -/

/-- A run of a program: what was asked for, the files that it found, and what it answered. -/
structure Run where
  program : String
  arguments : List String
  files : Filesystem
  answer : Except IoFailure CommandOutcome

namespace Run

/-- A step of the outside, which runs no program. -/
def aside (step : StateM ε α) : StateM (ε × List Run) α := fun kept =>
  let (a, outside) := step kept.1
  (a, outside, kept.2)

/-- A step of the machine after which `kept` are the latest runs. -/
def noting (kept : Filesystem → α → List Run) (step : StateM (Machine ε) α) :
    StateM (Machine (ε × List Run)) α := fun m =>
  let (a, machine) := step { files := m.files, outside := m.outside.1 }
  (a, { files := machine.files, outside := (machine.outside, m.outside.2 ++ kept m.files a) })

end Run

/-- The host that keeps each `Run` of a program. -/
def Host.watching (host : Host ε) : Host (ε × List Run) where
  now := Run.aside host.now
  interrupted := Run.aside host.interrupted
  identity := Run.aside host.identity
  run program arguments :=
    Run.noting (fun files answer => [{ program, arguments, files, answer }])
      (host.run program arguments)
  nextEvent maxWait := Run.noting (fun _ _ => []) (host.nextEvent maxWait)
  readState session := Run.noting (fun _ _ => []) (host.readState session)

/-- A world beside the runs that were kept so far. -/
def World.beside (w : World ε) (runs : List Run) : World (ε × List Run) :=
  { files := w.files, outside := (w.outside, runs), log := w.log }

/-- The `Run` of a program in a world. -/
def Run.inWorld (host : Host ε) (program : String) (arguments : List String) (w : World ε) : Run :=
  { program, arguments, files := w.files, answer := (host.run program arguments w.toMachine).1 }

/-- What a host keeps of the runs of programs: `note` says what, and it may be the files that they
    found. -/
abbrev Host.KeepsRuns (host : Host ε) (beside : Host (ε × List κ)) (note : Run → List κ) : Prop :=
  ∀ (program : String) (arguments : List String) (w : World ε) (kept : List κ),
    (w.along kept).machineStep (beside.run program arguments) =
      ((w.machineStep (host.run program arguments)).1,
        (w.machineStep (host.run program arguments)).2.along
          (kept ++ note (.inWorld host program arguments w)))

/-- The `Call` that a run is. -/
def Run.call (r : Run) : Call := .run r.program r.arguments r.answer

/-- `Host.watching` keeps nothing but the runs. -/
theorem Host.watching_keeps (host : Host ε) : host.Keeps host.watching fun _ => [] where
  now w kept := by rw [List.append_nil]; rfl
  interrupted w kept := by rw [List.append_nil]; rfl
  identity w kept := by rw [List.append_nil]; rfl
  nextEvent _ _ _ := rfl
  readState _ _ _ := rfl

theorem Host.watching_keepsRuns (host : Host ε) :
    host.KeepsRuns host.watching fun r => [r] :=
  fun _ _ _ _ => rfl

theorem Host.recording_keepsRuns (host : Host ε) :
    host.KeepsRuns host.recording fun r => [r.call] :=
  fun _ _ _ _ => rfl

namespace Trigger

/-! ### One call -/

/-- One call: the session that was handed over, the files before and after, the run of the apply
    command if there was one, what was told and what was answered. -/
structure Job where
  descriptor : Descriptor
  before : Filesystem
  run? : Option Run
  after : Filesystem
  events : List Log.Event
  result : Except Failure Unit

/-- The failures with which nothing was run. -/
inductive Unstarted : Failure → Prop where
  | createDirectory (path message : String) : Unstarted (.createDirectory path message)
  | writeFile (path message : String) : Unstarted (.writeFile path message)
  | config (message : String) : Unstarted (.config message)

/-- How an operation ends after some time: the `Log.Phase` of what came of it. -/
def lastPhase (millis : Nat) : Except Failure Unit → Log.Phase
  | .ok () => .finish millis
  | .error e => .fail millis e

/-- What `AtomicWrite.run` comes to with the descriptor of a job. -/
def Job.written (t : Trigger) (j : Job) : Except Failure Unit × Filesystem :=
  AtomicWrite.run j.before t.requestPath (j.descriptor.bytes t.requestTable)

/-- What holds of every call, as a `Job`. -/
structure Job.Proper (t : Trigger) (j : Job) : Prop where
  /-- The apply command is run if the descriptor was written and a program is named. -/
  ran_iff : j.run?.isSome = true ↔ (j.written t).1 = .ok () ∧ t.applyCommand ≠ []
  /-- It finds the descriptor of this job. -/
  found : ∀ r ∈ j.run?, r.files = (j.written t).2 ∧
    r.files.readFile t.requestPath = .ok (j.descriptor.bytes t.requestTable)
  /-- It is the program with its first arguments and the path of the descriptor. -/
  asked : ∀ r ∈ j.run?, ∃ leading, t.applyCommand = r.program :: leading ∧
    r.arguments = leading ++ [t.requestPath]
  /-- The call succeeds if the command ran and reported success. -/
  ok_iff : j.result = .ok () ↔
    ∃ r ∈ j.run?, ∃ outcome, r.answer = .ok outcome ∧ outcome.success = true
  /-- It tells that the command could not be run if that was the answer. -/
  spawn_iff : ∀ program message, j.result = .error (.commandSpawn program message) ↔
    ∃ r ∈ j.run?, ∃ e, r.answer = .error e ∧ r.program = program ∧ e.message = message
  /-- It tells that the command failed if it ran and reported failure. -/
  failed_iff : ∀ program status, j.result = .error (.commandFailed program status) ↔
    ∃ r ∈ j.run?, ∃ outcome, r.answer = .ok outcome ∧ outcome.success = false ∧
      r.program = program ∧ outcome.status = status
  /-- It fails in another way if nothing was run. -/
  unstarted_iff : (∃ e, j.result = .error e ∧ Unstarted e) ↔ j.run? = none
  /-- It tells of one start of `trigger_session`, of remarks, and of one end that says what came of
      it; start and end name the session. -/
  told : ∃ (notes : List Log.Note) (millis : Nat) (last : Log.Phase),
    j.events =
      .operation
        { component := .trigger, name := "trigger_session", phase := .start,
          fields := [("session", .text j.descriptor.session.text)] } ::
      (notes.map .note ++
        [.operation
          { component := .trigger, name := "trigger_session", phase := last,
            fields := [("session", .text j.descriptor.session.text)] }]) ∧
    (j.result = .ok () → last = .finish millis) ∧
    ∀ e, j.result = .error e → last = .fail millis e

/-- Only the failures of `Unstarted` come from writing a document. -/
theorem unstarted_of_run {fs fs' : Filesystem} {target : String} {content : List UInt8}
    {e : Failure} (h : AtomicWrite.run fs target content = (.error e, fs')) : Unstarted e := by
  rcases AtomicWrite.run_error h with ⟨directory, message, rfl⟩ | ⟨message, rfl⟩
  · exact .createDirectory ..
  · exact .writeFile ..

/-- The `Run` of the apply command, if it comes to that. -/
def run? (t : Trigger) (host : Host ε) (d : Descriptor) (w : World ε) : Option Run :=
  match AtomicWrite.run w.files t.requestPath (d.bytes t.requestTable) with
  | (.error _, _) => none
  | (.ok (), files) =>
    match t.applyCommand with
    | [] => none
    | program :: leading =>
      some
        { program, arguments := leading ++ [t.requestPath], files,
          answer := (host.run program (leading ++ [t.requestPath])
            { files, outside := w.outside }).1 }

/-- What the answer to a `Run` makes of a call. -/
def verdict (r : Run) : Except Failure Unit :=
  match r.answer with
  | .error e => .error (.commandSpawn r.program e.message)
  | .ok outcome =>
    if outcome.success then .ok () else .error (.commandFailed r.program outcome.status)

section

variable {t : Trigger} {host : Host ε} {d : Descriptor} {w : World ε}

/-- A run of the apply command finds the files that `AtomicWrite.run` has left, and has the request
    path as its last argument. -/
theorem run?_eq_some {r : Run} (h : t.run? host d w = some r) :
    AtomicWrite.run w.files t.requestPath (d.bytes t.requestTable) = (.ok (), r.files) ∧
      ∃ leading, t.applyCommand = r.program :: leading ∧
        r.arguments = leading ++ [t.requestPath] := by
  unfold run? at h
  split at h
  · cases h
  · rename_i files hw
    split at h
    · cases h
    · rename_i program leading hc
      cases h
      exact ⟨hw, leading, hc, rfl⟩

/-- There is a `Trigger.run?` of the apply command exactly if the document was written and a program
    is named. -/
theorem isSome_run?_iff : (t.run? host d w).isSome = true ↔
    (AtomicWrite.run w.files t.requestPath (d.bytes t.requestTable)).1 = .ok () ∧
      t.applyCommand ≠ [] := by
  unfold run?
  split
  · rename_i hw
    simp [hw]
  · rename_i files hw
    split
    · rename_i hc
      simp [hc]
    · rename_i program leading hc
      simp [hw, hc]

/-- `Trigger.judge` goes by the outcome, and tells nothing but remarks. -/
theorem judge_spec (program : String) (outcome : CommandOutcome) (w : World ε) :
    (judge program outcome w).1
      = (if outcome.success then .ok () else .error (.commandFailed program outcome.status)) ∧
    ∃ notes : List Log.Note, (judge program outcome w).2.log = w.log ++ notes.map .note := by
  unfold judge
  split
  · exact ⟨rfl, [], by simp⟩
  · split
    · exact ⟨rfl, [], by simp⟩
    · exact ⟨rfl, _, rfl⟩

/-- The `verdict` on the run decides what comes of the command, and only remarks are told. -/
theorem runCommand_spec (host : Host ε) {program : String} {leading : List String}
    (hc : t.applyCommand = program :: leading) (w : World ε) :
    (t.runCommand host w).1 = verdict (.inWorld host program (leading ++ [t.requestPath]) w) ∧
    ∃ notes : List Log.Note, (t.runCommand host w).2.log = w.log ++ notes.map .note := by
  obtain ⟨answer, machine, hans⟩ : ∃ answer machine,
      host.run program (leading ++ [t.requestPath]) w.toMachine = (answer, machine) := ⟨_, _, rfl⟩
  simp only [runCommand, hc, World.machineStep, hans, Run.inWorld, verdict]
  cases answer with
  | error e => exact ⟨rfl, [], by simp⟩
  | ok outcome => exact judge_spec program outcome { w with toMachine := machine }

/-- The `verdict` on the run decides `Trigger.apply`, and without a run it fails; in between only
    remarks are told. -/
theorem apply_spec (t : Trigger) (host : Host ε) (d : Descriptor) (w : World ε) :
    (∀ r ∈ t.run? host d w, (t.apply host d w).1 = verdict r) ∧
    (t.run? host d w = none → ∃ e, (t.apply host d w).1 = .error e ∧ Unstarted e) ∧
    ∃ notes : List Log.Note, (t.apply host d w).2.log = w.log ++ notes.map .note := by
  obtain ⟨written, files, hw⟩ : ∃ written files,
      AtomicWrite.run w.files t.requestPath (d.bytes t.requestTable) = (written, files) :=
    ⟨_, _, rfl⟩
  cases written with
  | error e =>
    simp only [apply, hw, run?]
    exact ⟨nofun, fun _ => ⟨e, rfl, unstarted_of_run hw⟩, [], by simp⟩
  | ok _ =>
    cases hc : t.applyCommand with
    | nil =>
      simp only [apply, hw, runCommand, hc, run?]
      exact ⟨nofun, fun _ => ⟨_, rfl, .config _⟩, _, rfl⟩
    | cons program leading =>
      -- what was remarked and what was written stands in the world in which the command runs
      let note : Log.Note :=
        { level := .debug, component := .trigger, message := "request descriptor written",
          fields := [("path", .text t.requestPath)] }
      obtain ⟨decided, notes, told⟩ :=
        runCommand_spec host hc (World.remark { w with files } [note])
      simp only [apply, hw, run?, hc]
      refine ⟨fun r hr => ?_, nofun, note :: notes, ?_⟩
      · cases hr
        exact decided
      · rw [told, World.remark]
        simp

/-- The `verdict` on a run never is that no program is named. -/
theorem verdict_ne_config (r : Run) (message : String) : verdict r ≠ .error (.config message) := by
  unfold verdict
  split
  · simp
  · split <;> simp

/-- Where a program is named, `Trigger.apply` never tells that there is none. -/
theorem apply_ne_config (named : t.applyCommand ≠ []) (message : String) :
    (t.apply host d w).1 ≠ .error (.config message) := by
  obtain ⟨program, leading, hc⟩ := List.exists_cons_of_ne_nil named
  obtain ⟨written, files, hw⟩ : ∃ written files,
      AtomicWrite.run w.files t.requestPath (d.bytes t.requestTable) = (written, files) :=
    ⟨_, _, rfl⟩
  cases written with
  | error e =>
    simp only [apply, hw]
    rcases AtomicWrite.run_error hw with ⟨directory, message', rfl⟩ | ⟨message', rfl⟩ <;> simp
  | ok _ =>
    simp only [apply, hw, (runCommand_spec host hc _).1]
    exact verdict_ne_config _ message

end

/-! ### A call on a host that keeps something -/

section Keeps

variable {host : Host ε} {beside : Host (ε × List κ)} {note : Call → List κ}
  {noteRun : Run → List κ}

theorem judge_along (program : String) (outcome : CommandOutcome) (w : World ε)
    (kept : List κ) :
    judge program outcome (w.along kept) =
      ((judge program outcome w).1, (judge program outcome w).2.along kept) := by
  unfold judge
  split
  · rfl
  · split <;> rfl

/-- `Trigger.runCommand` keeps the run of the command. -/
theorem runCommand_keeps (runs : host.KeepsRuns beside noteRun) {t : Trigger} {program : String}
    {leading : List String} (hc : t.applyCommand = program :: leading) (w : World ε)
    (kept : List κ) :
    t.runCommand beside (w.along kept) =
      ((t.runCommand host w).1, (t.runCommand host w).2.along
        (kept ++ noteRun (.inWorld host program (leading ++ [t.requestPath]) w))) := by
  rcases hstep : w.machineStep (host.run program (leading ++ [t.requestPath])) with ⟨answer, w'⟩
  simp only [runCommand, hc, runs program, hstep]
  cases answer with
  | error e => rfl
  | ok outcome => exact judge_along program outcome w' _

/-- `Trigger.apply` keeps the run of the apply command, if it comes to that. -/
theorem apply_keeps (runs : host.KeepsRuns beside noteRun) (t : Trigger) (d : Descriptor)
    (w : World ε) (kept : List κ) :
    t.apply beside d (w.along kept) =
      ((t.apply host d w).1, (t.apply host d w).2.along
        (kept ++ (t.run? host d w).toList.flatMap noteRun)) := by
  -- nothing is run unless the document was written and a command is named
  obtain ⟨written, files, hw⟩ : ∃ written files,
      AtomicWrite.run w.files t.requestPath (d.bytes t.requestTable) = (written, files) :=
    ⟨_, _, rfl⟩
  cases written with
  | error e =>
    simp only [apply, World.along_files, hw, run?, Option.toList_none, List.flatMap_nil,
      List.append_nil]
    rfl
  | ok _ =>
    cases hc : t.applyCommand with
    | nil =>
      simp only [apply, World.along_files, hw, runCommand, hc, run?, Option.toList_none,
        List.flatMap_nil, List.append_nil]
      rfl
    | cons program leading =>
      simp only [apply, World.along_files, hw, run?, hc, Option.toList_some, List.flatMap_singleton]
      exact runCommand_keeps runs hc (World.remark { w with files } _) kept

end Keeps

/-! ### What a call answers -/

/-- A call answers the `verdict` on its run, and without a run a failure of its own. -/
structure Decided (run? : Option Run) (result : Except Failure Unit) : Prop where
  of_run : ∀ r ∈ run?, result = verdict r
  of_none : run? = none → ∃ e, result = .error e ∧ Unstarted e

namespace Decided

variable {run? : Option Run} {result : Except Failure Unit}

/-- A `Decided` call succeeds exactly if its program was run and succeeded. -/
theorem ok_iff (h : Decided run? result) : result = .ok () ↔
    ∃ r ∈ run?, ∃ outcome, r.answer = .ok outcome ∧ outcome.success = true := by
  cases run? with
  | none =>
    obtain ⟨e, rfl, -⟩ := h.of_none rfl
    simp
  | some r =>
    rw [h.of_run r rfl, verdict]
    cases ha : r.answer with
    | error e => simp [ha]
    | ok outcome => cases hs : outcome.success <;> simp [ha, hs]

/-- A `Decided` call fails to start its program exactly if it was run and the answer was an error,
    which the failure tells. -/
theorem spawn_iff (h : Decided run? result) (program message : String) :
    result = .error (.commandSpawn program message) ↔
      ∃ r ∈ run?, ∃ e, r.answer = .error e ∧ r.program = program ∧ e.message = message := by
  cases run? with
  | none =>
    obtain ⟨e, rfl, unstarted⟩ := h.of_none rfl
    cases unstarted <;> simp
  | some r =>
    rw [h.of_run r rfl, verdict]
    cases ha : r.answer with
    | error e => simp [ha]
    | ok outcome => cases hs : outcome.success <;> simp [ha, hs]

/-- A `Decided` call fails by its program exactly if it was run and did not succeed, and the failure
    tells its status. -/
theorem failed_iff (h : Decided run? result) (program status : String) :
    result = .error (.commandFailed program status) ↔
      ∃ r ∈ run?, ∃ outcome, r.answer = .ok outcome ∧ outcome.success = false ∧
        r.program = program ∧ outcome.status = status := by
  cases run? with
  | none =>
    obtain ⟨e, rfl, unstarted⟩ := h.of_none rfl
    cases unstarted <;> simp
  | some r =>
    rw [h.of_run r rfl, verdict]
    cases ha : r.answer with
    | error e => simp [ha]
    | ok outcome => cases hs : outcome.success <;> simp [ha, hs]

/-- A call has an `Unstarted` failure exactly if nothing was run. -/
theorem unstarted_iff (h : Decided run? result) :
    (∃ e, result = .error e ∧ Unstarted e) ↔ run? = none := by
  refine ⟨fun ⟨e, he, unstarted⟩ => ?_, h.of_none⟩
  cases hr : run? with
  | none => rfl
  | some r =>
    -- no verdict on a run is one of these failures
    rw [h.of_run r hr, verdict] at he
    split at he
    · cases he
      cases unstarted
    · split at he
      · cases he
      · cases he
        cases unstarted

end Decided

/-- The end of an operation says what came of it: `lastPhase` by the result. -/
theorem lastPhase_spec (millis : Nat) (result : Except Failure Unit) :
    (result = .ok () → lastPhase millis result = .finish millis) ∧
      ∀ e, result = .error e → lastPhase millis result = .fail millis e := by
  constructor
  · rintro rfl
    rfl
  · rintro e rfl
    rfl

/-- A call is a `Job.Proper` one if its run is the one in a world with its files, and this run
    decides it. -/
theorem Job.Proper.of_decided {t : Trigger} {j : Job} (host : Host ε) (w : World ε)
    (hrun : j.run? = t.run? host j.descriptor w) (hfiles : w.files = j.before)
    (decided : Decided j.run? j.result)
    (told : ∃ (notes : List Log.Note) (millis : Nat), j.events =
      operation j.descriptor.session .start :: (notes.map .note ++
        [operation j.descriptor.session (lastPhase millis j.result)])) : j.Proper t where
  ran_iff := by
    rw [hrun, isSome_run?_iff, Job.written, hfiles]
  found := by
    intro r hr
    obtain ⟨written, -⟩ := run?_eq_some (hrun ▸ hr)
    rw [hfiles] at written
    rw [Job.written, written]
    exact ⟨rfl, AtomicWrite.readFile_of_run written⟩
  asked := fun r hr => (run?_eq_some (hrun ▸ hr)).2
  ok_iff := decided.ok_iff
  spawn_iff := decided.spawn_iff
  failed_iff := decided.failed_iff
  unstarted_iff := decided.unstarted_iff
  told := by
    obtain ⟨notes, millis, events_eq⟩ := told
    exact ⟨notes, millis, lastPhase millis j.result, events_eq, lastPhase_spec millis j.result⟩

/-- The world in which the start of a call has been told. -/
def started (host : Host ε) (d : Descriptor) (w : World ε) : World ε :=
  (w.outsideStep host.now).2.tell (operation d.session .start)

/-- The end of a call that started in a world: how long it took is told with what came of it, by
    `lastPhase`. -/
def ended (host : Host ε) (d : Descriptor) (w : World ε)
    (applied : Except Failure Unit × World ε) : Except Failure Unit × World ε :=
  let (stop, last) := applied.2.outsideStep host.now
  let millis := (stop.since (w.outsideStep host.now).1).toMillis
  (applied.1, last.tell (operation d.session (lastPhase millis applied.1)))

/-- `Trigger.trigger` is `Trigger.apply` between the start that is told and the end. -/
theorem trigger_eq (t : Trigger) (host : Host ε) (d : Descriptor) (w : World ε) :
    t.trigger host d w = ended host d w (t.apply host d (started host d w)) := by
  obtain ⟨start, begun, hs⟩ : ∃ start begun, w.outsideStep host.now = (start, begun) :=
    ⟨_, _, rfl⟩
  obtain ⟨result, last, ha⟩ : ∃ result last,
      t.apply host d (begun.tell (operation d.session .start)) = (result, last) := ⟨_, _, rfl⟩
  simp only [trigger, ended, started, hs, ha]
  cases result <;> rfl

/-- The calls that the outside is asked while a session is handed over. -/
def calls (t : Trigger) (host : Host ε) (d : Descriptor) (w : World ε) : List Call :=
  .now (w.outsideStep host.now).1 :: ((t.run? host d (started host d w)).toList.map Run.call ++
    [.now ((t.apply host d (started host d w)).2.outsideStep host.now).1])

/-- `Trigger.trigger` beside what is kept goes as it goes on the host.  The clock is read before and
    after the run of the apply command. -/
theorem trigger_keeps {host : Host ε} {beside : Host (ε × List κ)} {note : Call → List κ}
    {noteRun : Run → List κ} (keeps : host.Keeps beside note)
    (runs : host.KeepsRuns beside noteRun) (t : Trigger) (d : Descriptor) (w : World ε)
    (kept : List κ) :
    t.trigger beside d (w.along kept) =
      ((t.trigger host d w).1, (t.trigger host d w).2.along
        (kept ++ (note (.now (w.outsideStep host.now).1) ++
          (t.run? host d (started host d w)).toList.flatMap noteRun ++
          note (.now ((t.apply host d (started host d w)).2.outsideStep host.now).1)))) := by
  have start : started beside d (w.along kept) =
      (started host d w).along (kept ++ note (.now (w.outsideStep host.now).1)) := by
    rw [started, keeps.now]
    rfl
  rw [trigger_eq, trigger_eq, start, apply_keeps runs]
  simp only [ended, keeps.now, World.along_tell, List.append_assoc]

/-- On the host `Host.watching` the run is kept. -/
theorem trigger_watching (t : Trigger) (host : Host ε) (d : Descriptor) (w : World ε)
    (runs : List Run) :
    t.trigger host.watching d (w.beside runs) =
      ((t.trigger host d w).1, (t.trigger host d w).2.beside
        (runs ++ (t.run? host d (started host d w)).toList)) := by
  have h := trigger_keeps host.watching_keeps host.watching_keepsRuns t d w runs
  simp only [List.flatMap_singleton', List.nil_append, List.append_nil] at h
  exact h

/-- On the host `Host.recording` all `Trigger.calls` are kept. -/
theorem trigger_recording (t : Trigger) (host : Host ε) (d : Descriptor) (w : World ε)
    (kept : List Call) :
    t.trigger host.recording d (w.keeping kept) =
      ((t.trigger host d w).1, (t.trigger host d w).2.keeping (kept ++ t.calls host d w)) := by
  have h := trigger_keeps host.recording_keeps host.recording_keepsRuns t d w kept
  rw [← List.map_eq_flatMap] at h
  exact h

/-- The end of a call is told by `lastPhase` behind everything else. -/
theorem ended_spec (host : Host ε) (d : Descriptor) (w : World ε)
    (applied : Except Failure Unit × World ε) :
    (ended host d w applied).1 = applied.1 ∧ (ended host d w applied).2.files = applied.2.files ∧
      ∃ millis, (ended host d w applied).2.log
        = applied.2.log ++ [operation d.session (lastPhase millis applied.1)] :=
  ⟨rfl, rfl, _, rfl⟩

/-- Every call is a `Job.Proper` one.  The watching host does the same and keeps its run. -/
theorem exists_job (t : Trigger) (host : Host ε) (d : Descriptor) (w : World ε) :
    ∃ j : Job, j.Proper t ∧ j.descriptor = d ∧ j.before = w.files ∧
      j.after = (t.trigger host d w).2.files ∧ j.result = (t.trigger host d w).1 ∧
      (t.trigger host d w).2.log = w.log ++ j.events ∧
      ∀ runs, t.trigger host.watching d (w.beside runs) =
        ((t.trigger host d w).1, (t.trigger host d w).2.beside (runs ++ j.run?.toList)) := by
  obtain ⟨of_run, of_none, notes, told⟩ := apply_spec t host d (started host d w)
  simp only [trigger_watching]
  simp only [trigger_eq]
  -- from here on only what is known of the answer and of the run counts, not how they came about
  generalize t.apply host d (started host d w) = applied at of_run of_none told
  generalize hrun : t.run? host d (started host d w) = ran at of_run of_none
  obtain ⟨result_eq, files_eq, millis, log_eq⟩ := ended_spec host d w applied
  have decided : Decided ran applied.1 := ⟨of_run, of_none⟩
  let events := operation d.session .start :: (notes.map .note ++
    [operation d.session (lastPhase millis applied.1)])
  refine ⟨⟨d, w.files, ran, applied.2.files, events, applied.1⟩,
    .of_decided host _ hrun.symm rfl decided ⟨notes, millis, rfl⟩, rfl, rfl, files_eq.symm,
    result_eq.symm, ?_, fun _ => rfl⟩
  rw [log_eq, told, show (started host d w).log = w.log ++ [operation d.session .start] from rfl]
  simp [events]

/-! ### Calls one after the other -/

/-- Hand over one session after the other by `Trigger.trigger`, whatever comes of each of them. -/
def triggerAll (t : Trigger) (host : Host ε) :
    List Descriptor → World ε → List (Except Failure Unit) × World ε
  | [], w => ([], w)
  | d :: rest, w =>
    let (result, w) := t.trigger host d w
    let (results, w) := triggerAll t host rest w
    (result :: results, w)

/-- Calls that are `Job.Proper`, each of which starts with the files that the one before has left.
    -/
inductive Jobs (t : Trigger) : Filesystem → List Job → Filesystem → Prop where
  | done (files : Filesystem) : Jobs t files [] files
  | next {j : Job} {rest : List Job} {last : Filesystem} (proper : j.Proper t)
      (later : Jobs t j.after rest last) : Jobs t j.before (j :: rest) last

/-- **The apply command is only run on the descriptor of its own job.**  Whatever the files are at
    the start, and whatever the command does to them and answers, the calls are `Job.Proper` ones,
    in the order of the sessions and each with the files that the one before has left.  What they
    answer and tell is what was answered and told, and the runs that the watching host keeps are
    theirs and no others. -/
theorem triggerAll_jobs (t : Trigger) (host : Host ε) (ds : List Descriptor) (w : World ε)
    (runs : List Run) :
    ∃ jobs : List Job, Jobs t w.files jobs (t.triggerAll host ds w).2.files ∧
      jobs.map Job.descriptor = ds ∧
      (t.triggerAll host ds w).1 = jobs.map Job.result ∧
      (t.triggerAll host ds w).2.log = w.log ++ jobs.flatMap Job.events ∧
      t.triggerAll host.watching ds (w.beside runs) =
        ((t.triggerAll host ds w).1,
          (t.triggerAll host ds w).2.beside (runs ++ jobs.filterMap Job.run?)) := by
  induction ds generalizing w runs with
  | nil => exact ⟨[], .done _, rfl, rfl, by simp [triggerAll], by simp [triggerAll]⟩
  | cons d ds ih =>
    -- the first call is a job, and the others go on from the files and the log that it leaves
    obtain ⟨j, proper, hd, hbefore, hafter, hresult, hlog, hkept⟩ := exists_job t host d w
    obtain ⟨jobs, chain, hds, hresults, hlogs, hruns⟩ :=
      ih (t.trigger host d w).2 (runs ++ j.run?.toList)
    refine ⟨j :: jobs, ?_, ?_, ?_, ?_, ?_⟩
    · simp only [triggerAll]
      rw [← hafter] at chain
      rw [← hbefore]
      exact .next proper chain
    · rw [List.map_cons, hd, hds]
    · simp only [triggerAll, hresults, List.map_cons, hresult]
    · simp only [triggerAll, hlogs, hlog, List.flatMap_cons, List.append_assoc]
    · simp only [triggerAll, hkept, hruns]
      cases hj : j.run? <;> simp [hj]

end Trigger

end FlowDump
