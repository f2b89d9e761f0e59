import FlowDump.Proofs.Dump.Session
import FlowDump.Proofs.Gzip.Delivery
import FlowDump.Proofs.Watch.Outcome

/-!
# What a finished run reports

Once the session was taken and the wait has come to an outcome, the status alone decides whether the
run is a failure, and the last known path what is decoded.  Whether records are wanted at all is
looked at after everything else, so that it changes the records of a report and nothing more.

* `Classified` — what a run comes to, by the outcome of its wait.
* `await_classified` — every wait that has come to an outcome is classified in this way.
* `Report.withoutRecords`, `OnlyRecords` — two runs that differ in the records of their reports.
* `run_onlyRecords` — a run that wants no records, and the same run with records.
* `run_reports_outcome` — both of them together.
-/

namespace FlowDump.Dump

variable {ε : Type}

/-! ### The report -/

section

variable (request : Request) (session : SessionName) (outcome : Watch.Outcome) (w : World ε)

/-- `Dump.conclude` leaves the files and the outside alone. -/
theorem conclude_machine : (conclude request session outcome w).2.toMachine = w.toMachine := by
  unfold conclude
  split
  · rfl
  · dsimp only
    split <;> rfl

/-- For `Dump.conclude` a failed session is a failure. -/
theorem conclude_of_failed (h : outcome.status = .failed) :
    (conclude request session outcome w).1 = .error (.sessionFailed session) := by
  rw [conclude, if_pos h]

/-- `Dump.conclude` reports every other outcome as it is, with the records of its path if they are
    wanted. -/
theorem conclude_of_not_failed (h : outcome.status ≠ .failed) :
    (conclude request session outcome w).1 =
      .ok { session, outcome, records :=
        if request.fileOnly then [] else (Artifact.decode w.files outcome.path?).records } := by
  rw [conclude, if_neg h]
  cases request.fileOnly <;> rfl

end

/-! ### By the outcome of the wait -/

/-- What a run comes to whose wait for a session has come to an outcome.  `calls` are the calls of
    the run, and `files` those that stand after the wait. -/
structure Classified (request : Request) (session : SessionName) (outcome : Watch.Outcome)
    (files : Filesystem) (calls : List Call) (run : Run ε) : Prop where
  failed_iff : run.result? = some (.error (.sessionFailed session)) ↔ outcome.status = .failed
  reported : outcome.status ≠ .failed → run.result? =
    some (.ok { session, outcome, records :=
      if request.fileOnly then [] else (Artifact.decode files outcome.path?).records })
  given_up : outcome.status ≠ .failed →
    outcome.status = .completed ∨ outcome.status = .timedOut ∨ outcome.status = .interrupted
  /-- The path of the outcome is the last one that a reading of the record told, and so is its
      state. -/
  restsOn : ∃ answers : List (Option StateRecord),
    calls.filterMap Call.read? = answers.map .ok ∧ outcome.RestsOn answers
  /-- Nothing is written after the wait. -/
  files_eq : run.world.files = files

section

variable {host : Host ε} {trigger : Trigger} {request : Request} {grace pollInterval : Duration}
  {session : SessionName} {limit : Nat} {w : World ε} {outcome : Watch.Outcome}

/-- A run whose wait has come to an outcome ends with what `Dump.conclude` makes of it. -/
theorem exists_concluded
    (ended : (awaited host request grace pollInterval session limit w).result? =
      some (.ok outcome)) :
    ∃ w' : World ε,
      (await host request grace pollInterval session limit w).result? =
        some (conclude request session outcome w').1 ∧
      (await host request grace pollInterval session limit w).world =
        (conclude request session outcome w').2 ∧
      w'.files = (awaited host request grace pollInterval session limit w).world.files := by
  rw [await_eq]
  generalize awaited host request grace pollInterval session limit w = wait at ended ⊢
  simp only [settle, ended]
  exact ⟨_, rfl, rfl, rfl⟩

/-- The calls of the `opening` read no record. -/
theorem filterMap_read?_opening (host : Host ε) (trigger : Trigger) (request : Request)
    (w : World ε) : (opening host trigger request w).filterMap Call.read? = [] := by
  obtain ⟨-, -, unasked⟩ := opening_spec host trigger request w
  refine List.filterMap_eq_nil_iff.mpr fun c mem => ?_
  have := unasked c mem
  cases c <;> simp_all [Call.asks, Call.read?]

/-- Of the calls of `waiting`, those of its turns read the records. -/
theorem filterMap_read?_waiting (host : Host ε) (request : Request) (grace pollInterval : Duration)
    (session : SessionName) (limit : Nat) (w : World ε) :
    (waiting host request grace pollInterval session limit w).filterMap Call.read? =
      (awaited host request grace pollInterval session limit w).turns.filterMap
        Watch.Turn.read? := by
  have unread : (closing host (awaited host request grace pollInterval session limit w)).filterMap
      Call.read? = [] := by
    refine List.filterMap_eq_nil_iff.mpr fun c mem => ?_
    obtain ⟨t, rfl⟩ := exists_now_of_closing host mem
    rfl
  -- nothing is read before the first turn or after the last one
  rw [waiting, List.filterMap_cons_none rfl, List.filterMap_cons_none rfl, List.filterMap_append,
    unread, List.append_nil, List.filterMap_flatMap, List.filterMap_eq_flatMap_toList]
  congr 1
  funext t
  exact Watch.filterMap_read?_calls session t

/-- A run whose wait has come to an outcome is `Classified` by it. -/
theorem await_classified (opened : List Call) (unread : opened.filterMap Call.read? = [])
    (ended : (awaited host request grace pollInterval session limit w).result? =
      some (.ok outcome)) :
    Classified request session outcome
      (awaited host request grace pollInterval session limit w).world.files
      (opened ++ waiting host request grace pollInterval session limit w)
      (await host request grace pollInterval session limit w) := by
  obtain ⟨w', result_eq, world_eq, files_eq⟩ := exists_concluded ended
  -- the outcome rests on the reads of the turns, and these are all the reads there are
  have chain := Watch.wait_follows host (options request grace pollInterval) session limit
    (started host session w)
  rw [show (Watch.wait host (options request grace pollInterval) session limit
    (started host session w)).result? = some (.ok outcome) from ended] at chain
  refine
    { failed_iff := ?failed_iff, reported := ?reported, given_up := ?given_up
      restsOn := ?restsOn, files_eq := ?files_eq }
  case failed_iff =>
    rw [result_eq]
    by_cases failed : outcome.status = .failed
    · rw [conclude_of_failed request session outcome w' failed]
      exact ⟨fun _ => failed, fun _ => rfl⟩
    · rw [conclude_of_not_failed request session outcome w' failed]
      constructor
      · intro h
        cases h
      · intro h
        exact absurd h failed
  case reported =>
    intro not_failed
    rw [result_eq, conclude_of_not_failed request session outcome w' not_failed, files_eq]
  case given_up =>
    intro not_failed
    cases h : outcome.status with
    | failed => exact absurd h not_failed
    | completed => exact .inl rfl
    | timedOut => exact .inr (.inl rfl)
    | interrupted => exact .inr (.inr rfl)
  case restsOn =>
    obtain ⟨answers, reads_eq, restsOn⟩ := chain.restsOn
    refine ⟨answers, ?_, restsOn⟩
    rw [List.filterMap_append, unread, List.nil_append, filterMap_read?_waiting]
    exact reads_eq
  case files_eq =>
    rw [world_eq, ← files_eq]
    exact congrArg Machine.files (conclude_machine request session outcome w')

end

/-! ### With and without records -/

/-- A `Report` without its records. -/
def Report.withoutRecords (report : Report) : Report := { report with records := [] }

/-- A run that does without the records of another one, and is like it in everything else: it made
    the same turns, left the same files and the same outside, and failed in the same way or gave the
    same `Report.withoutRecords`.  The other one may have more to remark. -/
structure OnlyRecords (brief full : Run ε) : Prop where
  result_eq : brief.result? = full.result?.map (Except.map Report.withoutRecords)
  turns_eq : brief.turns = full.turns
  machine_eq : brief.world.toMachine = full.world.toMachine
  log_eq : ∃ notes : List Log.Note, full.world.log = brief.world.log ++ notes.map .note

section

variable (host : Host ε) (trigger : Trigger) (request : Request) (grace pollInterval : Duration)
  (session : SessionName) (limit : Nat) (w : World ε)

/-- A run without a report has no records, so that it does without them already. -/
theorem OnlyRecords.of_failure (e? : Option Failure) (turns : List Watch.Turn) (w : World ε) :
    OnlyRecords { result? := e?.map .error, turns, world := w }
      { result? := e?.map .error, turns, world := w } where
  result_eq := by cases e? <;> rfl
  turns_eq := rfl
  machine_eq := rfl
  log_eq := ⟨[], (List.append_nil _).symm⟩

/-- `Dump.conclude` with and without records differs in the records. -/
theorem conclude_onlyRecords (outcome : Watch.Outcome) (turns : List Watch.Turn) :
    OnlyRecords
      { result? := some (conclude { request with fileOnly := true } session outcome w).1, turns
        world := (conclude { request with fileOnly := true } session outcome w).2 }
      { result? := some (conclude { request with fileOnly := false } session outcome w).1, turns
        world := (conclude { request with fileOnly := false } session outcome w).2 } := by
  by_cases failed : outcome.status = .failed
  · simp only [conclude, if_pos failed]
    exact .of_failure (some _) turns w
  · simp only [conclude, if_neg failed]
    exact ⟨rfl, rfl, rfl, _, rfl⟩

/-- `Dump.await` looks at the times of the request alone, and so goes the same way with and without
    records. -/
theorem await_onlyRecords :
    OnlyRecords
      (await host { request with fileOnly := true } grace pollInterval session limit w)
      (await host { request with fileOnly := false } grace pollInterval session limit w) := by
  rw [await_eq, await_eq]
  show OnlyRecords
    (settle host { request with fileOnly := true } session (w.outsideStep host.now).1
      (awaited host request grace pollInterval session limit w))
    (settle host { request with fileOnly := false } session (w.outsideStep host.now).1
      (awaited host request grace pollInterval session limit w))
  generalize awaited host request grace pollInterval session limit w = wait
  obtain ⟨result?, turns, world⟩ := wait
  match result? with
  | none => exact .of_failure none turns world
  | some (.error e) => exact .of_failure (some e) turns world
  | some (.ok outcome) => exact conclude_onlyRecords request session _ outcome turns

/-- `Dump.run` without records and the same run with records differ in the records. -/
theorem run_onlyRecords :
    OnlyRecords (run host trigger { request with fileOnly := true } grace pollInterval limit w)
      (run host trigger { request with fileOnly := false } grace pollInterval limit w) := by
  cases inRange : Descriptor.check request.maxFlows request.timeoutSeconds with
  | error e =>
    simp only [run, inRange]
    exact .of_failure (some e) [] w
  | ok _ =>
    simp only [run, inRange]
    -- the session is named and handed over in the same way
    generalize trigger.trigger host _ _ = handed
    obtain ⟨answer, w'⟩ := handed
    cases answer with
    | error e => exact .of_failure (some e) [] w'
    | ok _ => exact await_onlyRecords host request grace pollInterval _ limit w'

/-- Beside what is kept `Dump.run` keeps the same with and without records. -/
theorem run_keeps_same {κ : Type} {host : Host ε} {beside : Host (ε × List κ)}
    {note : Call → List κ} {noteRun : FlowDump.Run → List κ} (keeps : host.Keeps beside note)
    (runs : host.KeepsRuns beside noteRun) :
    ∃ later, ∀ fileOnly,
      run beside trigger { request with fileOnly } grace pollInterval limit (w.along []) =
        (run host trigger { request with fileOnly } grace pollInterval limit w).along later := by
  obtain ⟨brief, brief_eq⟩ :=
    run_keeps keeps runs trigger { request with fileOnly := true } grace pollInterval limit w
  obtain ⟨full, full_eq⟩ :=
    run_keeps keeps runs trigger { request with fileOnly := false } grace pollInterval limit w
  -- what is kept is a part of the outside, in which the runs do not differ
  have outside_eq := congrArg (fun m : Machine (ε × List κ) => m.outside.2)
    (run_onlyRecords beside trigger request grace pollInterval limit (w.along [])).machine_eq
  have brief_kept := congrArg (fun r : Run (ε × List κ) => r.world.outside.2) (brief_eq [])
  have full_kept := congrArg (fun r : Run (ε × List κ) => r.world.outside.2) (full_eq [])
  have same : brief = full := brief_kept.symm.trans (outside_eq.trans full_kept)
  refine ⟨full, fun fileOnly => ?_⟩
  cases fileOnly with
  | true => rw [← same, brief_eq, List.nil_append]
  | false => rw [full_eq, List.nil_append]

end

/-! ### The theorem -/

/-- **What a finished run reports.**  Where `handOver` succeeded and the wait has come to an
    outcome, the run fails with its session exactly where the session failed, and otherwise reports
    the outcome as it is, completed, timed out or interrupted, with the records of its path in the
    files as they stand after the wait, or none if only the path is wanted.  The path is the last
    one that was told, be it by the last record or by an earlier one.  Whether only the path is
    wanted changes the records and nothing else: the run makes the same calls, runs the same
    programs on the same files, leaves the same files, and fails in the same way or reports the same
    session and the same outcome. -/
theorem run_reports_outcome (host : Host ε) (trigger : Trigger) (request : Request)
    (grace pollInterval : Duration) (limit : Nat) (w : World ε) :
    (∀ w' outcome, request.InRange → handOver host trigger request w = (.ok (), w') →
      (awaited host request grace pollInterval (named host w) limit w').result? =
        some (.ok outcome) →
      ∃ calls, run host.recording trigger request grace pollInterval limit (w.along []) =
          (run host trigger request grace pollInterval limit w).along calls ∧
        Classified request (named host w) outcome
          (awaited host request grace pollInterval (named host w) limit w').world.files calls
          (run host trigger request grace pollInterval limit w)) ∧
    OnlyRecords (run host trigger { request with fileOnly := true } grace pollInterval limit w)
      (run host trigger { request with fileOnly := false } grace pollInterval limit w) ∧
    ∃ calls runs, ∀ fileOnly,
      run host.recording trigger { request with fileOnly } grace pollInterval limit (w.along []) =
        (run host trigger { request with fileOnly } grace pollInterval limit w).along calls ∧
      run host.watching trigger { request with fileOnly } grace pollInterval limit (w.along []) =
        (run host trigger { request with fileOnly } grace pollInterval limit w).along runs := by
  refine ⟨?_, run_onlyRecords host trigger request grace pollInterval limit w, ?_⟩
  -- recorded, the handing over leaves the same files and the wait goes the same way
  · intro w' outcome inRange hand ended
    have recorded := handOver_recording host trigger request w
    rw [hand] at recorded
    rw [run_handed inRange hand, run_handed inRange recorded, named_keeps w host.recording_keeps,
      await_recording]
    exact ⟨_, rfl, await_classified _ (filterMap_read?_opening host trigger request w) ended⟩
  · obtain ⟨calls, calls_eq⟩ := run_keeps_same trigger request grace pollInterval limit w
      host.recording_keeps host.recording_keepsRuns
    obtain ⟨runs, runs_eq⟩ := run_keeps_same trigger request grace pollInterval limit w
      host.watching_keeps host.watching_keepsRuns
    exact ⟨calls, runs, fun fileOnly => ⟨calls_eq fileOnly, runs_eq fileOnly⟩⟩

/-- A host on which the first record tells a path, and the second one that the session has ended and
    no path. -/
def twoStepHost (last : SessionState) : Host Nat where
  now n := (default, n)
  interrupted n := (false, n)
  identity n := (default, n)
  run _ _ m := (.ok { success := true, status := "exit status: 0", stderr := "" }, m)
  nextEvent _ m :=
    ({ result := .ok (some
        { key := (SessionName.generate default).text, operation := "hset" }) }, m)
  readState _ m :=
    ({ result := .ok (some (match m.outside with
        | 0 => { state? := some .pending, path? := some "once.gz" }
        | _ => { state? := some last, path? := none })) },
      { m with outside := m.outside + 1 })

/-- The run on `twoStepHost`, from the directory with the artifact on. -/
def twoStepRun (last : SessionState) (fileOnly : Bool) : Run Nat :=
  run (twoStepHost last) ⟨"request.json", "REQ", ["swssconfig"]⟩ ⟨true, 1000, 60, fileOnly⟩
    (.ofSeconds 5) (.ofMillis 10) 9 ⟨⟨Artifact.halves, 0⟩, []⟩

/-- On `twoStepHost` the path of the first record is decoded, and a session that failed is a
    failure. -/
theorem run_reports_outcome_twoStepHost :
    (twoStepRun .completed false).result? =
      some (.ok ⟨.generate default, ⟨.completed, some .completed, some "once.gz"⟩,
        (Artifact.decode (twoStepRun .completed false).world.files (some "once.gz")).records⟩) ∧
    (Artifact.decode (twoStepRun .completed false).world.files
      (some "once.gz")).records.length = 1 ∧
    (twoStepRun .failed false).result? =
      some (.error (.sessionFailed (.generate default))) ∧
    OnlyRecords (twoStepRun .completed true) (twoStepRun .completed false) := by
  have inRange : Request.InRange ⟨true, 1000, 60, false⟩ := ⟨by decide, by decide⟩
  obtain ⟨completed, only, -⟩ := run_reports_outcome (twoStepHost .completed)
    ⟨"request.json", "REQ", ["swssconfig"]⟩ ⟨true, 1000, 60, false⟩ (.ofSeconds 5) (.ofMillis 10) 9
    ⟨⟨Artifact.halves, 0⟩, []⟩
  obtain ⟨failed, -, -⟩ := run_reports_outcome (twoStepHost .failed)
    ⟨"request.json", "REQ", ["swssconfig"]⟩ ⟨true, 1000, 60, false⟩ (.ofSeconds 5) (.ofMillis 10) 9
    ⟨⟨Artifact.halves, 0⟩, []⟩
  obtain ⟨_, -, classified⟩ := completed _ ⟨.completed, some .completed, some "once.gz"⟩ inRange
    (Prod.ext rfl rfl) rfl
  obtain ⟨_, -, classified'⟩ := failed _ ⟨.failed, some .failed, some "once.gz"⟩ inRange
    (Prod.ext rfl rfl) rfl
  refine ⟨?_, by decide +kernel, classified'.failed_iff.mpr rfl, only⟩
  have reported := classified.reported (by decide)
  rw [← classified.files_eq] at reported
  exact reported

end FlowDump.Dump
