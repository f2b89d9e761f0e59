import FlowDump.Proofs.CommandLine.Guard
import FlowDump.Proofs.Dump.Classification
import FlowDump.Proofs.Flow.Reingestion
import FlowDump.Proofs.Json.LineFeed
import FlowDump.Proofs.Json.Pretty

/-!
# What a program prints

The output of an invocation is for other programs.  It holds everything that was asked for or
nothing at all, the exit code tells which, and what is told about the work goes elsewhere.

* `Readable` — an output from which records can be read back; `readable_printRecords` says that
  records are printed in this way.
* `Dump.run_records` — the records of a report are those of the artifact that its session told.
* `Locates` — where the artifact of an invocation is, as far as it is known.
* `AllOrNothing` — what the exit code of an invocation says about its output.
* `launch_allOrNothing` — every invocation ends in this way, and the log changes none of it.
* `exitCode_brokenFilter` — a log filter that cannot be taken apart ends a program with a code of
  its own.
-/

namespace FlowDump

variable {ε : Type}

/-! ### Records that are printed -/

/-- What is `Json.Admitted` within a limit is so within any wider one. -/
theorem Json.Admitted.mono {limit limit' : Nat} {v : Json} (admitted : Admitted limit v)
    (le : limit ≤ limit') : Admitted limit' v := by
  induction admitted generalizing limit' with
  | null => exact .null
  | bool b => exact .bool b
  | integer fits => exact .integer fits
  | double bits => exact .double bits
  | string s => exact .string s
  | array inner ih =>
    cases limit' with
    | zero => omega
    | succ limit' => exact .array fun v mem => ih v mem (by omega)
  | object nodup inner ih =>
    cases limit' with
    | zero => omega
    | succ limit' => exact .object nodup fun p mem => ih p mem (by omega)

/-- Every record of a stream was found in a line by `Record.ofLine?`. -/
theorem Flow.Stream.exists_line_of_mem {reader : Flow.Reader} {record : Flow.Record}
    (mem : record ∈ (Flow.Stream.decode reader).records) :
    ∃ line, Flow.Record.ofLine? line = some record := by
  cases failure : reader.failure? with
  | none =>
    rw [Flow.Stream.decode_ahead failure] at mem
    obtain ⟨line, -, found⟩ := List.mem_filterMap.mp mem
    exact ⟨line, found⟩
  | some message =>
    rw [Flow.Stream.decode, Flow.Stream.decodeFrom_failure [] 0 reader failure] at mem
    cases mem

/-- Every record of an artifact was found in a line by `Record.ofLine?`. -/
theorem Artifact.exists_line_of_mem {files : Filesystem} {path? : Option String}
    {record : Flow.Record} (mem : record ∈ (Artifact.decode files path?).records) :
    ∃ line, Flow.Record.ofLine? line = some record := by
  unfold Artifact.decode at mem
  split at mem
  · cases mem
  · split at mem
    · cases mem
    · unfold Artifact.ofNode at mem
      split at mem
      · exact Flow.Stream.exists_line_of_mem mem
      · exact Flow.Stream.exists_line_of_mem mem

namespace CommandLine

/-- An output from which some records can be read back, by `Json.parse`. -/
structure Readable (records : List Flow.Record) (output : String) : Prop where
  ends : ∃ text, output = text ++ "\n"
  empty : records = [] → output = "[]\n"
  /-- Every reader that allows one level more than a record may have gives an array of the records,
      in order.  Doubles are left out: they are written with the fewest digits. -/
  read : (∀ record ∈ records, Json.exact record.toJson = true) →
    ∀ limit, Json.nestingLimit < limit →
      Json.parse output.toList limit = some (.array (records.map Flow.Record.toJson))

/-- Records that were decoded are printed by `printRecords` so that they can be read back. -/
theorem readable_printRecords {records : List Flow.Record}
    (decoded : ∀ record ∈ records, ∃ line, Flow.Record.ofLine? line = some record) :
    Readable records (printRecords records) where
  ends := ⟨_, rfl⟩
  empty := by
    rintro rfl
    decide
  read := by
    intro allExact limit wide
    have admitted : Json.Admitted limit (.array (records.map Flow.Record.toJson)) := by
      have inner : ∀ v ∈ records.map Flow.Record.toJson, Json.Admitted Json.nestingLimit v := by
        intro v mem
        obtain ⟨record, record_mem, rfl⟩ := List.mem_map.mp mem
        obtain ⟨line, found⟩ := decoded record record_mem
        exact (Flow.Record.of_ofLine? found).1
      -- the array is one level around records that keep the limit for nesting
      exact (Json.Admitted.array inner).mono wide
    have exact_array : Json.exact (.array (records.map Flow.Record.toJson)) = true := by
      rw [Json.exact, Json.exactItems_iff]
      intro v mem
      obtain ⟨record, record_mem, rfl⟩ := List.mem_map.mp mem
      exact allExact record record_mem
    have read_back := Json.parse_pretty admitted exact_array
    have output_eq : (printRecords records).toList =
        Json.pretty (.array (records.map Flow.Record.toJson)) ++ ['\n'] := by
      rw [printRecords, String.toList_append, String.toList_ofList]
      rfl
    rw [output_eq, Json.parse_append_lineFeed, read_back]

end CommandLine

/-! ### Reports -/

/-- A report of `Dump.run` holds the records of the artifact that its session told, as it stands
    after the run, unless only its path was asked for. -/
theorem Dump.run_records {host : Host ε} {trigger : Trigger} {request : Dump.Request}
    {grace pollInterval : Duration} {limit : Nat} {w : World ε} {report : Dump.Report}
    (reported : (Dump.run host trigger request grace pollInterval limit w).result? =
      some (.ok report)) :
    report.records =
      if request.fileOnly then []
      else (Artifact.decode (Dump.run host trigger request grace pollInterval limit w).world.files
        report.outcome.path?).records := by
  by_cases inRange : request.InRange
  · rcases handed : Dump.handOver host trigger request w with ⟨answer, w'⟩
    cases answer with
    | error e =>
      rw [Dump.run_untriggered inRange handed] at reported
      cases reported
    | ok u =>
      rw [Dump.run_handed inRange handed] at reported ⊢
      -- neither a wait that goes on nor one that failed makes a report
      rcases ended : (Dump.awaited host request grace pollInterval (Dump.named host w) limit
        w').result? with _ | e | outcome
      · rw [Dump.await_eq, Dump.settle, ended] at reported
        cases reported
      · rw [Dump.await_eq, Dump.settle, ended] at reported
        cases reported
      · obtain ⟨w'', result_eq, world_eq, -⟩ := Dump.exists_concluded ended
        rw [result_eq, Option.some.injEq] at reported
        -- a session that failed is a failure, any other outcome
        -- is concluded on the files of the wait
        by_cases failed : outcome.status = .failed
        · rw [Dump.conclude_of_failed _ _ _ _ failed] at reported
          cases reported
        · rw [Dump.conclude_of_not_failed _ _ _ _ failed] at reported
          cases reported
          rw [world_eq, show (Dump.conclude request (Dump.named host w) outcome w'').2.files =
            w''.files from congrArg Machine.files (Dump.conclude_machine _ _ _ _)]
  · obtain ⟨message, refused⟩ := Dump.run_refused trigger grace pollInterval limit inRange
    rw [refused] at reported
    cases reported

namespace CommandLine

/-! ### Artifacts of invocations -/

/-- Whether an invocation asks for nothing but a path. -/
def asksPath (i : Arguments.Invocation) : Bool :=
  match i.command with
  | .dump request => request.fileOnly
  | .decode _ => false

/-- The `Dump.run` of a command whose steps have all succeeded. -/
def session (site : Site ε) (request : Dump.Request) (limit : Nat) (config : Config)
    (table : Store.StateTable) (subscription : Store.Subscription) (m : Machine ε)
    (log : List Log.Event) : Dump.Run ε :=
  Dump.run (site.host table subscription) (triggerOf config) request config.gracePeriod
    config.pollInterval limit ⟨m, log ++ [.note (Store.Subscription.note
      (Store.pattern config.stateDbIndex config.stateTable))]⟩

/-- Where the artifact of an invocation is, as far as it is known. -/
inductive Locates (site : Site ε) (i : Arguments.Invocation) (limit : Nat) (w : World ε) :
    Option String → Prop
  | given {path : String} (command_eq : i.command = .decode path) :
      Locates site i limit w (some path)
  /-- The session was reported, with the path that was told last. -/
  | told {request : Dump.Request} {config : Config} {table : Store.StateTable}
      {subscription : Store.Subscription} {m : Machine ε} {report : Dump.Report}
      (command_eq : i.command = .dump request)
      (ready : Prepares site i.configPath? (w.outsideStep site.now).2.toMachine
        (.ok (config, table, subscription)) m)
      (reported : (session site request limit config table subscription m w.log).result? =
        some (.ok report)) :
      Locates site i limit w report.outcome.path?

/-- What is printed of an artifact: where it is if the invocation `asksPath` and it is known, its
    records otherwise. -/
def Prints (i : Arguments.Invocation) (files : Filesystem) (path? : Option String)
    (output : String) : Prop :=
  if asksPath i then output = (path?.map (· ++ "\n")).getD ""
  else Readable (Artifact.decode files path?).records output

/-! ### Runs -/

theorem result?_finished (site : Site ε) (start : Instant) (run : Run ε) :
    (finished site start run).result? = run.result? := by
  unfold finished
  split <;> rfl

theorem files_finished (site : Site ε) (start : Instant) (run : Run ε) :
    (finished site start run).world.files = run.world.files := by
  unfold finished
  split <;> rfl

/-- `printReport` prints what `Prints` asks for. -/
theorem prints_printReport {i : Arguments.Invocation} {request : Dump.Request}
    {report : Dump.Report} {files : Filesystem} (command_eq : i.command = .dump request)
    (records_eq : report.records =
      if request.fileOnly then [] else (Artifact.decode files report.outcome.path?).records) :
    Prints i files report.outcome.path? (printReport request.fileOnly report) := by
  have asks : asksPath i = request.fileOnly := by rw [asksPath, command_eq]
  rw [Prints, asks, printReport]
  by_cases fileOnly : request.fileOnly = true
  · rw [if_pos fileOnly, if_pos fileOnly]
    cases report.outcome.path? <;> rfl
  · rw [if_neg fileOnly, if_neg fileOnly, records_eq, if_neg fileOnly]
    exact readable_printRecords fun record mem => Artifact.exists_line_of_mem mem

/-- What `CommandLine.run` comes to: nothing yet, as its wait is still going on, a failure, which
    only a dump can be, or what is printed of its artifact. -/
theorem run_cases (site : Site ε) (i : Arguments.Invocation) (limit : Nat) (w : World ε) :
    ((run site i limit w).result? = none ∧
      ∃ request config table subscription m, i.command = .dump request ∧
        Prepares site i.configPath? (w.outsideStep site.now).2.toMachine
          (.ok (config, table, subscription)) m ∧
        (session site request limit config table subscription m w.log).result? = none) ∨
    (∃ e request, (run site i limit w).result? = some (.error e) ∧ i.command = .dump request) ∨
    ∃ text path?, (run site i limit w).result? = some (.ok text) ∧ Locates site i limit w path? ∧
      Prints i (run site i limit w).world.files path? text := by
  cases command_eq : i.command with
  -- decoding ends at once and always prints
  | decode path =>
    have ran : run site i limit w = decode path w := by rw [run, command_eq]
    rw [ran]
    refine .inr (.inr ⟨_, some path, rfl, .given command_eq, ?_⟩)
    have asks : asksPath i = false := by rw [asksPath, command_eq]
    rw [Prints, asks]
    exact readable_printRecords fun record mem => Artifact.exists_line_of_mem mem
  | dump request =>
    have ran : run site i limit w = dump site i.configPath? request limit w := by
      rw [run, command_eq]
    rw [ran]
    -- a dump fails before its session, or comes to what its session comes to
    obtain ⟨prepared, m, steps⟩ :=
      exists_prepares site i.configPath? (w.outsideStep site.now).2.toMachine
    rcases prepared with e | ⟨config, table, subscription⟩
    · right
      left
      rw [dump_of_error steps, result?_finished]
      exact ⟨e, request, rfl, rfl⟩
    · have dumped : dump site i.configPath? request limit w =
          finished site (w.outsideStep site.now).1 (ofSession request.fileOnly
            (session site request limit config table subscription m w.log)) :=
        dump_of_ready steps
      rw [dumped, result?_finished, files_finished]
      rcases result_eq : (session site request limit config table subscription m w.log).result?
        with _ | e | report
      · left
        rw [ofSession, result_eq]
        exact ⟨rfl, request, config, table, subscription, m, rfl, steps, result_eq⟩
      · right
        left
        rw [ofSession, result_eq]
        exact ⟨e, request, rfl, rfl⟩
      · right
        right
        rw [ofSession, result_eq]
        exact ⟨_, _, rfl, .told command_eq steps result_eq,
          prints_printReport command_eq (Dump.run_records result_eq)⟩

/-! ### Invocations -/

/-- What an invocation that has `Ended` leaves for its caller. -/
structure AllOrNothing (site : Site ε) (filter? : Option String) (i : Arguments.Invocation)
    (limit : Nat) (w : World ε) (ended : Ended ε) : Prop where
  /-- Without a log filter to start with nothing is done, and the exit code says so. -/
  aborted : (profile i).filter? filter? = none →
    ended.finish.exitCode = 101 ∧ ended.finish.output = "" ∧ ended.world = w
  exitCode : (profile i).filter? filter? ≠ none →
    ended.finish.exitCode = 0 ∨ ended.finish.exitCode = 1
  /-- Decoding never fails. -/
  decode : ∀ path, i.command = .decode path → (profile i).filter? filter? ≠ none →
    ended.finish.exitCode = 0
  nothing : ended.finish.exitCode ≠ 0 → ended.finish.output = ""
  /-- The output is that of the artifact as it stands at the end. -/
  all : ended.finish.exitCode = 0 → ∃ path?, Locates site i limit w path? ∧
    Prints i ended.world.files path? ended.finish.output

/-- An invocation that `launch` does not end is a dump whose wait is still going on. -/
theorem waiting_of_launch {site : Site ε} {filter? : Option String} {i : Arguments.Invocation}
    {limit : Nat} {w : World ε} (unended : launch site filter? i limit w = none) :
    ∃ request config table subscription m, i.command = .dump request ∧
      Prepares site i.configPath? (w.outsideStep site.now).2.toMachine
        (.ok (config, table, subscription)) m ∧
      (session site request limit config table subscription m w.log).result? = none := by
  unfold launch at unended
  split at unended
  · cases unended
  · have pending : (run site i limit w).result? = none := by
      simpa [Run.finish?] using unended
    rcases run_cases site i limit w with ⟨-, waiting⟩ | ⟨e, request, ran, -⟩ | ⟨text, path?, ran, -⟩
    · exact waiting
    · rw [pending] at ran
      cases ran
    · rw [pending] at ran
      cases ran

/-- What `launch` has ended leaves everything or nothing. -/
theorem allOrNothing_of_launch {site : Site ε} {filter? : Option String}
    {i : Arguments.Invocation} {limit : Nat} {w : World ε} {ended : Ended ε}
    (launched : launch site filter? i limit w = some ended) :
    AllOrNothing site filter? i limit w ended := by
  unfold launch at launched
  split at launched
  -- no log filter: the program was aborted before it did anything
  · rename_i unreadable
    cases launched
    have is_none : ¬ (profile i).filter? filter? ≠ none := fun ne => ne unreadable
    exact
      { aborted := fun _ => ⟨rfl, rfl, rfl⟩
        exitCode := fun ne => absurd ne is_none
        decode := fun _ _ ne => absurd ne is_none
        nothing := fun _ => rfl
        all := fun zero => absurd zero (show ¬ (101 : UInt8) = 0 by decide) }
  · rename_i filter readable
    have is_some : (profile i).filter? filter? ≠ none := by simp [readable]
    obtain ⟨finish, finish_eq, rfl⟩ := Option.map_eq_some_iff.mp launched
    obtain ⟨result, result_eq, rfl⟩ := Option.map_eq_some_iff.mp finish_eq
    -- an invocation that has ended was not pending; it failed, or printed its artifact
    rcases run_cases site i limit w with ⟨pending, -⟩ | ⟨e, request, ran, command_eq⟩ |
      ⟨text, path?, ran, located, printed⟩
    · rw [pending] at result_eq
      cases result_eq
    · rw [ran] at result_eq
      cases result_eq
      exact
        { aborted := fun unreadable => absurd unreadable is_some
          exitCode := fun _ => .inr rfl
          decode := by
            intro path decode_eq
            rw [command_eq] at decode_eq
            cases decode_eq
          nothing := fun _ => rfl
          all := fun zero => absurd zero (show ¬ (1 : UInt8) = 0 by decide) }
    · rw [ran] at result_eq
      cases result_eq
      exact
        { aborted := fun unreadable => absurd unreadable is_some
          exitCode := fun _ => .inl rfl
          decode := fun _ _ _ => rfl
          nothing := fun nonzero => absurd rfl nonzero
          all := fun _ => ⟨path?, located, printed⟩ }

/-- **The output is all or nothing.**  Whatever the databases answer, whatever stands in the
    filesystem and whatever the configuration: an invocation that `launch` ends has the exit code 0
    or 1, unless there is no log filter to start with, and decoding has 0.  With any other code
    nothing is printed.  With 0 the records of the artifact are printed, in order, so that they can
    be read back, or only where it is, if that was asked for.  Only a dump whose wait is still going
    on has not ended.  The log changes none of this: with other switches for it and another filter
    the invocation ends in the same way. -/
theorem launch_allOrNothing (site : Site ε) (filter? : Option String) (i : Arguments.Invocation)
    (limit : Nat) (w : World ε) :
    (∀ ended, launch site filter? i limit w = some ended →
      AllOrNothing site filter? i limit w ended) ∧
    (launch site filter? i limit w = none →
      ∃ request config table subscription m, i.command = .dump request ∧
        Prepares site i.configPath? (w.outsideStep site.now).2.toMachine
          (.ok (config, table, subscription)) m ∧
        (session site request limit config table subscription m w.log).result? = none) ∧
    ∀ (other? : Option String) (verbose jsonLogs : Bool),
      (profile i).filter? filter? ≠ none →
      (profile { i with verbose, jsonLogs }).filter? other? ≠ none →
      (launch site other? { i with verbose, jsonLogs } limit w).map
          (fun ended => (ended.finish, ended.world)) =
        (launch site filter? i limit w).map fun ended => (ended.finish, ended.world) := by
  refine ⟨fun ended launched => allOrNothing_of_launch launched, waiting_of_launch, ?_⟩
  -- a run does not read the switches of the log
  intro other? verbose jsonLogs readable readable'
  obtain ⟨filter, filter_eq⟩ := Option.ne_none_iff_exists'.mp readable
  obtain ⟨filter', filter'_eq⟩ := Option.ne_none_iff_exists'.mp readable'
  have same : run site { i with verbose, jsonLogs } limit w = run site i limit w := rfl
  simp only [launch, filter_eq, filter'_eq, same, Option.map_map]
  rfl

/-- What the words `decode a.gz` ask for. -/
def decodeInvocation : Arguments.Invocation :=
  { configPath? := none, verbose := false, jsonLogs := false, command := .decode "a.gz" }

/-- What `dump` asks for, or `dump --file-only`. -/
def dumpInvocation (fileOnly : Bool) : Arguments.Invocation :=
  { configPath? := none, verbose := false, jsonLogs := false
    command := .dump ⟨true, 1000, 60, fileOnly⟩ }

/-- A device of the expected role, on which the session has ended when its first event comes and its
    record tells the path of an artifact. -/
def finishedSite : Site Unit :=
  { roleSite "dpu" with
    interrupted := fun u => (false, u)
    server :=
      { (roleSite "dpu").server with
        ask := fun _ command u =>
          (.ok (match command.head? with
            | some "HGET" => .bulk (Utf8.encode "dpu")
            | some "HGETALL" =>
              .array [.status "state", .status "completed", .status "file_path", .status "once.gz"]
            | _ => .status "OK"), u)
        listen := fun _ _ _ u =>
          (.reply (.array
            [ .status "message",
              .bulk (Utf8.encode (Store.channelStem 6 ({} : Config).stateTable ++
                (SessionName.generate default).text)),
              .status "hset" ]), u) } }

/-- The directory with the artifact, `Artifact.halves`. -/
def artifactWorld : World Unit := ⟨⟨Artifact.halves, ()⟩, []⟩

/-- On `finishedSite` the record of an artifact is printed, or its path if only that is asked for;
    where there is no artifact an empty array is printed; and on a device of another role a dump
    fails and prints nothing.  Switches for the log and another filter change none of this. -/
theorem launch_allOrNothing_roleSite :
    (∃ ended, launch finishedSite none (dumpInvocation false) 9 artifactWorld = some ended ∧
      ended.finish.exitCode = 0 ∧
      ended.finish.output = "[\n  \x7b\n    \"c\": 2\n  \x7d\n]\n" ∧
      ∃ path?, Locates finishedSite (dumpInvocation false) 9 artifactWorld path? ∧
        Readable (Artifact.decode ended.world.files path?).records ended.finish.output) ∧
    (∃ ended, launch finishedSite none (dumpInvocation true) 9 artifactWorld = some ended ∧
      ended.finish.exitCode = 0 ∧ ended.finish.output = "once.gz\n" ∧
      Locates finishedSite (dumpInvocation true) 9 artifactWorld (some "once.gz")) ∧
    (launch (roleSite "dpu") none decodeInvocation 0 ⟨bareMachine, []⟩).map (·.finish) =
      some (.printed "[]\n") ∧
    (profile decodeInvocation).filter? none ≠ none ∧
    (profile { decodeInvocation with verbose := true, jsonLogs := true }).filter? (some "trace") ≠
      none ∧
    (launch (roleSite "dpu") (some "trace")
        { decodeInvocation with verbose := true, jsonLogs := true } 0 ⟨bareMachine, []⟩).map
        (fun ended => (ended.finish, ended.world)) =
      (launch (roleSite "dpu") none decodeInvocation 0 ⟨bareMachine, []⟩).map
        (fun ended => (ended.finish, ended.world)) ∧
    ∃ ended, launch (roleSite "npu") none (dumpInvocation true) 9 ⟨bareMachine, []⟩ = some ended ∧
      ended.finish.exitCode = 1 ∧ ended.finish.output = "" := by
  obtain ⟨-, -, logged⟩ :=
    launch_allOrNothing (roleSite "dpu") none decodeInvocation 0 ⟨bareMachine, []⟩
  have quiet : (profile decodeInvocation).filter? none ≠ none := by decide
  have loud : (profile { decodeInvocation with verbose := true, jsonLogs := true }).filter?
      (some "trace") ≠ none := by decide +kernel
  refine ⟨?records, ?path, by decide +kernel, quiet, loud,
    logged (some "trace") true true quiet loud, ?role⟩
  case records =>
    obtain ⟨left, -, -⟩ :=
      launch_allOrNothing finishedSite none (dumpInvocation false) 9 artifactWorld
    obtain ⟨ended, launched, finish_eq⟩ : ∃ ended,
        launch finishedSite none (dumpInvocation false) 9 artifactWorld = some ended ∧
          ended.finish = .printed "[\n  \x7b\n    \"c\": 2\n  \x7d\n]\n" :=
      Option.map_eq_some_iff.mp (by decide +kernel)
    have zero : ended.finish.exitCode = 0 := by rw [finish_eq]; rfl
    obtain ⟨path?, located, printed⟩ := (left ended launched).all zero
    exact ⟨ended, launched, zero, by rw [finish_eq]; rfl, path?, located, printed⟩
  case path =>
    obtain ⟨left, -, -⟩ :=
      launch_allOrNothing finishedSite none (dumpInvocation true) 9 artifactWorld
    obtain ⟨ended, launched, finish_eq⟩ : ∃ ended,
        launch finishedSite none (dumpInvocation true) 9 artifactWorld = some ended ∧
          ended.finish = .printed "once.gz\n" :=
      Option.map_eq_some_iff.mp (by decide +kernel)
    have zero : ended.finish.exitCode = 0 := by rw [finish_eq]; rfl
    have output_eq : ended.finish.output = "once.gz\n" := by rw [finish_eq]; rfl
    obtain ⟨path?, located, printed⟩ := (left ended launched).all zero
    -- the path that is printed is the one that the record told
    have told : path? = some "once.gz" := by
      rw [output_eq] at printed
      cases path? with
      | none => exact absurd (show "once.gz\n" = "" from printed) (by decide)
      | some path =>
        have same : "once.gz" ++ "\n" = path ++ "\n" := printed
        rw [(String.append_left_inj "\n").mp same]
    rw [told] at located
    exact ⟨ended, launched, zero, output_eq, located⟩
  case role =>
    obtain ⟨left, -, -⟩ :=
      launch_allOrNothing (roleSite "npu") none (dumpInvocation true) 9 ⟨bareMachine, []⟩
    have steps : Prepares (roleSite "npu") none bareMachine
        (.error (.wrongDeviceRole "dpu" "npu")) bareMachine :=
      @Prepares.misplaced _ (roleSite "npu") none bareMachine {} ⟨0⟩ bareMachine (some "npu") ()
        ⟨by rfl, by decide⟩ (openUrl_roleSite "npu" bareMachine).1 (by rfl) (by decide)
    have ran : run (roleSite "npu") (dumpInvocation true) 9 ⟨bareMachine, []⟩ =
        finished (roleSite "npu") default
          { result? := some (.error (.wrongDeviceRole "dpu" "npu")), world := ⟨bareMachine, []⟩ } :=
      dump_of_error steps
    obtain ⟨ended, launched, failed⟩ : ∃ ended,
        launch (roleSite "npu") none (dumpInvocation true) 9 ⟨bareMachine, []⟩ = some ended ∧
          ended.finish.exitCode = 1 := by
      have readable :
          (profile (dumpInvocation true)).filter? none = some Log.Profile.quiet.default := rfl
      simp only [launch, readable, ran]
      exact ⟨_, rfl, rfl⟩
    have silent := (left ended launched).nothing (by rw [failed]; decide)
    exact ⟨ended, launched, failed, silent⟩

/-- A log filter whose first word cannot be taken out: its end is found within a letter. -/
def brokenFilter : String := " é=debug"

/-- With `brokenFilter` the words `decode a.gz` end with another code than 0 and 1. -/
theorem exitCode_brokenFilter :
    Arguments.parse none ["decode", "a.gz"] = .ok decodeInvocation ∧
    (profile decodeInvocation).filter? (some brokenFilter) = none ∧
    (launch (roleSite "dpu") (some brokenFilter) decodeInvocation 0 ⟨bareMachine, []⟩).map
      (·.finish.exitCode) = some 101 := by
  have unreadable : (profile decodeInvocation).filter? (some brokenFilter) = none := by
    decide +kernel
  refine ⟨by decide, unreadable, ?_⟩
  rw [launch, unreadable]
  rfl

end CommandLine

end FlowDump
