import FlowDump.CommandLine.Run
import FlowDump.Proofs.Config.Document
import FlowDump.Proofs.Dump.Session
import FlowDump.Proofs.Request
import FlowDump.Proofs.Store.Keys
import FlowDump.Proofs.Watch.Deadline
import FlowDump.Proofs.Watch.Timing

/-!
# What a loaded configuration keeps from happening

A configuration is checked when it is loaded, and what the check is for comes later: when a program
is run, when an event is waited for, and when the key of a session is taken apart.  Whatever was
loaded, none of these goes wrong because of it.

* `Watch.Planned` — how long an event may be waited for, by the calls that were made before.
* `Orderly` — what holds of a run by its calls: which program is run and when, and how long events
  are waited for.
* `ExactTimes`, `PartedKeys` — the times of a wait are exact, and keys are cut where they should be.
* `run_configured` — all of this holds of every run with a configuration that was loaded.
-/

namespace FlowDump

variable {ε : Type}

/-! ### Waits as they are planned -/

namespace Watch

/-- How long an event may be waited for, by the calls that were made before. -/
inductive Planned (deadline? : Option Instant) (pollInterval : Duration) :
    List Call → Duration → Prop where
  /-- Without a deadline it is the longest single wait. -/
  | unbounded (deadline_eq : deadline? = none) (before : List Call) :
      Planned deadline? pollInterval before pollInterval
  /-- Otherwise the clock was read just before, and the time that is left is exact. -/
  | bounded {deadline now : Instant} {maxWait : Duration} (deadline_eq : deadline? = some deadline)
      (earlier : List Call) (ahead : now.toNanos < deadline.toNanos)
      (exact_wait : (maxWait.toNanos : Int) =
        min (pollInterval.toNanos : Int) (deadline.toNanos - now.toNanos)) :
      Planned deadline? pollInterval (earlier ++ [.interrupted false, .now now]) maxWait

/-- A `Turn.Timely` turn waits for an event as `Planned`. -/
theorem Turn.Timely.planned {deadline? : Option Instant} {pollInterval : Duration}
    {now? : Option Instant} {maxWait : Duration} {event : Except Failure (Option Notification)}
    {read? : Option (Except Failure (Option StateRecord))}
    (timely : (Turn.polled now? maxWait event read?).Timely deadline? pollInterval)
    (earlier : List Call) :
    Planned deadline? pollInterval (earlier ++ .interrupted false :: (now?.map Call.now).toList)
      maxWait := by
  cases timely with
  | bounded deadline_eq ahead =>
    have left := Instant.toNanos_since ahead
    refine .bounded deadline_eq earlier ahead ?_
    rw [Duration.toNanos_min]
    omega
  | unbounded deadline_eq => exact .unbounded deadline_eq _

end Watch

namespace Dump

open CommandLine (triggerOf)

/-! ### Waits in the calls of a run -/

section

variable {α : Type} {c : α} {front rest before after : List α}

/-- What does not stand at the front stands behind it. -/
theorem exists_behind_of_notMem (notMem : c ∉ front) (h : front ++ rest = before ++ c :: after) :
    ∃ between, before = front ++ between ∧ rest = between ++ c :: after := by
  rcases List.append_eq_append_iff.mp h with ⟨between, hb, hr⟩ | ⟨between, hf, hb⟩
  · exact ⟨between, hb, hr⟩
  · cases between with
    | nil => exact ⟨[], by simpa using hf.symm, hb.symm⟩
    | cons first between =>
      obtain ⟨rfl, -⟩ := List.cons.inj hb
      exact absurd (hf ▸ List.mem_append_cons_self) notMem

/-- What does not stand at the end stands before it. -/
theorem exists_front_of_notMem (notMem : c ∉ rest) (h : front ++ rest = before ++ c :: after) :
    ∃ between, front = before ++ c :: between := by
  rcases List.append_eq_append_iff.mp h with ⟨between, -, hr⟩ | ⟨between, hf, hb⟩
  · exact absurd (hr ▸ List.mem_append_cons_self) notMem
  · cases between with
    | nil =>
      have rest_eq : c :: after = rest := hb
      exact absurd (rest_eq ▸ List.mem_cons_self) notMem
    | cons first between =>
      obtain ⟨rfl, -⟩ := List.cons.inj hb
      exact ⟨between, hf⟩

end

variable {host : Host ε} {request : Request} {grace pollInterval : Duration}
  {session : SessionName} {limit : Nat} {w : World ε} {before after : List Call}
  {maxWait : Duration} {answer : Except Failure (Option Notification)}

/-- In `waiting` events are waited for as `Planned`, by the deadline that follows from the second
    reading of the clock. -/
theorem planned_of_waiting (positive : 0 < pollInterval.toNanos)
    (h : waiting host request grace pollInterval session limit w =
      before ++ .nextEvent maxWait answer :: after) :
    let start := ((started host session w).outsideStep host.now).1
    0 < maxWait.toNanos ∧ Call.now start ∈ before ∧ ∀ opened : List Call,
      Watch.Planned ((options request grace pollInterval).deadlineAfter start) pollInterval
        (opened ++ before) maxWait := by
  intro start
  have clocks : Call.nextEvent maxWait answer ∉
      [.now (w.outsideStep host.now).1, .now start] := by simp
  have closed : Call.nextEvent maxWait answer ∉
      closing host (awaited host request grace pollInterval session limit w) := by
    intro mem
    obtain ⟨t, asked⟩ := exists_now_of_closing host mem
    cases asked
  -- the channel is asked in the turns, neither before them nor after them
  obtain ⟨behind, rfl, hturns⟩ := exists_behind_of_notMem clocks h
  obtain ⟨between, hturns⟩ := exists_front_of_notMem closed hturns
  obtain ⟨earlier, now?, read?, mem, rfl⟩ := Watch.exists_polled_of_calls hturns
  have timely := Watch.wait_timely host (options request grace pollInterval) session limit
    (started host session w) _ mem
  refine ⟨(timely.maxWait_bounds positive).1, by simp, fun opened => ?_⟩
  rw [← List.append_assoc, ← List.append_assoc]
  exact timely.planned _

/-! ### Orderly runs -/

/-- What holds of a run with a configuration, by the calls that it makes. -/
structure Orderly (host : Host ε) (config : Config) (request : Request) (w : World ε)
    (calls : List Call) : Prop where
  /-- A program that is run is the one that is named, and its name is not empty. -/
  program : ∀ program arguments answer, Call.run program arguments answer ∈ calls →
    program ≠ "" ∧ ∃ leading, config.applyCommand = program :: leading ∧
      arguments = leading ++ [config.requestPath]
  /-- It is run if the request was written. -/
  ran_iff : (∃ program arguments answer, Call.run program arguments answer ∈ calls) ↔
    (AtomicWrite.run w.files config.requestPath
      ((descriptorOf request (named host w)).bytes config.requestTable)).1 = .ok ()
  /-- Handing the session over never tells that no program is named. -/
  never_unnamed : ∀ message,
    (handOver host (triggerOf config) request w).1 ≠ .error (.config message)
  /-- Every wait for an event takes some time, which is the one that is planned. -/
  waits : ∃ start, ∀ before maxWait answer after,
    calls = before ++ .nextEvent maxWait answer :: after →
      0 < maxWait.toNanos ∧ Call.now start ∈ before ∧
        Watch.Planned ((options request config.gracePeriod config.pollInterval).deadlineAfter start)
          config.pollInterval before maxWait

section

variable {config : Config}

/-- The runs of programs among the calls of the `opening` and after it. -/
theorem run_mem_iff {later : List Call} (unrun : ∀ c ∈ later, c.isRun = false)
    (trigger : Trigger) {program : String} {arguments : List String}
    {answer : Except IoFailure CommandOutcome} :
    Call.run program arguments answer ∈ opening host trigger request w ++ later ↔
      ∃ r, ran host trigger request w = some r ∧ r.call = .run program arguments answer := by
  have notLater : Call.run program arguments answer ∉ later := by
    intro mem
    cases unrun _ mem
  obtain ⟨start, stop, opening_eq⟩ := exists_opening_eq host trigger request w
  rw [opening_eq]
  simp [notLater]

/-- The calls of a run with a `Config.Sound` configuration are `Orderly`, if only the wait for its
    session follows after the session was handed over. -/
theorem orderly_of_sound (sound : config.Sound) {later : List Call}
    (unrun : ∀ c ∈ later, c.isRun = false)
    (waits : ∃ start, ∀ before maxWait answer after,
      later = before ++ .nextEvent maxWait answer :: after →
        0 < maxWait.toNanos ∧ Call.now start ∈ before ∧ ∀ opened,
          Watch.Planned
            ((options request config.gracePeriod config.pollInterval).deadlineAfter start)
            config.pollInterval (opened ++ before) maxWait) :
    Orderly host config request w (opening host (triggerOf config) request w ++ later) := by
  obtain ⟨program, leading, command_eq, named⟩ := sound.exists_program
  -- a sound configuration names a program, so the handing over never stops at an empty command
  have some_command : (triggerOf config).applyCommand ≠ [] := by
    show config.applyCommand ≠ []
    rw [command_eq]
    exact List.cons_ne_nil program leading
  refine ⟨?program, ?ran_iff, ?never_unnamed, ?waits⟩
  case program =>
    intro program' arguments answer mem
    obtain ⟨r, hr, call_eq⟩ := (run_mem_iff unrun (triggerOf config)).mp mem
    obtain ⟨-, leading', command_eq', arguments_eq⟩ := ran_spec host (triggerOf config) request w hr
    cases call_eq
    have same : config.applyCommand = r.program :: leading' := command_eq'
    rw [command_eq] at same
    cases same
    exact ⟨named, leading, command_eq, arguments_eq⟩
  -- with a command named, a program is run just if the request file was written
  case ran_iff =>
    have some_iff : (ran host (triggerOf config) request w).isSome = true ↔
        (AtomicWrite.run w.files config.requestPath
          ((descriptorOf request (Dump.named host w)).bytes config.requestTable)).1 = .ok () :=
      Trigger.isSome_run?_iff.trans (and_iff_left some_command)
    rw [← some_iff, Option.isSome_iff_exists]
    constructor
    · rintro ⟨program, arguments, answer, mem⟩
      obtain ⟨r, hr, -⟩ := (run_mem_iff unrun (triggerOf config)).mp mem
      exact ⟨r, hr⟩
    · rintro ⟨r, hr⟩
      exact ⟨r.program, r.arguments, r.answer,
        (run_mem_iff unrun (triggerOf config)).mpr ⟨r, hr, rfl⟩⟩
  case never_unnamed =>
    intro message
    rw [handOver, Trigger.trigger_eq, (Trigger.ended_spec ..).1]
    exact Trigger.apply_ne_config some_command message
  -- the channel is asked only behind the opening, by the wait
  case waits =>
    obtain ⟨start, planned⟩ := waits
    refine ⟨start, fun before maxWait answer after h => ?_⟩
    have unasked : Call.nextEvent maxWait answer ∉ opening host (triggerOf config) request w := by
      intro mem
      cases (opening_spec host (triggerOf config) request w).2.2 _ mem
    obtain ⟨between, before_eq, hlater⟩ := exists_behind_of_notMem unasked h
    rw [before_eq]
    obtain ⟨positive, read, plan⟩ := planned between maxWait answer after hlater
    exact ⟨positive, List.mem_append_right _ read, plan _⟩

end

/-! ### Times and keys -/

/-- The times of a wait with a configuration are exact, however long they are. -/
structure ExactTimes (config : Config) (request : Request) : Prop where
  timeout : (options request config.gracePeriod config.pollInterval).timeout.toNanos =
    request.timeoutSeconds.toNat * 1000000000
  gracePeriod : config.gracePeriod.toNanos = config.gracePeriodSecs.toNat * 1000000000
  pollInterval : config.pollInterval.toNanos = config.pollIntervalMillis.toNat * 1000000
  /-- A deadline is the exact sum. -/
  deadline_iff : ∀ start deadline : Instant,
    (options request config.gracePeriod config.pollInterval).deadlineAfter start = some deadline ↔
      deadline.toNanos = start.toNanos +
        (request.timeoutSeconds.toNat + config.gracePeriodSecs.toNat) * 1000000000
  /-- There is none only where this sum cannot be held. -/
  no_deadline_iff : ∀ start : Instant,
    (options request config.gracePeriod config.pollInterval).deadlineAfter start = none ↔
      ¬ Instant.Holds (start.toNanos +
        (request.timeoutSeconds.toNat + config.gracePeriodSecs.toNat) * 1000000000)

/-- The keys of a configuration, `Descriptor.entryKey` and `Store.stateKey`, are cut into its tables
    and the session. -/
structure PartedKeys (config : Config) : Prop where
  request : ∀ d : Descriptor, Text.cut? ':' (d.entryKey config.requestTable).toList =
    some (config.requestTable.toList, d.session.text.toList)
  state : ∀ session : SessionName,
    Text.cut? '|' (Store.stateKey config.stateTable session).toList =
      some (config.stateTable.toList, session.text.toList)

/-- By `deadlineAfter_cases` the times of every wait are exact. -/
theorem exactTimes (config : Config) (request : Request) : ExactTimes config request := by
  let o := options request config.gracePeriod config.pollInterval
  have end_eq : ∀ start : Instant, o.endNanos start = start.toNanos +
      (request.timeoutSeconds.toNat + config.gracePeriodSecs.toNat) * 1000000000 := by
    intro start
    simp only [o, options, Watch.Options.endNanos, Config.gracePeriod, Duration.toNanos_ofSeconds]
    omega
  refine ⟨Duration.toNanos_ofSeconds _, Duration.toNanos_ofSeconds _, Duration.toNanos_ofMillis _,
    fun start deadline => ?_, fun start => ?_⟩
  · rw [← end_eq]
    exact Watch.deadlineAfter_eq_some_iff
  · rw [← end_eq, ← Watch.isSome_deadlineAfter_iff, Option.not_isSome_iff_eq_none]

/-- The tables of a `Config.Sound` configuration have no mark at which their keys are cut. -/
theorem partedKeys {config : Config} (sound : config.Sound) : PartedKeys config where
  request d := d.cut?_entryKey (sound.requestTable.unreserved ':' (by decide))
  state session := Store.cut?_stateKey (sound.stateTable.unreserved '|' (by decide)) session

/-! ### The theorem -/

/-- **What a loaded configuration keeps from happening.**  Whichever file it comes from, the
    defaults included, the calls of every run with it are `Orderly`: the program that is run is
    named and is run as soon as the request has been written, and every wait for an event takes some
    time.  No time of the wait overflows, and the keys of its tables are cut where the name of the
    table ends. -/
theorem run_configured {files : Filesystem} {path : String} {required : Bool} {config : Config}
    (loaded : Config.load files path required = .ok config) (host : Host ε) (request : Request)
    (inRange : request.InRange) (limit : Nat) (w : World ε) :
    (∃ calls,
      run host.recording (triggerOf config) request config.gracePeriod config.pollInterval limit
          (w.along []) =
        (run host (triggerOf config) request config.gracePeriod config.pollInterval limit w).along
          calls ∧
      Orderly host config request w calls) ∧
    ExactTimes config request ∧ PartedKeys config := by
  have sound := Config.check_eq_ok_iff.mp (Config.check_of_load loaded)
  refine ⟨?_, exactTimes config request, partedKeys sound⟩
  obtain ⟨handed, w', hand⟩ : ∃ handed w',
      handOver host (triggerOf config) request w = (handed, w') := ⟨_, _, rfl⟩
  have recorded := handOver_recording host (triggerOf config) request w
  rw [hand] at recorded
  cases handed with
  | error e =>
    -- nothing is waited for, and so nothing comes after the opening
    rw [run_untriggered inRange hand, run_untriggered inRange recorded]
    have orderly : Orderly host config request w
        (opening host (triggerOf config) request w ++ []) :=
      orderly_of_sound sound (by simp) ⟨default, by simp⟩
    rw [List.append_nil] at orderly
    exact ⟨_, rfl, orderly⟩
  | ok _ =>
    rw [run_handed inRange hand, run_handed inRange recorded, named_keeps w host.recording_keeps,
      await_recording]
    have unrun := fun c mem => (identity?_of_waiting host request config.gracePeriod
      config.pollInterval (Dump.named host w) limit w' (c := c) mem).2
    exact ⟨_, rfl, orderly_of_sound sound unrun
      ⟨_, fun _ _ _ _ h => planned_of_waiting sound.pollInterval_pos h⟩⟩

/-- A document with the shortest single wait and the longest grace that it can name. -/
def longGrace : String :=
  "poll_interval_ms = 1\ngrace_period_secs = 9223372036854775807\nrequest_path = \"request.json\"\n"

/-- The files with the document of `longGrace`. -/
def longGraceFiles : Filesystem :=
  Filesystem.put ⟨[], []⟩ ["flowdump.toml"] (.file (Utf8.encode longGrace))

/-- With the document of `longGrace` the apply command is run, and the wait that follows at the
    origin of time has no deadline. -/
theorem run_configured_longGrace :
    ∃ config calls,
      Config.load longGraceFiles "flowdump.toml" true = .ok config ∧
      Request.InRange ⟨true, 1000, 60, true⟩ ∧
      Orderly readyHost config ⟨true, 1000, 60, true⟩ ⟨⟨default, ()⟩, []⟩ calls ∧
      (∃ program arguments answer, Call.run program arguments answer ∈ calls) ∧
      (options ⟨true, 1000, 60, true⟩ config.gracePeriod config.pollInterval).deadlineAfter
        default = none := by
  have inRange : Request.InRange ⟨true, 1000, 60, true⟩ := ⟨by decide, by decide⟩
  have found : longGraceFiles.readFile "flowdump.toml" = .ok (Utf8.encode longGrace) := by rfl
  have read : longGraceFiles.readText "flowdump.toml" = .ok longGrace := by
    simp only [Filesystem.readText, found, bind, Except.bind, Utf8.decode?_encode]
  have statements : Toml.statements 92 longGrace.toList =
      some [.pair ["poll_interval_ms"] (.integer 1),
        .pair ["grace_period_secs"] (.integer 9223372036854775807),
        .pair ["request_path"] (.string "request.json")] := by with_unfolding_all rfl
  have table : Toml.parse longGrace =
      some [("poll_interval_ms", .integer 1), ("grace_period_secs", .integer 9223372036854775807),
        ("request_path", .string "request.json")] :=
    Toml.parse_of_statements (by decide +kernel) (by decide +kernel) statements
  have loaded : Config.load longGraceFiles "flowdump.toml" true =
      .ok { ({} : Config) with
        pollIntervalMillis := 1, gracePeriodSecs := 9223372036854775807,
        requestPath := "request.json" } := by
    rw [Config.load, read]
    show Config.parse longGrace = _
    rw [Config.parse, table]
    rfl
  obtain ⟨⟨calls, -, orderly⟩, times, -⟩ :=
    run_configured loaded readyHost ⟨true, 1000, 60, true⟩ inRange 9 ⟨⟨default, ()⟩, []⟩
  have written : (∃ program arguments answer, Call.run program arguments answer ∈ calls) :=
    orderly.ran_iff.mpr rfl
  have late : ¬ Instant.Holds ((default : Instant).toNanos + (60 + 9223372036854775807) *
      1000000000) := by
    simp only [Instant.Holds]
    decide
  exact ⟨_, calls, loaded, inRange, orderly, written, (times.no_deadline_iff default).mpr late⟩

end Dump

end FlowDump
