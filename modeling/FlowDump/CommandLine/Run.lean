import FlowDump.CommandLine.Arguments
import FlowDump.Config.Document
import FlowDump.Log.Line
import FlowDump.Site

/-!
# Running a command

* `CommandLine.dump` — the `dump` command: load the configuration, check the device, heed the
  signals, open the databases, subscribe, and only then start a session.
* `CommandLine.decode` — the `decode` command.
* `CommandLine.run` — the command of an invocation; `Finish` is what it leaves for the caller of the
  program.
* `CommandLine.launch` — an invocation from beginning to end, with the log filter that the
  environment asks for.
-/

namespace FlowDump.CommandLine

variable {ε : Type}

/-! ### Output -/

/-- Records as they are printed by `Json.pretty`: one array over several lines. -/
def printRecords (records : List Flow.Record) : String :=
  String.ofList (Json.pretty (.array (records.map Flow.Record.toJson))) ++ "\n"

/-- What is printed of a dump: the path of the artifact if only that was asked for and it is known,
    and `printRecords` otherwise. -/
def printReport (fileOnly : Bool) (report : Dump.Report) : String :=
  if fileOnly then
    match report.outcome.path? with
    | some path => path ++ "\n"
    | none => ""
  else printRecords report.records

/-! ### Getting ready -/

/-- Load the configuration by `Config.load`: the file that is named, or else the one at
    `Config.defaultPath` if it is there. -/
def loadConfig (path? : Option String) (w : World ε) : Except Failure Config :=
  (match path? with
    | some path => Config.load w.files path true
    | none => Config.load w.files Config.defaultPath false).mapError Config.Fault.failure

/-- Ask the configuration database for the role of the device, by `Server.readSwitchType`. -/
def readRole (site : Site ε) (config : Config) :
    StateM (Machine ε) (Except Failure (Option String)) := do
  match ← site.server.openUrl config.configDbUrl with
  | .error e => return .error e
  | .ok c => Machine.outsideStep (site.server.readSwitchType c)

/-- The device has to have the role that the configuration expects, as `readRole` finds it and
    `Dump.checkRole` judges it. -/
def checkDevice (site : Site ε) (config : Config) (w : World ε) : Except Failure Unit × World ε :=
  let (role, w) := w.machineStep (readRole site config)
  (role.bind (Dump.checkRole config.expectedSwitchType), w)

/-- The `Failure.internal` of a signal that cannot be had. -/
def signalFailure (e : IoFailure) : Failure :=
  .internal ("cannot install signal handler: " ++ e.message)

/-- From here on the signals of `Signal.stopping` set the interrupt flag, by `Site.heed`. -/
def heedSignals (site : Site ε) (w : World ε) : Except Failure Unit × World ε :=
  let (answer, w) := w.outsideStep (site.heed Signal.stopping)
  (answer.mapError signalFailure, w)

/-- Connect to the state database twice by `Server.openUrl`, as a connection that has subscribed
    serves for nothing else. -/
def connectTwice (site : Site ε) (config : Config) :
    StateM (Machine ε) (Except Failure (Store.Connection × Store.Connection)) := do
  match ← site.server.openUrl config.stateDbUrl with
  | .error e => return .error e
  | .ok records =>
    match ← site.server.openUrl config.stateDbUrl with
    | .error e => return .error e
    | .ok messages => return .ok (records, messages)

/-- Open the table of records and subscribe to its changes, each with a connection of
    `connectTwice`. -/
def openState (site : Site ε) (config : Config) (w : World ε) :
    Except Failure (Host ε) × World ε :=
  match w.machineStep (connectTwice site config) with
  | (.error e, w) => (.error e, w)
  | (.ok (records, messages), w) =>
    let (answer, w) := w.outsideStep
      (Store.Subscription.start site.server messages config.stateDbIndex config.stateTable)
    let w := w.remark answer.notes
    (answer.result.map (site.host { connection := records, name := config.stateTable }), w)

/-- Everything that has to be in order before a session may start: `loadConfig`, `checkDevice`,
    `heedSignals` and `openState`, up to the first one that fails. -/
def prepare (site : Site ε) (configPath? : Option String) (w : World ε) :
    Except Failure (Config × Host ε) × World ε :=
  match loadConfig configPath? w with
  | .error e => (.error e, w)
  | .ok config =>
    match checkDevice site config w with
    | (.error e, w) => (.error e, w)
    | (.ok (), w) =>
      match heedSignals site w with
      | (.error e, w) => (.error e, w)
      | (.ok (), w) =>
        match openState site config w with
        | (.error e, w) => (.error e, w)
        | (.ok host, w) => (.ok (config, host), w)

/-! ### Commands -/

/-- How sessions are handed over under a configuration. -/
def triggerOf (config : Config) : Trigger :=
  { requestPath := config.requestPath, requestTable := config.requestTable,
    applyCommand := config.applyCommand }

/-- The remark about a dump that has ended. -/
def dumpNote (report : Dump.Report) : Log.Note :=
  { level := .debug, component := .dumpCommand, message := "flow dump finished",
    fields :=
      [Log.sessionField report.session, ("status", .text report.outcome.status.name),
        ("records", .count report.records.length)] }

/-- What a command came to: what it prints or why it failed, or none if a wait was still going on
    after the turns it was given. -/
structure Run (ε : Type) where
  result? : Option (Except Failure String)
  world : World ε

/-- The steps of the `dump` command. -/
def dumpSteps (site : Site ε) (configPath? : Option String) (request : Dump.Request)
    (limit : Nat) (w : World ε) : Run ε :=
  match prepare site configPath? w with
  | (.error e, w) => { result? := some (.error e), world := w }
  | (.ok (config, host), w) =>
    let run :=
      Dump.run host (triggerOf config) request config.gracePeriod config.pollInterval limit w
    match run.result? with
    | none => { result? := none, world := run.world }
    | some (.error e) => { result? := some (.error e), world := run.world }
    | some (.ok report) =>
      { result? := some (.ok (printReport request.fileOnly report)),
        world := run.world.remark [dumpNote report] }

/-- The name of the `dump` command in the log. -/
def operationName : String := "flow_dump"

/-- The `dump` command; a failure is told to the log. -/
def dump (site : Site ε) (configPath? : Option String) (request : Dump.Request) (limit : Nat)
    (w : World ε) : Run ε :=
  let (start, w) := w.outsideStep site.now
  let run := dumpSteps site configPath? request limit w
  match run.result? with
  | some (.error e) =>
    let (stop, w) := run.world.outsideStep site.now
    let failed : Log.Event :=
      .operation
        { component := .dumpCommand, name := operationName,
          phase := .fail (stop.since start).toMillis e }
    { run with world := w.tell failed }
  | _ => run

/-- The remark about an artifact that was decoded. -/
def decodeNote (path : String) (records : List Flow.Record) : Log.Note :=
  { level := .debug, component := .decodeCommand, message := "artifact decoded",
    fields := [("path", .text path), ("records", .count records.length)] }

/-- The `decode` command.  An artifact without records is no failure, whatever the reason. -/
def decode (path : String) (w : World ε) : Run ε :=
  let decoded := Artifact.decode w.files (some path)
  { result? := some (.ok (printRecords decoded.records)),
    world := (w.remark decoded.notes).remark [decodeNote path decoded.records] }

/-! ### Invocations -/

/-- The lines of the help. -/
def helpLines : List String :=
  [ "Dump the flow table of a DPU",
    "",
    "Usage: flowdump [OPTIONS] <COMMAND>",
    "",
    "Commands:",
    "  dump    Request a flow dump and wait for its result",
    "  decode  Decode an existing dump artifact",
    "  help    Print this message",
    "",
    "Options:",
    "      --config <CONFIG>  Configuration file",
    "  -v, --verbose          Print debug logs to stderr",
    "      --json-logs        Emit logs as JSON",
    "  -h, --help             Print help" ]

/-- The text of the help. -/
def helpText : String := String.join (helpLines.map (· ++ "\n"))

/-- What a program leaves for its caller. -/
inductive Finish where
  /-- The text of the help was asked for. -/
  | help
  /-- The arguments ask for nothing that can be run. -/
  | refused
  /-- There is no log filter to start with. -/
  | aborted
  | printed (text : String)
  | failed (report : Report)
  deriving DecidableEq, Repr

namespace Finish

/-- The exit code: 0 if everything went well. -/
def exitCode : Finish → UInt8
  | help => 0
  | refused => 1
  | aborted => 101
  | printed _ => 0
  | failed _ => 1

/-- What is written to the output. -/
def output : Finish → String
  | help => helpText
  | refused => ""
  | aborted => ""
  | printed text => text
  | failed _ => ""

/-- The line that tells of a failure. -/
def complaint? : Finish → Option String
  | failed report => some ("Error: " ++ report.render)
  | _ => none

end Finish

/-- The kind of log output that is asked for. -/
def profile (i : Arguments.Invocation) : Log.Profile :=
  if i.jsonLogs then .structured else if i.verbose then .verbose else .quiet

/-- Run an invocation; a wait takes at most `limit` turns. -/
def run (site : Site ε) (i : Arguments.Invocation) (limit : Nat) (w : World ε) : Run ε :=
  match i.command with
  | .dump request => dump site i.configPath? request limit w
  | .decode path => decode path w

/-- The files that an invocation may read before it has met a database. -/
def inputs (i : Arguments.Invocation) : List String :=
  match i.command with
  | .dump _ => [i.configPath?.getD Config.defaultPath]
  | .decode path => [path]

/-- What the result of a `Run` leaves for the caller. -/
def Run.finish? (r : Run ε) : Option Finish :=
  r.result?.map fun
    | .ok text => .printed text
    | .error e => .failed e.report

/-- An invocation that has ended: what it leaves for its caller, the lines that were written about
    its work, and the world after it. -/
structure Ended (ε : Type) where
  finish : Finish
  lines : List String
  world : World ε

/-- Run an invocation by `run` under the log filter that the environment asks for, if it asks for
    one.  There is no end as long as a wait is still going on. -/
def launch (site : Site ε) (filter? : Option String) (i : Arguments.Invocation) (limit : Nat)
    (w : World ε) : Option (Ended ε) :=
  match (profile i).filter? filter? with
  | none => some { finish := .aborted, lines := [], world := w }
  | some filter =>
    let run := run site i limit w
    run.finish?.map fun finish =>
      { finish, lines := Log.render (profile i) filter run.world.log, world := run.world }

end FlowDump.CommandLine
