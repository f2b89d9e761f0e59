import FlowDump.Failure
import FlowDump.Files.Path
import FlowDump.Files.SystemError
import FlowDump.Time

/-!
# Configurations

Every field has a default, so that a document only has to name what it changes.

* `Config` — the fields, with their defaults.
* `Config.isDefault` — whether a configuration changes nothing.
* `Config.Fault` — why a configuration is refused.
* `Config.check` — what every configuration has to satisfy.
-/

namespace FlowDump

/-! ### Fields -/

/-- A configuration. -/
structure Config where
  /-- Where the request of a session is written. -/
  requestPath : String := "/tmp/flowdump/flow_dump_request.json"
  /-- A program and its first arguments; the request path comes after them. -/
  applyCommand : List String := ["swssconfig"]
  requestTable : String := "DASH_FLOW_DUMP_REQUEST_TABLE"
  stateTable : String := "DASH_FLOW_DUMP_STATE_TABLE"
  stateDbUrl : String := "redis://127.0.0.1:6379/6"
  /-- The index of the state database, as its notifications name it. -/
  stateDbIndex : UInt32 := 6
  configDbUrl : String := "redis://127.0.0.1:6379/4"
  expectedSwitchType : String := "dpu"
  /-- How long to wait on after the timeout of a session. -/
  gracePeriodSecs : UInt64 := 5
  pollIntervalMillis : UInt64 := 1000
  deriving DecidableEq, Repr, Inhabited

namespace Config

/-- Where a configuration is looked for when none is named. -/
def defaultPath : String := "/etc/sonic/flowdump.toml"

/-- The grace as a length of time. -/
def gracePeriod (c : Config) : Duration := .ofSeconds c.gracePeriodSecs

/-- The longest single wait as a length of time. -/
def pollInterval (c : Config) : Duration := .ofMillis c.pollIntervalMillis

/-- Whether a configuration changes none of the defaults; the same path may be written in several
    ways. -/
def isDefault (c : Config) : Bool :=
  let d : Config := {}
  Path.isSame c.requestPath d.requestPath && { c with requestPath := d.requestPath } = d

/-! ### Faults -/

/-- Why a configuration is refused. -/
inductive Fault where
  /-- The text is no document, or a field of it is unknown or has a value of the wrong kind. -/
  | document
  | unreadable (path : String) (cause : IoFailure)
  | noProgram
  | zeroPollInterval
  | emptyTable
  | reservedInTable (table : String) (c : Char)
  deriving DecidableEq, Repr

namespace Fault

/-- The wording of a fault. -/
def message : Fault → String
  | document => "not a configuration document"
  | unreadable path cause => "cannot read " ++ path ++ ": " ++ cause.message
  | noProgram => "apply_command must name a program"
  | zeroPollInterval => "poll_interval_ms must be positive"
  | emptyTable => "table names must not be empty"
  | reservedInTable table c =>
    "table name '" ++ table ++ "' must not contain '" ++ c.toString ++ "'"

/-- A fault as a `Failure.config`. -/
def failure (f : Fault) : Failure := .config f.message

end Fault

/-! ### What is required -/

/-- The characters that no table name may hold: those that part keys, and those that mean something
    in the pattern of a subscription. -/
def reserved : List Char := ['|', ':', '*', '?', '[', ']', '\\']

/-- The name of a table has none of the `reserved` characters. -/
def checkTable (table : String) : Except Fault Unit :=
  match table.toList.find? (· ∈ reserved) with
  | some c => .error (.reservedInTable table c)
  | none => .ok ()

/-- A configuration names a program, waits for some time in each turn, and has two tables whose
    names can be told from the rest of a key, by `checkTable`. -/
def check (c : Config) : Except Fault Unit :=
  if c.applyCommand.head?.getD "" = "" then .error .noProgram
  else if c.pollIntervalMillis = 0 then .error .zeroPollInterval
  else if c.requestTable = "" ∨ c.stateTable = "" then .error .emptyTable
  else do
    checkTable c.requestTable
    checkTable c.stateTable

end Config

end FlowDump
