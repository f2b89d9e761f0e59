import FlowDump.Session

/-!
# Failures

What can go wrong in a dump, and how it is reported.

* `Failure` — the causes, with `Failure.message`, the wording of each.
* `FailureKind` — their classification, with `FailureKind.code`, the stable code of each class.
* `Report` — a failure as it is shown to an operator: class, operation, session and message.
* `Failure.report` — the report of a failure; `report_kind` and `report_message` say that nothing
  is lost on the way.
-/

namespace FlowDump

/-! ### Classes -/

/-- The classes of failures. -/
inductive FailureKind where
  | invalidInput
  | config
  | io
  | serialization
  | wrongDeviceRole
  | externalCommand
  | store
  | sessionFailed
  | internal
  deriving DecidableEq, Repr, Inhabited

namespace FailureKind

/-- The name of a class. -/
def name : FailureKind → String
  | invalidInput => "InvalidInput"
  | config => "Config"
  | io => "Io"
  | serialization => "Serialization"
  | wrongDeviceRole => "WrongDeviceRole"
  | externalCommand => "ExternalCommand"
  | store => "Store"
  | sessionFailed => "SessionFailed"
  | internal => "Internal"

/-- The stable code of a class. -/
def code : FailureKind → String
  | invalidInput => "ERR_INVALID_INPUT"
  | config => "ERR_CONFIG"
  | io => "ERR_IO"
  | serialization => "ERR_SERIALIZATION"
  | wrongDeviceRole => "ERR_WRONG_DEVICE_ROLE"
  | externalCommand => "ERR_EXTERNAL_COMMAND"
  | store => "ERR_STORE"
  | sessionFailed => "ERR_SESSION_FAILED"
  | internal => "ERR_INTERNAL"

/-- Every class. -/
def all : List FailureKind :=
  [invalidInput, config, io, serialization, wrongDeviceRole, externalCommand, store,
    sessionFailed, internal]

end FailureKind

/-! ### Causes -/

/-- Why an operation failed. -/
inductive Failure where
  /-- A value from the caller is out of range. -/
  | invalidInput (message : String)
  /-- The configuration is missing, unreadable or invalid. -/
  | config (message : String)
  /-- The directory of the request file could not be made. -/
  | createDirectory (path message : String)
  /-- The request file could not be written. -/
  | writeFile (path message : String)
  /-- A value could not be written or read as JSON. -/
  | serialization (message : String)
  /-- The apply command could not be started. -/
  | commandSpawn (program message : String)
  /-- The apply command ran and reported failure. -/
  | commandFailed (program status : String)
  /-- The host does not have the role this tool is for. -/
  | wrongDeviceRole (expected found : String)
  /-- The database or the notification channel failed. -/
  | store (operation message : String)
  /-- The producer marked the session as failed. -/
  | sessionFailed (session : SessionName)
  /-- Something outside the session itself could not be set up. -/
  | internal (message : String)
  deriving DecidableEq, Repr, Inhabited

namespace Failure

/-- The class of a failure. -/
def kind : Failure → FailureKind
  | invalidInput _ => .invalidInput
  | config _ => .config
  | createDirectory _ _ => .io
  | writeFile _ _ => .io
  | serialization _ => .serialization
  | commandSpawn _ _ => .externalCommand
  | commandFailed _ _ => .externalCommand
  | wrongDeviceRole _ _ => .wrongDeviceRole
  | store _ _ => .store
  | sessionFailed _ => .sessionFailed
  | internal _ => .internal

/-- The wording of a failure. -/
def message : Failure → String
  | invalidInput m => "Invalid input: " ++ m
  | config m => "Configuration error: " ++ m
  | createDirectory path m => "Failed to create directory " ++ path ++ ": " ++ m
  | writeFile path m => "Failed to write " ++ path ++ ": " ++ m
  | serialization m => "Serialization error: " ++ m
  | commandSpawn program m => "Failed to run '" ++ program ++ "': " ++ m
  | commandFailed program status => "'" ++ program ++ "' exited with " ++ status
  | wrongDeviceRole expected found =>
    "This command is only supported on a " ++ expected ++ " (switch_type: " ++ found ++ ")"
  | store operation m => "Store error during " ++ operation ++ ": " ++ m
  | sessionFailed session => "Flow dump session " ++ session.text ++ " failed"
  | internal m => "Internal error: " ++ m

/-- The operation that a failure belongs to. -/
def operation? : Failure → Option String
  | createDirectory _ _ => some "create_request_dir"
  | writeFile _ _ => some "write_request"
  | commandSpawn _ _ => some "apply_request"
  | commandFailed _ _ => some "apply_request"
  | wrongDeviceRole _ _ => some "check_device_role"
  | store operation _ => some operation
  | sessionFailed _ => some "wait_for_session"
  | invalidInput _ => none
  | config _ => none
  | serialization _ => none
  | internal _ => none

/-- The session that a failure names. -/
def session? : Failure → Option SessionName
  | sessionFailed session => some session
  | _ => none

end Failure

/-! ### Reports -/

/-- A `Failure` as an operator sees it. -/
structure Report where
  kind : FailureKind
  operation? : Option String := none
  session? : Option SessionName := none
  message : String := ""
  deriving DecidableEq, Repr, Inhabited

namespace Report

/-- The same report for another operation. -/
def withOperation (r : Report) (operation : String) : Report :=
  { r with operation? := some operation }

/-- The same report for another session. -/
def withSession (r : Report) (session : SessionName) : Report :=
  { r with session? := some session }

/-- The same report with another message. -/
def withMessage (r : Report) (message : String) : Report :=
  { r with message }

/-- The code of a report: that of its `FailureKind`. -/
def code (r : Report) : String := r.kind.code

/-- A report on one line: its code, then the parts it has. -/
def render (r : Report) : String :=
  "[" ++ r.code ++ "]"
    ++ (match r.operation? with
      | some operation => " in operation '" ++ operation ++ "'"
      | none => "")
    ++ (if r.message = "" then "" else ": " ++ r.message)
    ++ (match r.session? with
      | some session => " (session: " ++ session.text ++ ")"
      | none => "")

end Report

/-- The report of a failure. -/
def Failure.report (f : Failure) : Report :=
  { kind := f.kind, operation? := f.operation?, session? := f.session?, message := f.message }

@[simp] theorem Failure.report_kind (f : Failure) : f.report.kind = f.kind := rfl

@[simp] theorem Failure.report_message (f : Failure) : f.report.message = f.message := rfl

end FlowDump
