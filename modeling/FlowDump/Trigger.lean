import FlowDump.Descriptor
import FlowDump.Files.AtomicWrite
import FlowDump.Host

/-!
# Triggering a session

The descriptor of a session is written to the request path, and then the apply command is run with
that path as its last argument.  Where the file cannot be written nothing is run.

* `Trigger` — the request path, the request table and the apply command.
* `Trigger.apply` — write the descriptor and run the command.
* `Trigger.trigger` — the same as an operation of the log.
-/

namespace FlowDump

/-- How sessions are handed to the producer: a `Descriptor` is written, and the apply command is run
    on it. -/
structure Trigger where
  requestPath : String
  requestTable : String
  /-- A program and its first arguments. -/
  applyCommand : List String
  deriving DecidableEq, Repr, Inhabited

namespace Trigger

variable {ε : Type}

/-! ### The steps -/

/-- What a program's end means: `Failure.commandFailed` unless it reports success. -/
def judge (program : String) (outcome : CommandOutcome) (w : World ε) :
    Except Failure Unit × World ε :=
  if outcome.success then (.ok (), w)
  else
    let w :=
      if outcome.stderr = "" then w
      else w.remark
        [{ level := .warn, component := .trigger, message := "apply command failed",
           fields := [("program", .text program), ("stderr", .text outcome.stderr)] }]
    (.error (.commandFailed program outcome.status), w)

/-- Run the apply command by `Host.run`, with the request path as its last argument. -/
def runCommand (t : Trigger) (host : Host ε) (w : World ε) : Except Failure Unit × World ε :=
  match t.applyCommand with
  | [] => (.error (.config "apply_command must name a program"), w)
  | program :: leading =>
    match w.machineStep (host.run program (leading ++ [t.requestPath])) with
    | (.error e, w) => (.error (.commandSpawn program e.message), w)
    | (.ok outcome, w) => judge program outcome w

/-- Write the descriptor by `AtomicWrite.run`, and then run the apply command on it by `runCommand`.
    -/
def apply (t : Trigger) (host : Host ε) (d : Descriptor) (w : World ε) :
    Except Failure Unit × World ε :=
  match AtomicWrite.run w.files t.requestPath (d.bytes t.requestTable) with
  | (.error e, files) => (.error e, { w with files })
  | (.ok (), files) =>
    let w := { w with files }
    t.runCommand host <| w.remark
      [{ level := .debug, component := .trigger, message := "request descriptor written",
         fields := [("path", .text t.requestPath)] }]

/-! ### The operation -/

/-- The name of the operation in the log. -/
def operationName : String := "trigger_session"

/-- The operation `operationName` of a session reaches a phase. -/
def operation (session : SessionName) (phase : Log.Phase) : Log.Event :=
  .operation
    { component := .trigger, name := operationName, phase, fields := [Log.sessionField session] }

/-- Hand a session to the producer by `apply`, and tell about it from the start of the `operation`
    to its end. -/
def trigger (t : Trigger) (host : Host ε) (d : Descriptor) (w : World ε) :
    Except Failure Unit × World ε :=
  let (start, w) := w.outsideStep host.now
  let (result, w) := t.apply host d (w.tell (operation d.session .start))
  let (stop, w) := w.outsideStep host.now
  let millis := (stop.since start).toMillis
  let phase : Log.Phase := match result with
    | .ok () => .finish millis
    | .error e => .fail millis e
  (result, w.tell (operation d.session phase))

end Trigger

end FlowDump
