import FlowDump.Artifact
import FlowDump.Trigger
import FlowDump.Watch

/-!
# Dumps

One session from end to end: trigger it, wait for its end, decode its artifact.

* `Dump.Request` — what the operator asks for.
* `Dump.Report` — what came of it.
* `Dump.run` — the whole run.  A failed session is a failure; a wait that timed out or was
  interrupted is not, and its report holds what was seen last.
* `Dump.checkRole` — whether the host is of the kind that dumps flows.
-/

namespace FlowDump.Dump

variable {ε : Type}

/-! ### Requests and reports -/

/-- What the operator asks for. -/
structure Request where
  flowState : Bool
  maxFlows : UInt32
  timeoutSeconds : UInt64
  /-- Only tell where the artifact is. -/
  fileOnly : Bool
  deriving DecidableEq, Repr, Inhabited

/-- What came of a dump. -/
structure Report where
  session : SessionName
  outcome : Watch.Outcome
  /-- The decoded records, none if only the path was asked for. -/
  records : List Flow.Record
  deriving Repr, Inhabited

/-- A dump: its result, or none if the wait was still going on after the turns it was given, the
    turns of the wait, and the world after it. -/
structure Run (ε : Type) where
  result? : Option (Except Failure Report)
  turns : List Watch.Turn
  world : World ε

/-! ### The role of the host -/

/-- The host has to have the expected role. -/
def checkRole (expected : String) (found? : Option String) : Except Failure Unit :=
  if found? = some expected then .ok ()
  else .error (.wrongDeviceRole expected (found?.getD "unset"))

/-! ### The wait as an operation -/

/-- The name of the wait in the log. -/
def operationName : String := "wait_for_session"

/-- The wait for a session, `operationName` in the log, reaches a phase. -/
def operation (session : SessionName) (phase : Log.Phase) (fields : Log.Fields := []) :
    Log.Event :=
  .operation
    { component := .dump, name := operationName, phase,
      fields := Log.sessionField session :: fields }

/-- The times of the wait for a `Request`. -/
def options (request : Request) (grace pollInterval : Duration) : Watch.Options :=
  { timeout := .ofSeconds request.timeoutSeconds, grace, pollInterval }

/-- The remark about a wait that ended before the session did. -/
def warning (session : SessionName) (outcome : Watch.Outcome) : List Log.Note :=
  match outcome.status with
  | .timedOut =>
    [{ level := .warn, component := .dump, message := "flow dump timed out",
       fields := [Log.sessionField session, ("state", .text (describeState outcome.state?))] }]
  | .interrupted =>
    [{ level := .warn, component := .dump, message := "flow dump interrupted",
       fields := [Log.sessionField session] }]
  | .completed => []
  | .failed => []

/-! ### The run -/

/-- The `Report` of a session whose wait has ended: a failed session is a failure, and for any other
    outcome the artifact is decoded by `Artifact.decode`, unless only its path is wanted. -/
def conclude (request : Request) (session : SessionName) (outcome : Watch.Outcome)
    (w : World ε) : Except Failure Report × World ε :=
  if outcome.status = .failed then (.error (.sessionFailed session), w)
  else
    let w := w.remark (warning session outcome)
    if request.fileOnly then (.ok { session, outcome, records := [] }, w)
    else
      let decoded := Artifact.decode w.files outcome.path?
      (.ok { session, outcome, records := decoded.records }, w.remark decoded.notes)

/-- Wait for a session that was triggered by `Watch.wait`, and report on it by `conclude`.  A wait
    that fails is told of no further. -/
def await (host : Host ε) (request : Request) (grace pollInterval : Duration)
    (session : SessionName) (limit : Nat) (w : World ε) : Run ε :=
  let (start, w) := w.outsideStep host.now
  let w := w.tell (operation session .start)
  let wait := Watch.wait host (options request grace pollInterval) session limit w
  match wait.result? with
  | none => { result? := none, turns := wait.turns, world := wait.world }
  | some (.error e) => { result? := some (.error e), turns := wait.turns, world := wait.world }
  | some (.ok outcome) =>
    let (stop, w) := wait.world.outsideStep host.now
    let w := w.tell (operation session (.finish (stop.since start).toMillis)
      [("status", .text outcome.status.name)])
    let (result, w) := conclude request session outcome w
    { result? := some result, turns := wait.turns, world := w }

/-- Trigger a session, wait for its end and decode its artifact; the wait takes at most `limit`
    turns. -/
def run (host : Host ε) (trigger : Trigger) (request : Request) (grace pollInterval : Duration)
    (limit : Nat) (w : World ε) : Run ε :=
  match Descriptor.check request.maxFlows request.timeoutSeconds with
  | .error e => { result? := some (.error e), turns := [], world := w }
  | .ok () =>
    let (identity, w) := w.outsideStep host.identity
    let descriptor : Descriptor :=
      { session := .generate identity, flowState := request.flowState,
        maxFlows := request.maxFlows, timeoutSeconds := request.timeoutSeconds }
    match trigger.trigger host descriptor w with
    | (.error e, w) => { result? := some (.error e), turns := [], world := w }
    | (.ok (), w) => await host request grace pollInterval descriptor.session limit w

end FlowDump.Dump
