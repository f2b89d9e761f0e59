import FlowDump.Files.Filesystem
import FlowDump.Log.Event
import FlowDump.State
import FlowDump.Time

/-!
# The host of a dump

Everything a dump meets outside itself, as functions on the state `ε` of the outside.

* `Machine ε` — the files and the rest of the outside.
* `Platform ε` — the clock, the interrupt flag, fresh identifiers and programs.
* `Host ε` — a platform with a notification channel and a state store.  Each of them may change
  the outside; programs, the channel and the store may also change files, as the producer of a
  dump does.
* `Answer` — what the channel or the store gives back, with its remarks for the log.
* `World ε` — a machine with a log: the state of a program that runs on a host.
-/

namespace FlowDump

/-- The files and the rest of what is outside the program. -/
structure Machine (ε : Type) where
  files : Filesystem
  outside : ε

/-- An answer of the channel or the store, and what there is to remark about it. -/
structure Answer (α : Type) where
  result : Except Failure α
  notes : List Log.Note := []

/-- What a finished program reported. -/
structure CommandOutcome where
  success : Bool
  /-- The exit status in words. -/
  status : String
  stderr : String
  deriving DecidableEq, Repr, Inhabited

/-- What the system of a host offers. -/
structure Platform (ε : Type) where
  /-- Read the clock. -/
  now : StateM ε Instant
  /-- Whether the wait has been asked to stop. -/
  interrupted : StateM ε Bool
  /-- An identifier that was never given before. -/
  identity : StateM ε Uuid
  /-- Run a program with its arguments and wait for its end. -/
  run : (program : String) → (arguments : List String) →
    StateM (Machine ε) (Except IoFailure CommandOutcome)

/-- The outside of a dump: a `Platform` with the channel of notifications and the store of records.
    -/
structure Host (ε : Type) extends Platform ε where
  /-- Wait so long at most for the next notification. -/
  nextEvent : Duration → StateM (Machine ε) (Answer (Option Notification))
  /-- Read the record of a session; there may be none. -/
  readState : SessionName → StateM (Machine ε) (Answer (Option StateRecord))

/-- Let the outside alone change. -/
def Machine.outsideStep {ε α : Type} (step : StateM ε α) : StateM (Machine ε) α := fun m =>
  let (a, outside) := step m.outside
  (a, { m with outside })

/-- The state of a program that runs on a host: the `Machine`, and what it has told about its work.
    -/
structure World (ε : Type) extends Machine ε where
  log : List Log.Event := []

namespace World

variable {ε : Type}

/-- Tell an event. -/
def tell (w : World ε) (e : Log.Event) : World ε :=
  { w with log := w.log ++ [e] }

/-- Tell remarks: each `Log.Note` is an event of its own. -/
def remark (w : World ε) (notes : List Log.Note) : World ε :=
  { w with log := w.log ++ notes.map .note }

/-- Let the outside alone change. -/
def outsideStep {α : Type} (w : World ε) (step : StateM ε α) : α × World ε :=
  let (a, outside) := step w.outside
  (a, { w with outside })

/-- Let the files and the outside change. -/
def machineStep {α : Type} (w : World ε) (step : StateM (Machine ε) α) : α × World ε :=
  let (a, machine) := step w.toMachine
  (a, { w with toMachine := machine })

end World

end FlowDump
