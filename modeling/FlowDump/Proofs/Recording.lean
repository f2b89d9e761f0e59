import FlowDump.Host

/-!
# Recording what a host is asked

Every host can be made to keep the calls that were made of it, each with its answer.  A program that
runs on the recording host does what it does on the host itself, so the calls it left behind are the
calls that the program makes.

* `Call` — one call with its answer.
* `World.along`, `Host.Keeps` — a world beside a list of what was kept so far, and a host that
  answers as another one does and keeps something of each call.
* `Host.recording` — the host that keeps the calls, the latest one last; `recording_keeps` says
  that it is one of those hosts.
* `World.keeping` — a world beside the calls that were made so far.
-/

namespace FlowDump

variable {ε α κ : Type}

/-! ### Calls -/

/-- One call of a `Host` and what it answered. -/
inductive Call where
  | now (answer : Instant)
  | interrupted (answer : Bool)
  | identity (answer : Uuid)
  | run (program : String) (arguments : List String) (answer : Except IoFailure CommandOutcome)
  | nextEvent (maxWait : Duration) (answer : Except Failure (Option Notification))
  | readState (session : SessionName) (answer : Except Failure (Option StateRecord))

/-- What the store answered, if the `Call` went there. -/
def Call.read? : Call → Option (Except Failure (Option StateRecord))
  | .readState _ answer => some answer
  | _ => none

/-! ### Hosts that keep something beside -/

namespace World

/-- A world beside what was kept so far. -/
def along (w : World ε) (kept : List κ) : World (ε × List κ) :=
  { files := w.files, outside := (w.outside, kept), log := w.log }

@[simp] theorem along_outside (w : World ε) (kept : List κ) :
    (w.along kept).outside = (w.outside, kept) := rfl

@[simp] theorem along_files (w : World ε) (kept : List κ) : (w.along kept).files = w.files := rfl

@[simp] theorem along_remark (w : World ε) (kept : List κ) (notes : List Log.Note) :
    (w.along kept).remark notes = (w.remark notes).along kept := rfl

@[simp] theorem along_tell (w : World ε) (kept : List κ) (e : Log.Event) :
    (w.along kept).tell e = (w.tell e).along kept := rfl

end World

/-- A step of the outside that answers as another one does and keeps something of its answer. -/
abbrev OutsideKeeps (step : StateM ε α) (beside : StateM (ε × List κ) α) (note : α → List κ) :
    Prop :=
  ∀ (w : World ε) (kept : List κ), (w.along kept).outsideStep beside =
    ((w.outsideStep step).1,
      (w.outsideStep step).2.along (kept ++ note (w.outsideStep step).1))

/-- A step of the machine that answers as another one does and keeps something of its answer. -/
abbrev MachineKeeps (step : StateM (Machine ε) α) (beside : StateM (Machine (ε × List κ)) α)
    (note : α → List κ) : Prop :=
  ∀ (w : World ε) (kept : List κ), (w.along kept).machineStep beside =
    ((w.machineStep step).1,
      (w.machineStep step).2.along (kept ++ note (w.machineStep step).1))

/-- A host that answers as another one does and keeps something of each `Call`.  What it keeps of
    the runs of programs is left open. -/
structure Host.Keeps (host : Host ε) (beside : Host (ε × List κ)) (note : Call → List κ) :
    Prop where
  now : OutsideKeeps host.now beside.now fun t => note (.now t)
  interrupted : OutsideKeeps host.interrupted beside.interrupted fun b => note (.interrupted b)
  identity : OutsideKeeps host.identity beside.identity fun u => note (.identity u)
  nextEvent : ∀ maxWait, MachineKeeps (host.nextEvent maxWait) (beside.nextEvent maxWait)
    fun answer => note (.nextEvent maxWait answer.result)
  readState : ∀ session, MachineKeeps (host.readState session) (beside.readState session)
    fun answer => note (.readState session answer.result)

/-! ### The recording host -/

/-- Keep the `Call` of a step of the outside alone. -/
def Call.noting (call : α → Call) (step : StateM ε α) : StateM (ε × List Call) α := fun kept =>
  let (a, outside) := step kept.1
  (a, outside, kept.2 ++ [call a])

/-- Keep the `Call` of a step that may change files as well. -/
def Call.notingMachine (call : α → Call) (step : StateM (Machine ε) α) :
    StateM (Machine (ε × List Call)) α := fun m =>
  let (a, machine) := step { files := m.files, outside := m.outside.1 }
  (a, { files := machine.files, outside := (machine.outside, m.outside.2 ++ [call a]) })

/-- The host that keeps each `Call`. -/
def Host.recording (host : Host ε) : Host (ε × List Call) where
  now := Call.noting .now host.now
  interrupted := Call.noting .interrupted host.interrupted
  identity := Call.noting .identity host.identity
  run program arguments :=
    Call.notingMachine (.run program arguments) (host.run program arguments)
  nextEvent maxWait :=
    Call.notingMachine (fun answer => .nextEvent maxWait answer.result) (host.nextEvent maxWait)
  readState session :=
    Call.notingMachine (fun answer => .readState session answer.result) (host.readState session)

/-! ### Worlds with their calls -/

/-- A world beside the calls that were made so far. -/
def World.keeping (w : World ε) (calls : List Call) : World (ε × List Call) :=
  { files := w.files, outside := (w.outside, calls), log := w.log }

@[simp] theorem World.keeping_outside (w : World ε) (calls : List Call) :
    (w.keeping calls).outside = (w.outside, calls) := rfl

/-- `Host.recording` keeps every call. -/
theorem Host.recording_keeps (host : Host ε) : host.Keeps host.recording fun call => [call] where
  now _ _ := rfl
  interrupted _ _ := rfl
  identity _ _ := rfl
  nextEvent _ _ _ := rfl
  readState _ _ _ := rfl

end FlowDump
