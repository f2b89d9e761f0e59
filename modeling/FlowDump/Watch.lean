import FlowDump.Host

/-!
# Waiting for a session to end

A wait goes in turns.  Each turn looks at the interrupt flag, then at the clock, then waits for one
notification, and if that is about its own session reads the record anew.  A notification is a hint
and nothing more: what counts is the record at the time it is read.

* `Watch.Options` — timeout, grace and the longest single wait; `Options.deadlineAfter` is the end
  of a wait.
* `Watch.Outcome` — how a wait ended, with the last state and the last path that were seen.
* `Watch.turn` — one turn; `Watch.Turn` tells what was asked and answered in it.
* `Watch.wait` — turns until the wait ends, at most `limit` of them.
-/

namespace FlowDump.Watch

variable {ε : Type}

/-! ### Options and outcomes -/

/-- The times of a wait. -/
structure Options where
  /-- How long the producer may take. -/
  timeout : Duration
  /-- How long its last notice may be under way. -/
  grace : Duration
  /-- The longest single wait, after which the interrupt flag is looked at again. -/
  pollInterval : Duration
  deriving DecidableEq, Repr, Inhabited

/-- The end of a wait that starts at a given time: `timeout` and `grace` after it.  Where it does
    not fit there is none. -/
def Options.deadlineAfter (o : Options) (start : Instant) : Option Instant :=
  (o.timeout.add? o.grace).bind start.add?

/-- How a wait ended. -/
inductive Status where
  | completed
  | failed
  | timedOut
  | interrupted
  deriving DecidableEq, Repr, Inhabited

/-- The name of a status. -/
def Status.name : Status → String
  | completed => "Completed"
  | failed => "Failed"
  | timedOut => "TimedOut"
  | interrupted => "Interrupted"

/-- How a wait ended, and what was `Seen` last. -/
structure Outcome where
  status : Status
  state? : Option SessionState
  path? : Option String
  deriving DecidableEq, Repr, Inhabited

/-! ### What was seen so far -/

/-- The last state and the last path that records gave. -/
structure Seen where
  state? : Option SessionState := none
  path? : Option String := none
  deriving DecidableEq, Repr, Inhabited

/-- Take another `StateRecord` in: what it leaves out stays as it was. -/
def Seen.update (s : Seen) (r : StateRecord) : Seen :=
  { state? := r.state?.or s.state?, path? := r.path?.or s.path? }

/-- The outcome of a wait that ends now. -/
def Seen.outcome (s : Seen) (status : Status) : Outcome :=
  { status, state? := s.state?, path? := s.path? }

/-! ### Remarks -/

/-- A remark of the watcher about a session. -/
def note (level : Log.Level) (message : String) (session : SessionName)
    (fields : Log.Fields := []) : Log.Note :=
  { level, component := .watcher, message, fields := Log.sessionField session :: fields }

/-! ### Turns -/

/-- What was asked and answered in one turn. -/
inductive Turn where
  /-- The interrupt flag was set. -/
  | stopped
  /-- The clock had reached the deadline. -/
  | expired (now : Instant)
  /-- The channel was asked, with the clock as it was read if there is a deadline, and after an
      event of the session the store. -/
  | polled (now? : Option Instant) (maxWait : Duration)
      (event : Except Failure (Option Notification))
      (read? : Option (Except Failure (Option StateRecord)))

/-- What a `Turn` leads to: the wait has its result, or it goes on with what was `Seen`. -/
inductive Step where
  | done (result : Except Failure Outcome)
  | again (seen : Seen)

/-- What the clock leaves to do. -/
inductive Plan where
  | expire (now : Instant)
  | poll (now? : Option Instant) (maxWait : Duration)
  deriving DecidableEq, Repr

/-- Read the clock by `Host.now`, if there is a deadline, and see how long to wait. -/
def plan (host : Host ε) (deadline? : Option Instant) (pollInterval : Duration) (w : World ε) :
    Plan × World ε :=
  match deadline? with
  | none => (.poll none pollInterval, w)
  | some deadline =>
    let (now, w) := w.outsideStep host.now
    if deadline.toNanos ≤ now.toNanos then (.expire now, w)
    else (.poll (some now) (pollInterval.min (deadline.since now)), w)

/-- Look at a `StateRecord` that was read: a terminal one ends the wait, and any other one is taken
    in. -/
def observe (session : SessionName) (seen : Seen) (record : StateRecord) (w : World ε) :
    Step × World ε :=
  let seen := seen.update record
  match record.state? with
  | none => (.again seen, w)
  | some state =>
    let w := w.remark
      [note .debug "session state observed" session [("state", .text state.text)]]
    if state.isTerminal then
      (.done (.ok (seen.outcome (if state = .completed then .completed else .failed))), w)
    else (.again seen, w)

/-- Read the record of the session by `Host.readState` after an event of its own, and `observe` it.
    -/
def read (host : Host ε) (session : SessionName) (seen : Seen) (event : Notification)
    (w : World ε) : Except Failure (Option StateRecord) × Step × World ε :=
  let w := w.remark [note .trace "state change" session [("operation", .text event.operation)]]
  let (answer, w) := w.machineStep (host.readState session)
  let w := w.remark answer.notes
  match answer.result with
  | .error e => (answer.result, .done (.error e), w)
  -- the record was deleted in the meantime, which says nothing about the session
  | .ok none => (answer.result, .again seen, w)
  | .ok (some record) => (answer.result, observe session seen record w)

/-- Wait for one event by `Host.nextEvent`; one of the session is followed up by `read`. -/
def poll (host : Host ε) (session : SessionName) (seen : Seen) (now? : Option Instant)
    (maxWait : Duration) (w : World ε) : Turn × Step × World ε :=
  let (answer, w) := w.machineStep (host.nextEvent maxWait)
  let w := w.remark answer.notes
  match answer.result with
  | .error e => (.polled now? maxWait answer.result none, .done (.error e), w)
  | .ok none => (.polled now? maxWait answer.result none, .again seen, w)
  | .ok (some event) =>
    if event.key = session.text then
      let (record, step, w) := read host session seen event w
      (.polled now? maxWait answer.result (some record), step, w)
    else (.polled now? maxWait answer.result none, .again seen, w)

/-- One turn of a wait: the interrupt flag first, then the clock by `plan`, and then an event by
    `poll`. -/
def turn (host : Host ε) (deadline? : Option Instant) (pollInterval : Duration)
    (session : SessionName) (seen : Seen) (w : World ε) : Turn × Step × World ε :=
  let (stop, w) := w.outsideStep host.interrupted
  if stop then
    (.stopped, .done (.ok (seen.outcome .interrupted)),
      w.remark [note .debug "wait interrupted" session])
  else match plan host deadline? pollInterval w with
    | (.expire now, w) =>
      (.expired now, .done (.ok (seen.outcome .timedOut)),
        w.remark [note .debug "wait timed out" session])
    | (.poll now? maxWait, w) => poll host session seen now? maxWait w

/-! ### Whole waits -/

/-- A wait: its result, or none if it was still going on after the turns it was given, the turns it
    took, and the world after it. -/
structure Run (ε : Type) where
  result? : Option (Except Failure Outcome)
  turns : List Turn
  world : World ε

/-- Take turns until the wait ends, at most `limit` of them. -/
def loop (host : Host ε) (deadline? : Option Instant) (pollInterval : Duration)
    (session : SessionName) : (limit : Nat) → Seen → World ε → Run ε
  | 0, _, w => { result? := none, turns := [], world := w }
  | limit + 1, seen, w =>
    match turn host deadline? pollInterval session seen w with
    | (t, .done result, w) => { result? := some result, turns := [t], world := w }
    | (t, .again seen, w) =>
      let rest := loop host deadline? pollInterval session limit seen w
      { rest with turns := t :: rest.turns }

/-- Take turns after some that were taken before, the last of which comes first: `loop` as it is
    run.  However long the wait, nothing is left to do when its last turn has been taken. -/
def loopAfter (host : Host ε) (deadline? : Option Instant) (pollInterval : Duration)
    (session : SessionName) : (limit : Nat) → (taken : List Turn) → Seen → World ε → Run ε
  | 0, taken, _, w => { result? := none, turns := taken.reverse, world := w }
  | limit + 1, taken, seen, w =>
    match turn host deadline? pollInterval session seen w with
    | (t, .done result, w) =>
      { result? := some result, turns := (t :: taken).reverse, world := w }
    | (t, .again seen, w) => loopAfter host deadline? pollInterval session limit (t :: taken) seen w

/-- The turns that `loopAfter` was given stand in front of the others and change nothing else. -/
theorem loopAfter_eq (host : Host ε) (deadline? : Option Instant) (pollInterval : Duration)
    (session : SessionName) (limit : Nat) (taken : List Turn) (seen : Seen) (w : World ε) :
    loopAfter host deadline? pollInterval session limit taken seen w =
      { loop host deadline? pollInterval session limit seen w with
        turns :=
          taken.reverse ++ (loop host deadline? pollInterval session limit seen w).turns } := by
  induction limit generalizing taken seen w with
  | zero => simp [loopAfter, loop]
  | succ limit ih =>
    simp only [loopAfter, loop]
    split
    · simp
    · simp [ih]

/-- Wait for a session to end, by `loopAfter` from the moment at which the clock was read. -/
def wait (host : Host ε) (options : Options) (session : SessionName) (limit : Nat)
    (w : World ε) : Run ε :=
  -- the clock is read even where the deadline will not fit
  let (start, w) := w.outsideStep host.now
  loopAfter host (options.deadlineAfter start) options.pollInterval session limit [] {} w

/-- `wait` is `loop` from the moment at which the clock was read. -/
theorem wait_eq_loop (host : Host ε) (options : Options) (session : SessionName) (limit : Nat)
    (w : World ε) :
    wait host options session limit w =
      loop host (options.deadlineAfter (w.outsideStep host.now).1) options.pollInterval session
        limit {} (w.outsideStep host.now).2 := by
  simp [wait, loopAfter_eq]

end FlowDump.Watch
