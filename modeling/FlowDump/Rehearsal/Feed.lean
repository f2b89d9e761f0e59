import FlowDump.Rehearsal.Stage

/-!
# Playing notifications

* `Stage.nextEvent` — one step of the feed for each wait.
* `Stage.readState` — the record of the session as the steps have left it.
-/

namespace FlowDump.Rehearsal.Stage

/-- Play what a step does besides answering. -/
def play (step : Step) (s : Stage) : Stage :=
  let s := s.advance step.advance
  { s with
    interrupted := s.interrupted || step.interrupt
    feed := { s.feed with
      record? := step.record?.getD s.feed.record?
      readError? := step.readError?.or s.feed.readError? } }

/-- What a step answers. -/
def answerOf (step : Step) : Except Failure (Option Notification) :=
  match step.error? with
  | some message => .error (.store "next_event" message)
  | none => .ok step.event?

/-- A wait after the last step. -/
def idle (maxWait : Duration) (s : Stage) : Stage :=
  let s := { s with feed := { s.feed with idle := s.feed.idle + 1 } }
  match s.feed.ending with
  | .expire => s.advance maxWait
  | .interrupt => { s with interrupted := true }

/-- Wait for a notification.  A wait after the last step is counted and not taken down. -/
def nextEvent (maxWait : Duration) : StateM Stage (Answer (Option Notification)) := fun s =>
  match s.feed.steps with
  | [] => ({ result := .ok none }, s.idle maxWait)
  | step :: steps =>
    let calls := .nextEvent maxWait :: s.feed.calls
    ({ result := answerOf step }, play step { s with feed := { s.feed with steps, calls } })

/-- Read the record of a session. -/
def readState (session : SessionName) : StateM Stage (Answer (Option StateRecord)) := fun s =>
  let s := { s with feed := { s.feed with calls := .readState session :: s.feed.calls } }
  match s.feed.readError? with
  | some message =>
    ({ result := .error (.store "read_state" message) },
      { s with feed := { s.feed with readError? := none } })
  | none => ({ result := .ok (s.feed.record?.map StateRecord.ofFields) }, s)

end FlowDump.Rehearsal.Stage
