import FlowDump.Dump
import FlowDump.Proofs.Request
import FlowDump.Proofs.Session
import FlowDump.Proofs.Trigger
import FlowDump.Proofs.Watch.Rules

/-!
# One run, one session

A dump names one session, hands it over, and then waits for this session and no other.  Which of
the stages are reached depends on the request and on what became of the stage before.

* `Dump.named`, `Dump.handOver`, `Dump.settle` — the stages of a run; `run_refused`,
  `run_untriggered` and `run_handed` say how far a run gets.
* `handOver_recording`, `await_recording` — the calls that are made in each stage; `run_keeps` —
  a whole run on a host that keeps something.
* `Exchange` — calls among which the record of one session is read, each time after an event of
  this session and never otherwise.
* `AsksFor` — a file from which the consumer reads the descriptor of one session, with what was
  requested; `asksFor_bytes` says that the document of a descriptor is such a file.
* `OneSession` — what holds of a run whose request is in range, by its calls and by the runs of the
  apply command: among other things, its name is `SessionName.NamedAfter` the one identifier that it
  asked for, and the file that a run of the command finds `AsksFor` this session.
* `run_oneSession` — it holds of every such run, and other runs do nothing at all.
-/

namespace FlowDump

variable {ε κ : Type}

/-! ### What a call is about -/

namespace Call

/-- Whether a `Call` asks the channel or the store. -/
def asks : Call → Bool
  | .nextEvent .. => true
  | .readState .. => true
  | _ => false

/-- The identifier that was given, if the `Call` asked for one. -/
def identity? : Call → Option Uuid
  | .identity u => some u
  | _ => none

/-- Whether a `Call` has run a program. -/
def isRun : Call → Bool
  | .run .. => true
  | _ => false

/-- The failure of the channel or the store, if it was the answer to a `Call`. -/
def failure? : Call → Option Failure
  | .nextEvent _ (.error e) => some e
  | .readState _ (.error e) => some e
  | _ => none

end Call

namespace Dump

/-- A dump beside what was kept in it and before. -/
def Run.along (r : Run ε) (kept : List κ) : Run (ε × List κ) :=
  { result? := r.result?, turns := r.turns, world := r.world.along kept }

/-! ### The stages of a run -/

/-- What `Descriptor.check` lets a request ask for. -/
def Request.InRange (r : Request) : Prop := r.maxFlows ≠ 0 ∧ r.timeoutSeconds ≠ 0

/-- The session of a run, by `SessionName.generate`. -/
def named (host : Host ε) (w : World ε) : SessionName :=
  .generate (w.outsideStep host.identity).1

/-- What a `Request` asks of a session, as a `Descriptor`. -/
def descriptorOf (request : Request) (session : SessionName) : Descriptor :=
  { session, flowState := request.flowState, maxFlows := request.maxFlows,
    timeoutSeconds := request.timeoutSeconds }

/-- The session of a run is `named` and handed over by `Trigger.trigger`. -/
def handOver (host : Host ε) (trigger : Trigger) (request : Request) (w : World ε) :
    Except Failure Unit × World ε :=
  trigger.trigger host (descriptorOf request (named host w)) (w.outsideStep host.identity).2

/-- The world in which the start of the wait has been told. -/
def started (host : Host ε) (session : SessionName) (w : World ε) : World ε :=
  (w.outsideStep host.now).2.tell (operation session .start)

/-- The wait of a run, by `Watch.wait`. -/
def awaited (host : Host ε) (request : Request) (grace pollInterval : Duration)
    (session : SessionName) (limit : Nat) (w : World ε) : Watch.Run ε :=
  Watch.wait host (options request grace pollInterval) session limit (started host session w)

/-- What `Dump.await` makes of a wait that has started at some time. -/
def settle (host : Host ε) (request : Request) (session : SessionName) (start : Instant)
    (wait : Watch.Run ε) : Run ε :=
  match wait.result? with
  | none => { result? := none, turns := wait.turns, world := wait.world }
  | some (.error e) => { result? := some (.error e), turns := wait.turns, world := wait.world }
  | some (.ok outcome) =>
    let (stop, w) := wait.world.outsideStep host.now
    let w := w.tell (operation session (.finish (stop.since start).toMillis)
      [("status", .text outcome.status.name)])
    let (result, w) := conclude request session outcome w
    { result? := some result, turns := wait.turns, world := w }

section

variable {host : Host ε} {trigger : Trigger} {request : Request} {grace pollInterval : Duration}
  {limit : Nat} {w : World ε}

theorem check_of_inRange (inRange : request.InRange) :
    Descriptor.check request.maxFlows request.timeoutSeconds = .ok () := by
  simp [Descriptor.check, inRange.1, inRange.2]

/-- A request out of range is refused by `Dump.run` on every host, and nothing is done. -/
theorem run_refused (trigger : Trigger) (grace pollInterval : Duration) (limit : Nat)
    (outOfRange : ¬ request.InRange) :
    ∃ message, ∀ {ε : Type} (host : Host ε) (w : World ε),
      run host trigger request grace pollInterval limit w =
        { result? := some (.error (.invalidInput message)), turns := [], world := w } := by
  by_cases flows : request.maxFlows = 0
  · refine ⟨"max_flows must be a positive integer", fun host w => ?_⟩
    simp [run, Descriptor.check, flows]
  · have seconds : request.timeoutSeconds = 0 :=
      Decidable.byContradiction fun seconds => outOfRange ⟨flows, seconds⟩
    refine ⟨"timeout must be a positive integer", fun host w => ?_⟩
    simp [run, Descriptor.check, flows, seconds]

/-- Where `handOver` fails, `Dump.run` ends with its failure. -/
theorem run_untriggered (inRange : request.InRange) {e : Failure} {w' : World ε}
    (handed : handOver host trigger request w = (.error e, w')) :
    run host trigger request grace pollInterval limit w =
      { result? := some (.error e), turns := [], world := w' } := by
  have step : trigger.trigger host (descriptorOf request (named host w))
    (w.outsideStep host.identity).2 = (.error e, w') := handed
  simp only [descriptorOf, named] at step
  simp only [run, check_of_inRange inRange, step]

/-- Where `handOver` succeeds, `Dump.run` waits for the session that was handed over. -/
theorem run_handed (inRange : request.InRange) {w' : World ε}
    (handed : handOver host trigger request w = (.ok (), w')) :
    run host trigger request grace pollInterval limit w =
      await host request grace pollInterval (named host w) limit w' := by
  have step : trigger.trigger host (descriptorOf request (named host w))
    (w.outsideStep host.identity).2 = (.ok (), w') := handed
  simp only [descriptorOf, named] at step
  simp only [run, check_of_inRange inRange, step, named]

/-- `Dump.await` is what `settle` makes of the wait of the session. -/
theorem await_eq (host : Host ε) (request : Request) (grace pollInterval : Duration)
    (session : SessionName) (limit : Nat) (w : World ε) :
    await host request grace pollInterval session limit w =
      settle host request session (w.outsideStep host.now).1
        (awaited host request grace pollInterval session limit w) :=
  rfl

end

/-! ### The calls of the stages -/

/-- The calls up to the moment at which the session has been handed over, or was not taken. -/
def opening (host : Host ε) (trigger : Trigger) (request : Request) (w : World ε) : List Call :=
  (handOver host.recording trigger request (w.along [])).2.outside.2

/-- The run of the apply command in `handOver`, if it comes to that. -/
def ran (host : Host ε) (trigger : Trigger) (request : Request) (w : World ε) :
    Option FlowDump.Run :=
  let descriptor := descriptorOf request (named host w)
  trigger.run? host descriptor (Trigger.started host descriptor (w.outsideStep host.identity).2)

/-- The calls after a wait: the clock is read once more unless the wait has failed. -/
def closing (host : Host ε) (wait : Watch.Run ε) : List Call :=
  match wait.result? with
  | some (.ok _) => [.now (wait.world.outsideStep host.now).1]
  | _ => []

/-- The calls from the moment at which the session was taken, up to the `closing`.  The clock is
    read twice at first, by the operation and by the wait. -/
def waiting (host : Host ε) (request : Request) (grace pollInterval : Duration)
    (session : SessionName) (limit : Nat) (w : World ε) : List Call :=
  let wait := awaited host request grace pollInterval session limit w
  .now (w.outsideStep host.now).1 :: .now ((started host session w).outsideStep host.now).1 ::
    (wait.turns.flatMap (Watch.Turn.calls session) ++ closing host wait)

section

variable (host : Host ε) (trigger : Trigger) (request : Request) (grace pollInterval : Duration)
  (session : SessionName) (limit : Nat) (w : World ε)

/-- The session is `named` after the same identifier on every host that answers as this one does. -/
theorem named_keeps {host : Host ε} {beside : Host (ε × List κ)} {note : Call → List κ}
    (keeps : host.Keeps beside note) (kept : List κ) :
    named beside (w.along kept) = named host w := by
  simp only [named, keeps.identity]

/-- `handOver` asks for an identifier, and then what the trigger asks. -/
theorem handOver_calls :
    handOver host.recording trigger request (w.along []) =
      ((handOver host trigger request w).1, (handOver host trigger request w).2.along
        (.identity (w.outsideStep host.identity).1 ::
          trigger.calls host (descriptorOf request (named host w))
            (w.outsideStep host.identity).2)) := by
  simp only [handOver, named_keeps w host.recording_keeps, host.recording_keeps.identity]
  exact trigger.trigger_recording ..

/-- On `Host.recording` the calls of `handOver` are kept: they are the `opening`. -/
theorem handOver_recording :
    handOver host.recording trigger request (w.along []) =
      ((handOver host trigger request w).1,
        (handOver host trigger request w).2.along (opening host trigger request w)) := by
  rw [opening, handOver_calls]
  rfl

/-- In the `opening` the apply command is run between two readings of the clock, if it comes to
    that. -/
theorem exists_opening_eq :
    ∃ start stop, opening host trigger request w =
      .identity (w.outsideStep host.identity).1 :: .now start ::
        ((ran host trigger request w).toList.map FlowDump.Run.call ++ [.now stop]) := by
  rw [opening, handOver_calls]
  exact ⟨_, _, rfl⟩

section Keeps

variable {host : Host ε} {beside : Host (ε × List κ)} {note : Call → List κ}

/-- `Dump.conclude` asks nothing of the outside. -/
theorem conclude_along (outcome : Watch.Outcome) (kept : List κ) :
    conclude request session outcome (w.along kept) =
      ((conclude request session outcome w).1,
        (conclude request session outcome w).2.along kept) := by
  unfold conclude
  split
  · rfl
  · dsimp only [World.along_remark]
    split <;> rfl

/-- `settle` beside what is kept makes the calls of `closing`. -/
theorem settle_keeps (keeps : host.Keeps beside note) (start : Instant) (wait : Watch.Run ε)
    (kept : List κ) :
    settle beside request session start (wait.along kept) =
      (settle host request session start wait).along
        (kept ++ (closing host wait).flatMap note) := by
  obtain ⟨result?, turns, world⟩ := wait
  match result? with
  | none => simp [settle, closing, Run.along, Watch.Run.along]
  | some (.error e) => simp [settle, closing, Run.along, Watch.Run.along]
  | some (.ok outcome) =>
    simp [settle, closing, Run.along, Watch.Run.along, keeps.now, conclude_along]

/-- `Dump.await` beside what is kept goes as it goes on the host, and makes the calls of `waiting`.
    -/
theorem await_keeps (keeps : host.Keeps beside note) (kept : List κ) :
    await beside request grace pollInterval session limit (w.along kept) =
      (await host request grace pollInterval session limit w).along
        (kept ++ (waiting host request grace pollInterval session limit w).flatMap note) := by
  have start : started beside session (w.along kept) =
      (started host session w).along (kept ++ note (.now (w.outsideStep host.now).1)) := by
    rw [started, keeps.now]
    rfl
  rw [await_eq, await_eq, awaited, start, keeps.now, Watch.wait_keeps keeps]
  refine (settle_keeps request session keeps _ (awaited host request grace pollInterval session
    limit w) _).trans ?_
  simp [waiting, awaited]

end Keeps

/-- On `Host.recording` the calls of the wait are kept. -/
theorem await_recording (kept : List Call) :
    await host.recording request grace pollInterval session limit (w.along kept) =
      (await host request grace pollInterval session limit w).along
        (kept ++ waiting host request grace pollInterval session limit w) := by
  rw [await_keeps request grace pollInterval session limit w host.recording_keeps,
    List.flatMap_singleton']

/-! ### Runs beside what is kept -/

section Keeps

variable {host : Host ε} {beside : Host (ε × List κ)} {note : Call → List κ}
  {noteRun : FlowDump.Run → List κ}

/-- `handOver` beside what is kept goes as it goes on the host. -/
theorem handOver_keeps (keeps : host.Keeps beside note) (runs : host.KeepsRuns beside noteRun) :
    ∃ start stop : Instant, ∀ kept, handOver beside trigger request (w.along kept) =
      ((handOver host trigger request w).1, (handOver host trigger request w).2.along
        (kept ++ note (.identity (w.outsideStep host.identity).1) ++ (note (.now start) ++
          (ran host trigger request w).toList.flatMap noteRun ++ note (.now stop)))) := by
  let descriptor := descriptorOf request (named host w)
  let begun := Trigger.started host descriptor (w.outsideStep host.identity).2
  refine ⟨((w.outsideStep host.identity).2.outsideStep host.now).1,
    ((trigger.apply host descriptor begun).2.outsideStep host.now).1, fun kept => ?_⟩
  simp only [handOver, named_keeps w keeps, keeps.identity]
  exact Trigger.trigger_keeps keeps runs ..

/-- `Dump.run` beside what is kept goes as it goes on the host, and keeps the same whatever was kept
    before. -/
theorem run_keeps (keeps : host.Keeps beside note) (runs : host.KeepsRuns beside noteRun)
    (trigger : Trigger) (request : Request) (grace pollInterval : Duration) (limit : Nat)
    (w : World ε) :
    ∃ later, ∀ kept, run beside trigger request grace pollInterval limit (w.along kept) =
      (run host trigger request grace pollInterval limit w).along (kept ++ later) := by
  by_cases inRange : request.InRange
  · obtain ⟨start, stop, beside_eq⟩ := handOver_keeps trigger request w keeps runs
    obtain ⟨handed, w', hand⟩ : ∃ handed w', handOver host trigger request w = (handed, w') :=
      ⟨_, _, rfl⟩
    rw [hand] at beside_eq
    -- what handing over keeps stands before what the wait keeps
    let opened := note (.identity (w.outsideStep host.identity).1) ++ (note (.now start) ++
      (ran host trigger request w).toList.flatMap noteRun ++ note (.now stop))
    cases handed with
    | error e =>
      refine ⟨opened, fun kept => ?_⟩
      rw [run_untriggered inRange hand, run_untriggered inRange (beside_eq kept), List.append_assoc]
      rfl
    | ok _ =>
      let waited := waiting host request grace pollInterval (named host w) limit w'
      refine ⟨opened ++ waited.flatMap note, fun kept => ?_⟩
      rw [run_handed inRange hand, run_handed inRange (beside_eq kept), named_keeps w keeps,
        await_keeps request grace pollInterval _ limit w' keeps]
      simp only [opened, waited, List.append_assoc]
  · obtain ⟨message, refused⟩ := run_refused trigger grace pollInterval limit inRange
    refine ⟨[], fun kept => ?_⟩
    rw [refused, refused, List.append_nil]
    rfl

end Keeps

/-! ### The runs of the stages -/

/-- On `Host.watching` the run of the apply command is kept. -/
theorem handOver_watching :
    handOver host.watching trigger request (w.along []) =
      ((handOver host trigger request w).1, (handOver host trigger request w).2.along
        (ran host trigger request w).toList) := by
  obtain ⟨start, stop, kept_eq⟩ :=
    handOver_keeps trigger request w host.watching_keeps host.watching_keepsRuns
  rw [kept_eq []]
  simp

/-- During `Dump.await` no program is run. -/
theorem await_watching (kept : List FlowDump.Run) :
    await host.watching request grace pollInterval session limit (w.along kept) =
      (await host request grace pollInterval session limit w).along kept := by
  rw [await_keeps request grace pollInterval session limit w host.watching_keeps,
    List.flatMap_eq_nil_iff.mpr fun _ _ => rfl, List.append_nil]

end

/-! ### The calls of one session -/

/-- Calls among which the record of one session is read, each time right after an event of this
    session, and after every such event. -/
inductive Exchange (session : SessionName) : List Call → Prop where
  | nil : Exchange session []
  /-- A call of something else than the channel and the store. -/
  | aside {c : Call} {rest : List Call} (aside : c.asks = false) (later : Exchange session rest) :
      Exchange session (c :: rest)
  /-- The channel brings no event of the session, or fails. -/
  | unread {answer : Except Failure (Option Notification)} {rest : List Call}
      (maxWait : Duration)
      (not_own : ∀ event, answer = .ok (some event) → event.key ≠ session.text)
      (later : Exchange session rest) : Exchange session (.nextEvent maxWait answer :: rest)
  | read {event : Notification} {rest : List Call} (maxWait : Duration)
      (own : event.key = session.text) (answer : Except Failure (Option StateRecord))
      (later : Exchange session rest) :
      Exchange session
        (.nextEvent maxWait (.ok (some event)) :: .readState session answer :: rest)

namespace Exchange

variable {session : SessionName}

theorem append {calls later : List Call} (h : Exchange session calls)
    (h' : Exchange session later) : Exchange session (calls ++ later) := by
  induction h with
  | nil => exact h'
  | aside aside _ ih => exact .aside aside ih
  | unread maxWait not_own _ ih => exact .unread maxWait not_own ih
  | read maxWait own answer _ ih => exact .read maxWait own answer ih

theorem of_aside {calls : List Call} (h : ∀ c ∈ calls, c.asks = false) :
    Exchange session calls := by
  induction calls with
  | nil => exact .nil
  | cons c rest ih =>
    rw [List.forall_mem_cons] at h
    exact .aside h.1 (ih h.2)

end Exchange

/-- The calls of a turn are an `Exchange` with one session. -/
theorem exchange_of_leads {session : SessionName} {seen : Watch.Seen} {t : Watch.Turn}
    {step : Watch.Step} (h : Watch.Turn.Leads session seen t step) :
    Exchange session (t.calls session) := by
  -- the flag and the clock are looked at before the channel is asked, and concern no session
  have looks : ∀ now? : Option Instant,
      Exchange session (.interrupted false :: (now?.map Call.now).toList) := by
    intro now?
    apply Exchange.of_aside
    cases now? <;> simp [Call.asks]
  cases h with
  | stopped => exact .aside rfl .nil
  | expired now => exact .aside rfl (.aside rfl .nil)
  | channelFails now? maxWait e => exact (looks now?).append (.unread maxWait nofun .nil)
  | silence now? maxWait => exact (looks now?).append (.unread maxWait nofun .nil)
  | otherKey now? maxWait event key_ne =>
    refine (looks now?).append (.unread maxWait ?_ .nil)
    rintro _ ⟨⟩
    exact key_ne
  | storeFails now? maxWait event key_eq e =>
    exact (looks now?).append (.read maxWait key_eq _ .nil)
  | noRecord now? maxWait event key_eq =>
    exact (looks now?).append (.read maxWait key_eq _ .nil)
  | goesOn now? maxWait event key_eq record not_terminal =>
    exact (looks now?).append (.read maxWait key_eq _ .nil)
  | ends now? maxWait event key_eq record state state_eq terminal =>
    exact (looks now?).append (.read maxWait key_eq _ .nil)

/-- The calls of a chain of turns are an `Exchange` with one session. -/
theorem exchange_of_follows {session : SessionName} {seen : Watch.Seen} {turns : List Watch.Turn}
    {result? : Option (Except Failure Watch.Outcome)}
    (h : Watch.Follows session seen turns result?) :
    Exchange session (turns.flatMap (Watch.Turn.calls session)) := by
  induction h with
  | pending seen => exact .nil
  | last step => simpa using exchange_of_leads step
  | next step tail ih =>
    rw [List.flatMap_cons]
    exact (exchange_of_leads step).append ih

/-- A chain of turns that ends with a failure ends with the `Call` that failed. -/
theorem failure_of_follows {session : SessionName} {seen : Watch.Seen} {turns : List Watch.Turn}
    {e : Failure} (h : Watch.Follows session seen turns (some (.error e))) :
    ∃ c, (turns.flatMap (Watch.Turn.calls session)).getLast? = some c ∧ c.failure? = some e := by
  obtain ⟨before, earlier, t, rfl, step⟩ := h.exists_last
  -- only two turns end with a failure, and each of them ends with the call that failed
  cases step with
  | channelFails now? maxWait e =>
    exact ⟨.nextEvent maxWait (.error e), by simp [Watch.Turn.calls, Watch.Turn.asks], rfl⟩
  | storeFails now? maxWait event key_eq e =>
    exact ⟨.readState session (.error e), by simp [Watch.Turn.calls, Watch.Turn.asks], rfl⟩

/-- A turn asks for no identifier and runs no program. -/
theorem identity?_of_turn {session : SessionName} {t : Watch.Turn} {c : Call}
    (h : c ∈ t.calls session) : c.identity? = none ∧ c.isRun = false := by
  cases t with
  | stopped =>
    obtain rfl : c = .interrupted true := by
      simpa [Watch.Turn.calls, Watch.Turn.looks, Watch.Turn.asks] using h
    exact ⟨rfl, rfl⟩
  | expired now =>
    obtain rfl | rfl : c = .interrupted false ∨ c = .now now := by
      simpa [Watch.Turn.calls, Watch.Turn.looks, Watch.Turn.asks] using h
    all_goals exact ⟨rfl, rfl⟩
  | polled now? maxWait event read? =>
    obtain rfl | ⟨now, -, rfl⟩ | rfl | ⟨answer, -, rfl⟩ : c = .interrupted false ∨
        (∃ now, now? = some now ∧ Call.now now = c) ∨ c = .nextEvent maxWait event ∨
        (∃ answer, read? = some answer ∧ Call.readState session answer = c) := by
      simpa [Watch.Turn.calls, Watch.Turn.looks, Watch.Turn.asks] using h
    all_goals exact ⟨rfl, rfl⟩

section

variable (host : Host ε) (trigger : Trigger) (request : Request) (grace pollInterval : Duration)
  (session : SessionName) (limit : Nat) (w : World ε)

/-- In `closing` nothing is done but reading the clock. -/
theorem exists_now_of_closing {wait : Watch.Run ε} {c : Call} (h : c ∈ closing host wait) :
    ∃ t, c = .now t := by
  unfold closing at h
  split at h
  · exact ⟨_, List.mem_singleton.mp h⟩
  · cases h

/-- The calls of `waiting` are an `Exchange` with its session. -/
theorem exchange_waiting :
    Exchange session (waiting host request grace pollInterval session limit w) := by
  refine .aside rfl (.aside rfl (.append (exchange_of_follows (Watch.wait_follows ..)) ?_))
  refine .of_aside fun c h => ?_
  obtain ⟨t, rfl⟩ := exists_now_of_closing host h
  rfl

/-- In `waiting` no identifier is asked for and no program is run. -/
theorem identity?_of_waiting {c : Call}
    (h : c ∈ waiting host request grace pollInterval session limit w) :
    c.identity? = none ∧ c.isRun = false := by
  rcases List.mem_cons.mp h with rfl | h
  · exact ⟨rfl, rfl⟩
  rcases List.mem_cons.mp h with rfl | h
  · exact ⟨rfl, rfl⟩
  rcases List.mem_append.mp h with h | h
  · obtain ⟨t, -, h⟩ := List.mem_flatMap.mp h
    exact identity?_of_turn h
  · obtain ⟨t, rfl⟩ := exists_now_of_closing host h
    exact ⟨rfl, rfl⟩

/-- In the `opening` one identifier is asked for, and what is run is what is kept as its run;
    neither the channel nor the store is asked. -/
theorem opening_spec :
    (opening host trigger request w).filterMap Call.identity? =
        [(w.outsideStep host.identity).1] ∧
      (opening host trigger request w).filter Call.isRun =
        (ran host trigger request w).toList.map FlowDump.Run.call ∧
      ∀ c ∈ opening host trigger request w, c.asks = false := by
  obtain ⟨start, stop, opening_eq⟩ := exists_opening_eq host trigger request w
  rw [opening_eq]
  cases ran host trigger request w with
  | none => exact ⟨rfl, rfl, by simp [Call.asks]⟩
  | some r => exact ⟨rfl, rfl, by simp [Call.asks, FlowDump.Run.call]⟩

/-- The run of the apply command finds the `Descriptor.bytes` of the session of the run. -/
theorem ran_spec {r : FlowDump.Run} (h : ran host trigger request w = some r) :
    r.files.readFile trigger.requestPath =
        .ok ((descriptorOf request (named host w)).bytes trigger.requestTable) ∧
      ∃ leading, trigger.applyCommand = r.program :: leading ∧
        r.arguments = leading ++ [trigger.requestPath] := by
  unfold ran at h
  obtain ⟨written, asked⟩ := Trigger.run?_eq_some h
  exact ⟨AtomicWrite.readFile_of_run written, asked⟩

/-- Where `Dump.conclude` fails, the session has failed. -/
theorem conclude_error {outcome : Watch.Outcome} {e : Failure}
    (h : (conclude request session outcome w).1 = .error e) : e = .sessionFailed session := by
  unfold conclude at h
  split at h
  · cases h
    rfl
  · dsimp only at h
    split at h <;> cases h

/-- Where `Dump.conclude` reports, it reports on the session. -/
theorem conclude_ok {outcome : Watch.Outcome} {report : Report}
    (h : (conclude request session outcome w).1 = .ok report) : report.session = session := by
  unfold conclude at h
  split at h
  · cases h
  · dsimp only at h
    split at h
    · cases h
      rfl
    · cases h
      rfl

end

/-! ### The theorem -/

/-- How a run of a session can end, by what handing the session over came to and by the calls of the
    run. -/
inductive Ending (session : SessionName) (handed : Except Failure Unit) (calls : List Call)
    (limit : Nat) (turns : List Watch.Turn) : Option (Except Failure Report) → Prop where
  /-- The session was not taken. -/
  | untaken (e : Failure) (failed : handed = .error e) :
      Ending session handed calls limit turns (some (.error e))
  /-- The last call was one of the channel or the store, and failed. -/
  | unanswered (c : Call) (e : Failure) (taken : handed = .ok ())
      (last : calls.getLast? = some c) (failed : c.failure? = some e) :
      Ending session handed calls limit turns (some (.error e))
  | sessionFailed (taken : handed = .ok ()) :
      Ending session handed calls limit turns (some (.error (.sessionFailed session)))
  | reported (report : Report) (taken : handed = .ok ()) (session_eq : report.session = session) :
      Ending session handed calls limit turns (some (.ok report))
  /-- The wait is still going on. -/
  | pending (taken : handed = .ok ()) (all : turns.length = limit) :
      Ending session handed calls limit turns none

/-- `Dump.await` ends in one of the ways that `Ending` lists. -/
theorem await_ending {handed : Except Failure Unit} (taken : handed = .ok ()) (host : Host ε)
    (request : Request) (grace pollInterval : Duration) (session : SessionName) (limit : Nat)
    (opened : List Call) (w : World ε) :
    Ending session handed
      (opened ++ waiting host request grace pollInterval session limit w) limit
      (await host request grace pollInterval session limit w).turns
      (await host request grace pollInterval session limit w).result? := by
  have chain := Watch.wait_follows host (options request grace pollInterval) session limit
    (started host session w)
  have length := Watch.length_turns_wait host (options request grace pollInterval) session limit
    (started host session w)
  rw [await_eq, waiting, awaited]
  generalize Watch.wait host (options request grace pollInterval) session limit
    (started host session w) = wait at chain length
  obtain ⟨result?, turns, world⟩ := wait
  match result? with
  | none => exact .pending taken (length rfl)
  | some (.error e) =>
    -- nothing is asked after the call that failed, not even the clock
    obtain ⟨c, last, failed⟩ := failure_of_follows chain
    refine .unanswered c e taken ?_ failed
    simp only [closing, List.append_nil]
    rw [List.getLast?_append, List.getLast?_cons, List.getLast?_cons, last]
    rfl
  | some (.ok outcome) =>
    simp only [settle]
    generalize hc : conclude request session outcome _ = concluded
    obtain ⟨result, last⟩ := concluded
    cases result with
    | error e =>
      obtain rfl := conclude_error request session _ (congrArg Prod.fst hc)
      exact .sessionFailed taken
    | ok report =>
      have session_eq := conclude_ok request session _ (congrArg Prod.fst hc)
      exact .reported report taken session_eq

/-- Bytes that ask for a session as a request does: they are a document with an entry of four texts
    under the key of the table and the session, and `Request.read?` finds in it what was requested
    where the table has no colon. -/
structure AsksFor (session : SessionName) (request : Request) (table : String)
    (bytes : List UInt8) : Prop where
  document : FlowDump.Request.parse? bytes = some
    (.array [.object
      [(table ++ ":" ++ session.text, .object
          [("type", .string "dump"),
            ("flow_state", .string (if request.flowState then "true" else "false")),
            ("max_flows", .string (toString request.maxFlows.toNat)),
            ("timeout", .string (toString request.timeoutSeconds.toNat))]),
        ("OP", .string "SET")]])
  consumed : ':' ∉ table.toList →
    (FlowDump.Request.parse? bytes).bind FlowDump.Request.read? = some
      (table, { session, flowState := request.flowState, maxFlows := request.maxFlows,
                timeoutSeconds := request.timeoutSeconds })

/-- The bytes of `descriptorOf` ask for the session that it describes. -/
theorem asksFor_bytes (session : SessionName) (request : Request) (table : String) :
    AsksFor session request table ((descriptorOf request session).bytes table) where
  document := by
    rw [FlowDump.Request.parse?_bytes, Descriptor.document_eq]
    rfl
  consumed noColon := by
    rw [FlowDump.Request.parse?_bytes, Option.bind_some,
      FlowDump.Request.read?_document _ noColon]
    rfl

/-- What holds of a run whose request is in range: `calls` are the calls of the outside that it
    made, and `runs` the runs of programs with the files that they found. -/
structure OneSession (host : Host ε) (trigger : Trigger) (request : Request) (limit : Nat)
    (w : World ε) (run : Run ε) (calls : List Call) (runs : List FlowDump.Run) : Prop where
  /-- One identifier is asked for. -/
  identity : calls.filterMap Call.identity? = [(w.outsideStep host.identity).1]
  /-- The session is named after it. -/
  name : ∃ digits, (named host w).NamedAfter (w.outsideStep host.identity).1 digits
  ran : calls.filter Call.isRun = runs.map FlowDump.Run.call
  /-- The apply command finds a document that asks for this session with what was requested. -/
  found : ∀ r ∈ runs, ∃ bytes, r.files.readFile trigger.requestPath = .ok bytes ∧
    AsksFor (named host w) request trigger.requestTable bytes
  /-- It is given the path of the descriptor as its last argument. -/
  asked : ∀ r ∈ runs, ∃ leading, trigger.applyCommand = r.program :: leading ∧
    r.arguments = leading ++ [trigger.requestPath]
  /-- Before the session has been handed over neither the channel nor the store is asked. -/
  opened : opening host trigger request w <+: calls ∧
    ∀ c ∈ opening host trigger request w, c.asks = false
  /-- Where it was not taken nothing else is done. -/
  untaken : ∀ e, (handOver host trigger request w).1 = .error e →
    calls = opening host trigger request w
  /-- Afterwards the record of this session is read, each time after an event of its own. -/
  exchange : Exchange (named host w) calls
  ending : Ending (named host w) (handOver host trigger request w).1 calls limit run.turns
    run.result?

section

variable {host : Host ε} {trigger : Trigger} {request : Request} {w w' : World ε}

/-- A run whose session was not taken is of `OneSession`. -/
theorem oneSession_untaken {e : Failure} (hand : handOver host trigger request w = (.error e, w'))
    (limit : Nat) :
    OneSession host trigger request limit w
      { result? := some (.error e), turns := [], world := w' }
      (opening host trigger request w) (ran host trigger request w).toList := by
  obtain ⟨identity, ran, opened⟩ := opening_spec host trigger request w
  have found := fun r h => ran_spec host trigger request w (r := r) (Option.mem_toList.mp h)
  exact
    { identity, name := ⟨_, SessionName.generate_namedAfter _⟩, ran
      found := fun r h => ⟨_, (found r h).1, asksFor_bytes ..⟩, asked := fun r h => (found r h).2
      opened := ⟨List.prefix_refl _, opened⟩, untaken := fun _ _ => rfl
      exchange := .of_aside opened, ending := .untaken e (congrArg Prod.fst hand) }

/-- A run that waits for its session is of `OneSession`. -/
theorem oneSession_taken (hand : handOver host trigger request w = (.ok (), w'))
    (grace pollInterval : Duration) (limit : Nat) :
    OneSession host trigger request limit w
      (await host request grace pollInterval (named host w) limit w')
      (opening host trigger request w ++
        waiting host request grace pollInterval (named host w) limit w')
      (ran host trigger request w).toList := by
  obtain ⟨identity, ran, opened⟩ := opening_spec host trigger request w
  have found := fun r h => ran_spec host trigger request w (r := r) (Option.mem_toList.mp h)
  -- the wait asks for no identifier and runs nothing, so the opening has the only ones
  have others := fun c => identity?_of_waiting host request grace pollInterval (named host w)
    limit w' (c := c)
  have unnamed : (waiting host request grace pollInterval (named host w) limit w').filterMap
      Call.identity? = [] :=
    List.filterMap_eq_nil_iff.mpr fun c h => (others c h).1
  have unrun : (waiting host request grace pollInterval (named host w) limit w').filter
      Call.isRun = [] :=
    List.filter_eq_nil_iff.mpr fun c h => by simp [others c h]
  exact
    { identity := by rw [List.filterMap_append, identity, unnamed, List.append_nil]
      name := ⟨_, SessionName.generate_namedAfter _⟩
      ran := by rw [List.filter_append, ran, unrun, List.append_nil]
      found := fun r h => ⟨_, (found r h).1, asksFor_bytes ..⟩, asked := fun r h => (found r h).2
      opened := ⟨List.prefix_append _ _, opened⟩
      untaken := fun e failed => by rw [hand] at failed; cases failed
      exchange := (Exchange.of_aside opened).append (exchange_waiting ..)
      ending := await_ending (congrArg Prod.fst hand) .. }

end

/-- **One run, one session.**  A run whose request is `InRange` names one session, hands it over
    with what was requested, and reads the record of this session and no other, once it has been
    taken.  A run with another request is refused and does nothing at all.  The calls and the runs
    are those that are kept on a host that keeps them. -/
theorem run_oneSession (host : Host ε) (trigger : Trigger) (request : Request)
    (grace pollInterval : Duration) (limit : Nat) (w : World ε) :
    ∃ calls runs,
      run host.recording trigger request grace pollInterval limit (w.along []) =
        (run host trigger request grace pollInterval limit w).along calls ∧
      run host.watching trigger request grace pollInterval limit (w.along []) =
        (run host trigger request grace pollInterval limit w).along runs ∧
      (request.InRange →
        OneSession host trigger request limit w
          (run host trigger request grace pollInterval limit w) calls runs) ∧
      (¬ request.InRange → calls = [] ∧ runs = [] ∧
        ∃ message, run host trigger request grace pollInterval limit w =
          { result? := some (.error (.invalidInput message)), turns := [], world := w }) := by
  by_cases inRange : request.InRange
  · obtain ⟨handed, w', hand⟩ : ∃ handed w', handOver host trigger request w = (handed, w') :=
      ⟨_, _, rfl⟩
    have recorded := handOver_recording host trigger request w
    have watched := handOver_watching host trigger request w
    rw [hand] at recorded watched
    -- a session that was not taken is not waited for
    cases handed with
    | error e =>
      rw [run_untriggered inRange hand, run_untriggered inRange recorded,
        run_untriggered inRange watched]
      exact ⟨_, _, rfl, rfl, fun _ => oneSession_untaken hand limit,
        fun outOfRange => absurd inRange outOfRange⟩
    | ok _ =>
      rw [run_handed inRange hand, run_handed inRange recorded, run_handed inRange watched,
        named_keeps w host.recording_keeps, named_keeps w host.watching_keeps, await_recording,
        await_watching]
      exact ⟨_, _, rfl, rfl, fun _ => oneSession_taken hand grace pollInterval limit,
        fun outOfRange => absurd inRange outOfRange⟩
  · obtain ⟨message, refused⟩ := run_refused trigger grace pollInterval limit inRange
    refine ⟨[], [], ?_, ?_, fun h => absurd h inRange, fun _ => ⟨rfl, rfl, message, refused host w⟩⟩
    · rw [refused, refused]
      rfl
    · rw [refused, refused]
      rfl

/-- A host on which the session is taken and has ended when its first event comes. -/
def readyHost : Host Unit where
  now u := (default, u)
  interrupted u := (false, u)
  identity u := (default, u)
  run _ _ m := (.ok { success := true, status := "exit status: 0", stderr := "" }, m)
  nextEvent _ m :=
    ({ result := .ok (some
        { key := (SessionName.generate default).text, operation := "hset" }) }, m)
  readState _ m := ({ result := .ok (some { state? := some .completed, path? := none }) }, m)

/-- The run on `readyHost` reports on the session that it named and handed over, and the one run of
    the apply command finds the document that asks for it. -/
theorem run_oneSession_readyHost :
    let trigger : Trigger := ⟨"request.json", "REQ", ["swssconfig"]⟩
    let request : Request := ⟨true, 1000, 60, true⟩
    let w : World Unit := ⟨⟨default, ()⟩, []⟩
    let ended := run readyHost trigger request (.ofSeconds 5) (.ofMillis 10) 9 w
    request.InRange ∧
      ended.result? = some (.ok ⟨.generate default, ⟨.completed, some .completed, none⟩, []⟩) ∧
      ∃ calls r, OneSession readyHost trigger request 9 w ended calls [r] ∧
        ∃ bytes, r.files.readFile "request.json" = .ok bytes ∧
          (FlowDump.Request.parse? bytes).bind FlowDump.Request.read? =
            some ("REQ", ⟨.generate default, true, 1000, 60⟩) := by
  have inRange : Request.InRange ⟨true, 1000, 60, true⟩ := ⟨by decide, by decide⟩
  have reported : (run readyHost ⟨"request.json", "REQ", ["swssconfig"]⟩ ⟨true, 1000, 60, true⟩
      (.ofSeconds 5) (.ofMillis 10) 9 ⟨⟨default, ()⟩, []⟩).result? =
      some (.ok ⟨.generate default, ⟨.completed, some .completed, none⟩, []⟩) := by rfl
  obtain ⟨calls, runs, -, watched, one, -⟩ := run_oneSession readyHost
    ⟨"request.json", "REQ", ["swssconfig"]⟩ ⟨true, 1000, 60, true⟩ (.ofSeconds 5) (.ofMillis 10) 9
    ⟨⟨default, ()⟩, []⟩
  -- the runs are those that the watching host keeps, and that is one
  have kept := congrArg (fun ended : Run (Unit × List FlowDump.Run) =>
    ended.world.outside.2.length) watched
  obtain ⟨r, rfl⟩ : ∃ r, runs = [r] := List.length_eq_one_iff.mp (kept.symm.trans (by rfl))
  obtain ⟨bytes, file_eq, asks⟩ := (one inRange).found r (List.mem_singleton.mpr rfl)
  exact ⟨inRange, reported, calls, r, one inRange, bytes, file_eq, asks.consumed (by decide)⟩

end Dump

end FlowDump
