import FlowDump.Proofs.Dump.Session

/-!
# The operations that a dump tells of

A run tells of two operations of its session: handing it over, and waiting for it.  An operation is
told of in full if its start is followed by one end, which is a failure where the operation failed.
Handing over is always told of in full.  So is a wait that came to an outcome, whereas the start of
a wait that failed is the last that is told of it.

* `World.Remarked`, `wait_remarked` — a wait itself tells nothing but remarks.
* `Log.phases` — the phases of one operation of one session in a log, and `Log.TellsOf` — a log that
  tells of one operation.
* `Log.Paired`, `Balanced` — phases that come in pairs, and operations all of which do, with ends
  that say what came of them.
* `Operations` — the phases that a run tells of, by what its operations came to.
* `run_operations` — every run tells of these phases, and they are balanced unless the wait failed.
-/

namespace FlowDump

variable {ε : Type}

/-! ### Worlds between which only remarks were told -/

/-- From one world to the other nothing was told but remarks. -/
def World.Remarked (w w' : World ε) : Prop :=
  ∃ notes : List Log.Note, w'.log = w.log ++ notes.map .note

namespace World.Remarked

theorem refl (w : World ε) : w.Remarked w := ⟨[], by simp⟩

theorem trans {w₁ w₂ w₃ : World ε} (h : w₁.Remarked w₂) (h' : w₂.Remarked w₃) :
    w₁.Remarked w₃ := by
  obtain ⟨notes, log_eq⟩ := h
  obtain ⟨notes', log_eq'⟩ := h'
  exact ⟨notes ++ notes', by rw [log_eq', log_eq, List.map_append, List.append_assoc]⟩

theorem remark (w : World ε) (notes : List Log.Note) : w.Remarked (w.remark notes) := ⟨notes, rfl⟩

theorem outsideStep {α : Type} (w : World ε) (step : StateM ε α) :
    w.Remarked (w.outsideStep step).2 :=
  refl w

theorem machineStep {α : Type} (w : World ε) (step : StateM (Machine ε) α) :
    w.Remarked (w.machineStep step).2 :=
  refl w

end World.Remarked

namespace Watch

theorem observe_remarked (session : SessionName) (seen : Seen) (record : StateRecord)
    (w : World ε) : w.Remarked (observe session seen record w).2 := by
  unfold observe
  split
  · exact .refl w
  · dsimp only
    split <;> exact .remark w _

theorem read_remarked (host : Host ε) (session : SessionName) (seen : Seen)
    (event : Notification) (w : World ε) :
    w.Remarked (read host session seen event w).2.2 := by
  simp only [read]
  generalize hnoted : w.remark _ = noted
  have h : w.Remarked ((noted.machineStep (host.readState session)).2.remark
      (noted.machineStep (host.readState session)).1.notes) :=
    (hnoted ▸ World.Remarked.remark w _).trans
      ((World.Remarked.machineStep noted _).trans (.remark _ _))
  split
  · exact h
  · exact h
  · exact h.trans (observe_remarked ..)

theorem poll_remarked (host : Host ε) (session : SessionName) (seen : Seen)
    (now? : Option Instant) (maxWait : Duration) (w : World ε) :
    w.Remarked (poll host session seen now? maxWait w).2.2 := by
  have h : w.Remarked ((w.machineStep (host.nextEvent maxWait)).2.remark
      (w.machineStep (host.nextEvent maxWait)).1.notes) :=
    (World.Remarked.machineStep w _).trans (.remark _ _)
  simp only [poll]
  split
  · exact h
  · exact h
  · split
    · exact h.trans (read_remarked ..)
    · exact h

theorem plan_remarked (host : Host ε) (deadline? : Option Instant) (pollInterval : Duration)
    (w : World ε) : w.Remarked (plan host deadline? pollInterval w).2 := by
  cases deadline? with
  | none => exact .refl w
  | some deadline =>
    simp only [plan]
    split <;> exact .outsideStep w _

theorem turn_remarked (host : Host ε) (deadline? : Option Instant) (pollInterval : Duration)
    (session : SessionName) (seen : Seen) (w : World ε) :
    w.Remarked (turn host deadline? pollInterval session seen w).2.2 := by
  have flagged := World.Remarked.outsideStep w host.interrupted
  simp only [turn]
  split
  · exact flagged.trans (.remark _ _)
  · have planned := flagged.trans (plan_remarked host deadline? pollInterval _)
    rcases hp : plan host deadline? pollInterval (w.outsideStep host.interrupted).2
      with ⟨plan, next⟩
    rw [hp] at planned
    cases plan with
    | expire now => exact planned.trans (.remark _ _)
    | poll now? maxWait => exact planned.trans (poll_remarked ..)

theorem loop_remarked (host : Host ε) (deadline? : Option Instant) (pollInterval : Duration)
    (session : SessionName) (limit : Nat) (seen : Seen) (w : World ε) :
    w.Remarked (loop host deadline? pollInterval session limit seen w).world := by
  induction limit generalizing seen w with
  | zero => exact .refl w
  | succ limit ih =>
    have first := turn_remarked host deadline? pollInterval session seen w
    unfold loop
    rcases hstep : turn host deadline? pollInterval session seen w with ⟨t, step, w'⟩
    rw [hstep] at first
    cases step with
    | done result => exact first
    | again seen' => exact first.trans (ih seen' w')

/-- A `wait` tells nothing but remarks, however long it is and however it ends. -/
theorem wait_remarked (host : Host ε) (options : Options) (session : SessionName) (limit : Nat)
    (w : World ε) : w.Remarked (wait host options session limit w).world := by
  rw [wait_eq_loop]
  exact (World.Remarked.outsideStep w host.now).trans (loop_remarked ..)

end Watch

/-! ### Phases in a log -/

namespace Log

/-- The phase of an operation of a session, if that is what an event tells of. -/
def Event.phaseOf? (name : String) (session : SessionName) : Event → Option Phase
  | .operation o => if o.name = name ∧ sessionField session ∈ o.fields then some o.phase else none
  | .note _ => none

/-- The phases of an operation of a session, by `Event.phaseOf?`, in order. -/
def phases (name : String) (session : SessionName) (events : List Event) : List Phase :=
  events.filterMap (Event.phaseOf? name session)

@[simp] theorem phases_nil (name : String) (session : SessionName) :
    phases name session [] = [] := rfl

@[simp] theorem phases_append (name : String) (session : SessionName)
    (events later : List Event) :
    phases name session (events ++ later) =
      phases name session events ++ phases name session later :=
  List.filterMap_append

@[simp] theorem phases_notes (name : String) (session : SessionName) (notes : List Note) :
    phases name session (notes.map .note) = [] := by
  simp [phases, Event.phaseOf?]

/-- Events that tell of one operation of one session, and otherwise of nothing but remarks. -/
structure TellsOf (name : String) (session : SessionName) (passed : List Phase)
    (events : List Event) : Prop where
  own : phases name session events = passed
  others : ∀ name' session', ¬ (name' = name ∧ session' = session) →
    phases name' session' events = []

namespace TellsOf

variable {name : String} {session : SessionName} {passed later : List Phase}
  {events events' : List Event}

theorem notes (name : String) (session : SessionName) (notes : List Note) :
    TellsOf name session [] (notes.map .note) where
  own := phases_notes ..
  others _ _ _ := phases_notes ..

/-- What tells of some phases and then of later ones `TellsOf` all of them. -/
theorem append (h : TellsOf name session passed events)
    (h' : TellsOf name session later events') :
    TellsOf name session (passed ++ later) (events ++ events') where
  own := by rw [phases_append, h.own, h'.own]
  others name' session' other := by
    rw [phases_append, h.others name' session' other, h'.others name' session' other]
    rfl

/-- An event of an operation `TellsOf` one phase, of the session that it names if that is the only
    one. -/
theorem operation (component : Component) (phase : Phase) {fields : Fields}
    (unnamed : ∀ session', sessionField session' ∉ fields) :
    TellsOf name session [phase]
      [.operation { component, name, phase, fields := sessionField session :: fields }] where
  own := by simp [phases, Event.phaseOf?]
  others name' session' other := by
    have : ¬ (name = name' ∧ sessionField session' ∈ sessionField session :: fields) := by
      rintro ⟨rfl, named⟩
      rcases List.mem_cons.mp named with named | named
      · refine other ⟨rfl, ?_⟩
        obtain ⟨text⟩ := session
        obtain ⟨text'⟩ := session'
        simpa [sessionField] using named
      · exact unnamed session' named
    simp only [phases, Event.phaseOf?, List.filterMap_cons, if_neg this]
    rfl

end TellsOf

/-- Phases that come in pairs: a start, and an end of what was started. -/
inductive Paired : List Phase → Prop where
  | nil : Paired []
  | finish {rest : List Phase} (millis : Nat) (later : Paired rest) :
      Paired (.start :: .finish millis :: rest)
  | fail {rest : List Phase} (millis : Nat) (e : Failure) (later : Paired rest) :
      Paired (.start :: .fail millis e :: rest)

/-- Whether one of the phases is a `Phase.fail`. -/
def HasFailure (passed : List Phase) : Prop := ∃ millis e, Phase.fail millis e ∈ passed

/-- A start alone is not `Paired`. -/
theorem not_paired_start : ¬ Paired [.start] := nofun

end Log

namespace Dump

/-! ### What a run tells of -/

/-- `Dump.conclude` tells nothing but remarks. -/
theorem conclude_remarked (request : Request) (session : SessionName) (outcome : Watch.Outcome)
    (w : World ε) : w.Remarked (conclude request session outcome w).2 := by
  unfold conclude
  split
  · exact .refl w
  · dsimp only
    split
    · exact .remark w _
    · exact (World.Remarked.remark w _).trans (.remark _ _)

/-- The phases of the wait, by the result it came to if it came to one. -/
inductive Passes : Option (Except Failure Watch.Outcome) → List Log.Phase → Prop where
  | ended (outcome : Watch.Outcome) (millis : Nat) :
      Passes (some (.ok outcome)) [.start, .finish millis]
  /-- Nothing more is told of a wait that failed. -/
  | failed (e : Failure) : Passes (some (.error e)) [.start]
  | pending : Passes none [.start]

/-- `handOver` is told of from its start to its end, and `Trigger.lastPhase` says what came of it.
    -/
theorem handOver_tellsOf (host : Host ε) (trigger : Trigger) (request : Request) (w : World ε) :
    ∃ events millis, (handOver host trigger request w).2.log = w.log ++ events ∧
      Log.TellsOf Trigger.operationName (named host w)
        [.start, Trigger.lastPhase millis (handOver host trigger request w).1] events := by
  obtain ⟨j, proper, descriptor_eq, -, -, result_eq, log_eq, -⟩ := trigger.exists_job host
    (descriptorOf request (named host w)) (w.outsideStep host.identity).2
  obtain ⟨notes, millis, last, events_eq, finished, failed⟩ := proper.told
  have last_eq : last = Trigger.lastPhase millis j.result := by
    cases h : j.result with
    | ok _ => exact finished h
    | error e => exact failed e h
  rw [descriptor_eq, last_eq, result_eq] at events_eq
  refine ⟨j.events, millis, log_eq, ?_⟩
  rw [events_eq]
  have unnamed : ∀ session', Log.sessionField session' ∉ ([] : Log.Fields) :=
    fun _ => List.not_mem_nil
  exact (Log.TellsOf.operation .trigger .start unnamed).append
    ((Log.TellsOf.notes _ _ notes).append (.operation .trigger _ unnamed))

/-- `Dump.await` is told of from its start on, up to the end that `Passes` says. -/
theorem await_tellsOf (host : Host ε) (request : Request) (grace pollInterval : Duration)
    (session : SessionName) (limit : Nat) (w : World ε) :
    ∃ events passed,
      (await host request grace pollInterval session limit w).world.log = w.log ++ events ∧
      Log.TellsOf operationName session passed events ∧
      Passes (awaited host request grace pollInterval session limit w).result? passed := by
  obtain ⟨notes, waited⟩ := Watch.wait_remarked host (options request grace pollInterval) session
    limit (started host session w)
  -- the start is told and then, while it is waited, remarks only
  have begun : Log.TellsOf operationName session [.start]
      (operation session .start :: notes.map .note) :=
    (Log.TellsOf.operation .dump .start fun _ => List.not_mem_nil).append (.notes _ _ notes)
  have log_eq : (started host session w).log = w.log ++ [operation session .start] := rfl
  rw [log_eq, List.append_assoc] at waited
  rw [await_eq, awaited]
  generalize Watch.wait host (options request grace pollInterval) session limit
    (started host session w) = wait at waited
  obtain ⟨result?, turns, world⟩ := wait
  cases result? with
  | none => exact ⟨_, _, waited, begun, .pending⟩
  | some result =>
    cases result with
    -- a wait that fails is left at once, and its start without an end
    | error e => exact ⟨_, _, waited, begun, .failed e⟩
    -- the end is told with the status, and remarks about the report follow it
    | ok outcome =>
      simp only [settle]
      generalize (((world.outsideStep host.now).1.since _).toMillis) = millis
      generalize hlast : (world.outsideStep host.now).2.tell _ = last
      have last_log : last.log = world.log ++ [operation session (.finish millis)
          [("status", .text outcome.status.name)]] := by
        rw [← hlast]
        rfl
      obtain ⟨notes', concluded⟩ := conclude_remarked request session outcome last
      rw [last_log, waited, List.append_assoc, List.append_assoc] at concluded
      refine ⟨_, _, concluded, ?_, .ended outcome millis⟩
      refine begun.append (.append (.operation .dump _ fun session' => ?_) (.notes _ _ notes'))
      simp [Log.sessionField]

/-- What the wait of a run came to; none if there was no wait, or while it is going on. -/
def waited? (host : Host ε) (trigger : Trigger) (request : Request)
    (grace pollInterval : Duration) (limit : Nat) (w : World ε) :
    Option (Except Failure Watch.Outcome) :=
  match handOver host trigger request w with
  | (.error _, _) => none
  | (.ok (), w') => (awaited host request grace pollInterval (named host w) limit w').result?

/-- The phases that a run tells of, by what `handOver` and the wait came to. -/
structure Operations (session : SessionName) (handed : Except Failure Unit)
    (waited? : Option (Except Failure Watch.Outcome)) (events : List Log.Event) : Prop where
  /-- Handing over ends as it came out. -/
  trigger : ∃ millis, Log.phases Trigger.operationName session events =
    [.start, Trigger.lastPhase millis handed]
  untaken : ∀ e, handed = .error e →
    waited? = none ∧ Log.phases operationName session events = []
  taken : handed = .ok () → Passes waited? (Log.phases operationName session events)
  others : ∀ name session',
    ¬ (session' = session ∧ (name = Trigger.operationName ∨ name = operationName)) →
      Log.phases name session' events = []

/-- The operations in a log are balanced: phases are `Log.Paired`, and the operations of the session
    end with a failure where they failed, and nowhere else. -/
structure Balanced (session : SessionName) (handed : Except Failure Unit)
    (waited? : Option (Except Failure Watch.Outcome)) (events : List Log.Event) : Prop where
  paired : ∀ name session', Log.Paired (Log.phases name session' events)
  trigger : Log.HasFailure (Log.phases Trigger.operationName session events) ↔
    ∃ e, handed = .error e
  wait : Log.HasFailure (Log.phases operationName session events) ↔
    ∃ e, waited? = some (.error e)

theorem operationName_ne : operationName ≠ Trigger.operationName := by decide

/-- The end of handing a session over is a failure exactly where it failed. -/
theorem hasFailure_lastPhase_iff {millis : Nat} {handed : Except Failure Unit} :
    Log.HasFailure [.start, Trigger.lastPhase millis handed] ↔ ∃ e, handed = .error e := by
  cases handed <;> simp [Log.HasFailure, Trigger.lastPhase]

/-- Handing a session over is a start and an end. -/
theorem paired_lastPhase (millis : Nat) (handed : Except Failure Unit) :
    Log.Paired [.start, Trigger.lastPhase millis handed] := by
  cases handed with
  | error e => exact .fail millis e .nil
  | ok _ => exact .finish millis .nil

namespace Operations

variable {session : SessionName} {handed : Except Failure Unit}
  {waited? : Option (Except Failure Watch.Outcome)} {events events' : List Log.Event}

/-- Where the session was not taken, the `Operations` of a run are that of handing it over. -/
theorem of_untaken {e : Failure} {millis : Nat}
    (h : Log.TellsOf Trigger.operationName session
      [.start, Trigger.lastPhase millis (.error e)] events) :
    Operations session (.error e) none events where
  trigger := ⟨millis, h.own⟩
  untaken _ _ := ⟨rfl, h.others _ _ fun same => operationName_ne same.1⟩
  taken := nofun
  others name session' other := h.others name session' fun same => other ⟨same.2, .inl same.1⟩

/-- Where the session was taken, the `Operations` of a run are that of handing it over and that of
    the wait after it. -/
theorem of_taken {millis : Nat} {passed : List Log.Phase}
    (h : Log.TellsOf Trigger.operationName session
      [.start, Trigger.lastPhase millis (.ok ())] events)
    (h' : Log.TellsOf operationName session passed events') (passes : Passes waited? passed) :
    Operations session (.ok ()) waited? (events ++ events') where
  trigger := by
    refine ⟨millis, ?_⟩
    rw [Log.phases_append, h.own, h'.others _ _ fun same => operationName_ne same.1.symm]
    rfl
  untaken := nofun
  taken _ := by
    rw [Log.phases_append, h.others _ _ fun same => operationName_ne same.1, h'.own]
    exact passes
  others name session' other := by
    rw [Log.phases_append, h.others name session' fun same => other ⟨same.2, .inl same.1⟩,
      h'.others name session' fun same => other ⟨same.2, .inr same.1⟩]
    rfl

/-- The `Operations` come in pairs if those of the wait do. -/
theorem paired (h : Operations session handed waited? events)
    (wait : Log.Paired (Log.phases operationName session events)) (name : String)
    (session' : SessionName) : Log.Paired (Log.phases name session' events) := by
  by_cases own : session' = session ∧ (name = Trigger.operationName ∨ name = operationName)
  · obtain ⟨rfl, rfl | rfl⟩ := own
    · obtain ⟨millis, phases_eq⟩ := h.trigger
      rw [phases_eq]
      exact paired_lastPhase millis handed
    · exact wait
  · rw [h.others name session' own]
    exact .nil

/-- The `Operations` are `Balanced` if the session was not taken or the wait came to an outcome, and
    only then: the start of a wait that failed is left without an end. -/
theorem balanced_iff (h : Operations session handed waited? events) :
    Balanced session handed waited? events ↔
      (∃ e, handed = .error e) ∨ ∃ outcome, waited? = some (.ok outcome) := by
  have trigger : Log.HasFailure (Log.phases Trigger.operationName session events) ↔
      ∃ e, handed = .error e := by
    obtain ⟨millis, phases_eq⟩ := h.trigger
    rw [phases_eq]
    exact hasFailure_lastPhase_iff
  cases handed with
  | error e =>
    obtain ⟨unwaited, phases_eq⟩ := h.untaken e rfl
    subst unwaited
    refine ⟨fun _ => .inl ⟨e, rfl⟩, fun _ => ⟨h.paired (phases_eq ▸ .nil), trigger, ?_⟩⟩
    simp [phases_eq, Log.HasFailure]
  | ok _ =>
    -- a start without an end is no pair, whatever the wait came to
    have unclosed : Log.phases operationName session events = [.start] →
        ¬ Balanced session (.ok ()) waited? events := by
      intro start_only balanced
      have paired := balanced.paired operationName session
      rw [start_only] at paired
      exact Log.not_paired_start paired
    have passes := h.taken rfl
    generalize hp : Log.phases operationName session events = passed at passes
    cases passes with
    | ended outcome millis =>
      refine ⟨fun _ => .inr ⟨outcome, rfl⟩, fun _ => ⟨h.paired ?_, trigger, ?_⟩⟩
      · rw [hp]
        exact .finish millis .nil
      · simp [hp, Log.HasFailure]
    | failed e => exact ⟨fun balanced => absurd balanced (unclosed hp), by simp⟩
    | pending => exact ⟨fun balanced => absurd balanced (unclosed hp), by simp⟩

end Operations

/-- What `Dump.run` tells, beside remarks, are the phases of its `Operations`. -/
theorem run_tells (host : Host ε) (trigger : Trigger) (request : Request)
    (grace pollInterval : Duration) (limit : Nat) (w : World ε) :
    ∃ events,
      (run host trigger request grace pollInterval limit w).world.log = w.log ++ events ∧
      (¬ request.InRange → events = []) ∧
      (request.InRange → Operations (named host w) (handOver host trigger request w).1
        (waited? host trigger request grace pollInterval limit w) events) := by
  by_cases inRange : request.InRange
  · obtain ⟨events, millis, log_eq, tells⟩ := handOver_tellsOf host trigger request w
    obtain ⟨handed, w', hand⟩ : ∃ handed w', handOver host trigger request w = (handed, w') :=
      ⟨_, _, rfl⟩
    rw [hand] at log_eq tells
    cases handed with
    | error e =>
      rw [run_untriggered inRange hand, waited?, hand]
      exact ⟨events, log_eq, fun h => absurd inRange h, fun _ => .of_untaken tells⟩
    -- the events of the wait follow those of the handing over
    | ok _ =>
      obtain ⟨events', passed, log_eq', tells', passes⟩ := await_tellsOf host request grace
        pollInterval (named host w) limit w'
      rw [run_handed inRange hand, waited?, hand]
      refine ⟨events ++ events', ?_, fun h => absurd inRange h,
        fun _ => .of_taken tells tells' passes⟩
      rw [log_eq', log_eq, List.append_assoc]
  · obtain ⟨message, refused⟩ := run_refused trigger grace pollInterval limit inRange
    rw [refused]
    exact ⟨[], by simp, fun _ => rfl, fun h => absurd h inRange⟩

/-- **The operations of a run are `Balanced` unless its wait fails.**  Whatever the request and the
    outside, handing the session over is told of from its start to an end that says what came of it,
    and the wait, if there is one, from its start to its outcome.  Nothing else is told of, and
    nothing at all if the request is refused.  Where the channel or the store fails during the wait
    its start is left without an end. -/
theorem run_operations (host : Host ε) (trigger : Trigger) (request : Request)
    (grace pollInterval : Duration) (limit : Nat) (w : World ε) :
    ∃ events,
      (run host trigger request grace pollInterval limit w).world.log = w.log ++ events ∧
      (¬ request.InRange → events = []) ∧
      (request.InRange →
        let handed := (handOver host trigger request w).1
        let result? := waited? host trigger request grace pollInterval limit w
        Operations (named host w) handed result? events ∧
          (Balanced (named host w) handed result? events ↔
            (∃ e, handed = .error e) ∨ ∃ outcome, result? = some (.ok outcome))) := by
  obtain ⟨events, log_eq, refused, operations⟩ :=
    run_tells host trigger request grace pollInterval limit w
  exact ⟨events, log_eq, refused, fun h => ⟨operations h, (operations h).balanced_iff⟩⟩

/-- A host on which the session is taken and the channel is lost. -/
def lostHost : Host Unit where
  now u := (default, u)
  interrupted u := (false, u)
  identity u := (default, u)
  run _ _ m := (.ok { success := true, status := "exit status: 0", stderr := "" }, m)
  nextEvent _ m := ({ result := .error (.store "next_event" "lost") }, m)
  readState _ m := ({ result := .ok none }, m)

/-- A run on `lostHost` ends with the failure of its channel, and the start of its wait is left
    without an end. -/
theorem not_balanced_lostHost :
    let trigger : Trigger := ⟨"request.json", "REQ", ["swssconfig"]⟩
    let request : Request := ⟨true, 1000, 60, false⟩
    let w : World Unit := ⟨⟨default, ()⟩, []⟩
    let ended := run lostHost trigger request (.ofSeconds 5) (.ofMillis 10) 9 w
    request.InRange ∧ ended.result? = some (.error (.store "next_event" "lost")) ∧
      ¬ Balanced (named lostHost w) (handOver lostHost trigger request w).1
        (waited? lostHost trigger request (.ofSeconds 5) (.ofMillis 10) 9 w) ended.world.log := by
  refine ⟨⟨by decide, by decide⟩, rfl, fun balanced => ?_⟩
  -- what is told of the wait evaluates to its start alone
  exact Log.not_paired_start (balanced.paired operationName (.generate default))

end Dump

end FlowDump
