import FlowDump.Proofs.Watch.Rules

/-!
# Notifications are hints

A wait takes from a notification only whether it is about its own session, and from a record only
its state and its path.  Two hosts whose answers differ in nothing else let a wait end in the same
way and are asked the same questions.

* `Question`, `Host.after` — what a call asks, and the machine after some questions; what a host
  answers after any questions is its script.
* `SameHint`, `SameReading` — answers of the channel and of the store that tell a wait the same.
* `SameScript` — two hosts whose scripts differ in nothing else.
* `turn_alike`, `loop_alike` — a turn, and then a loop, goes the same way on both of them.
* `wait_alike` — so does a whole wait.
-/

namespace FlowDump

variable {ε ε₁ ε₂ : Type}

/-! ### Questions and scripts -/

/-- What a `Call` asks. -/
inductive Question where
  | now
  | interrupted
  | identity
  | run (program : String) (arguments : List String)
  | nextEvent (maxWait : Duration)
  | readState (session : SessionName)
  deriving DecidableEq, Repr

/-- The question of a call. -/
def Call.question : Call → Question
  | .now _ => .now
  | .interrupted _ => .interrupted
  | .identity _ => .identity
  | .run program arguments _ => .run program arguments
  | .nextEvent maxWait _ => .nextEvent maxWait
  | .readState session _ => .readState session

namespace Host

/-- What a `Question` leaves of a machine. -/
def asked (host : Host ε) (m : Machine ε) : Question → Machine ε
  | .now => (Machine.outsideStep host.now m).2
  | .interrupted => (Machine.outsideStep host.interrupted m).2
  | .identity => (Machine.outsideStep host.identity m).2
  | .run program arguments => (host.run program arguments m).2
  | .nextEvent maxWait => (host.nextEvent maxWait m).2
  | .readState session => (host.readState session m).2

/-- The machine after some questions, one after the other. -/
def after (host : Host ε) (m : Machine ε) (questions : List Question) : Machine ε :=
  questions.foldl host.asked m

end Host

/-! ### Answers that tell the same -/

/-- Two hashes tell the same state and the same path.  Other fields may differ, and whether a field
    is empty or not there does not matter. -/
structure StateRecord.SameFields (a b : Members String String) : Prop where
  state_eq : field? a stateField = field? b stateField
  path_eq : field? a pathField = field? b pathField

namespace Watch

/-- Two answers of `Host.nextEvent` tell a wait for a session the same. -/
inductive SameHint (session : SessionName) :
    Except Failure (Option Notification) → Except Failure (Option Notification) → Prop where
  | failure (e : Failure) : SameHint session (.error e) (.error e)
  /-- The operation of an event does not matter. -/
  | own (a b : Notification) (key_eq : a.key = session.text) (key_eq' : b.key = session.text) :
      SameHint session (.ok (some a)) (.ok (some b))
  /-- An event of another key is as good as none. -/
  | other (a? b? : Option Notification) (key_ne : ∀ a ∈ a?, a.key ≠ session.text)
      (key_ne' : ∀ b ∈ b?, b.key ≠ session.text) : SameHint session (.ok a?) (.ok b?)

/-- Two answers of `Host.readState` tell a wait the same. -/
inductive SameReading :
    Except Failure (Option StateRecord) → Except Failure (Option StateRecord) → Prop where
  | same (answer : Except Failure (Option StateRecord)) : SameReading answer answer
  | ofHash (a b : Members String String) (same : StateRecord.SameFields a b) :
      SameReading (.ok (StateRecord.ofHash? a)) (.ok (StateRecord.ofHash? b))
  | ofFields (a b : Members String String) (same : StateRecord.SameFields a b) :
      SameReading (.ok (some (.ofFields a))) (.ok (some (.ofFields b)))
  /-- A record without a state and a path is as good as none. -/
  | missing (b : Members String String) (same : StateRecord.SameFields [] b) :
      SameReading (.ok none) (.ok (some (.ofFields b)))
  | deleted (a : Members String String) (same : StateRecord.SameFields a []) :
      SameReading (.ok (some (.ofFields a))) (.ok none)

/-- Two hosts whose answers tell a wait for a session the same, each from its own machine on, after
    any questions. -/
structure SameScript (session : SessionName) (host₁ : Host ε₁) (m₁ : Machine ε₁)
    (host₂ : Host ε₂) (m₂ : Machine ε₂) : Prop where
  now : ∀ questions, (host₁.now (host₁.after m₁ questions).outside).1 =
    (host₂.now (host₂.after m₂ questions).outside).1
  interrupted : ∀ questions, (host₁.interrupted (host₁.after m₁ questions).outside).1 =
    (host₂.interrupted (host₂.after m₂ questions).outside).1
  nextEvent : ∀ questions maxWait,
    SameHint session (host₁.nextEvent maxWait (host₁.after m₁ questions)).1.result
      (host₂.nextEvent maxWait (host₂.after m₂ questions)).1.result
  readState : ∀ questions,
    SameReading (host₁.readState session (host₁.after m₁ questions)).1.result
      (host₂.readState session (host₂.after m₂ questions)).1.result

/-- Scripts that are the same, by `SameScript`, remain so after a question. -/
theorem SameScript.asked {session : SessionName} {host₁ : Host ε₁} {m₁ : Machine ε₁}
    {host₂ : Host ε₂} {m₂ : Machine ε₂} (same : SameScript session host₁ m₁ host₂ m₂)
    (q : Question) : SameScript session host₁ (host₁.asked m₁ q) host₂ (host₂.asked m₂ q) where
  now questions := same.now (q :: questions)
  interrupted questions := same.interrupted (q :: questions)
  nextEvent questions := same.nextEvent (q :: questions)
  readState questions := same.readState (q :: questions)

/-! ### What a reading tells -/

/-- What an answer of the store tells: a missing record tells nothing. -/
def tidings : Except Failure (Option StateRecord) → Except Failure StateRecord
  | .error e => .error e
  | .ok none => .ok { state? := none, path? := none }
  | .ok (some record) => .ok record

/-- What the `tidings` of the store lead to. -/
def Seen.follow (seen : Seen) : Except Failure StateRecord → Step
  | .error e => .done (.error e)
  | .ok record =>
    match record.state? with
    | none => .again (seen.update record)
    | some state =>
      if state.isTerminal then .done (.ok ((seen.update record).outcome (.ofState state)))
      else .again (seen.update record)

/-- `StateRecord.ofHash?` makes no record of a hash without fields, which tells as much as a record
    without fields. -/
theorem tidings_ofHash? (a : Members String String) :
    tidings (.ok (StateRecord.ofHash? a)) = .ok (.ofFields a) := by
  unfold StateRecord.ofHash?
  split
  · rename_i h
    rw [h]
    rfl
  · rfl

/-- `StateRecord.ofFields` makes one record of two hashes with `SameFields`. -/
theorem ofFields_eq_of_sameFields {a b : Members String String}
    (same : StateRecord.SameFields a b) : StateRecord.ofFields a = StateRecord.ofFields b := by
  simp only [StateRecord.ofFields, same.state_eq, same.path_eq]

/-- Readings that are the same bring the same `tidings`. -/
theorem SameReading.tidings_eq {a b : Except Failure (Option StateRecord)}
    (same : SameReading a b) : tidings a = tidings b := by
  cases same with
  | same answer => rfl
  | ofHash a b same => rw [tidings_ofHash?, tidings_ofHash?, ofFields_eq_of_sameFields same]
  | ofFields a b same => rw [ofFields_eq_of_sameFields same]
  | missing b same => rw [← ofFields_eq_of_sameFields same]; rfl
  | deleted a same => rw [ofFields_eq_of_sameFields same]; rfl

/-- A reading leads to what its `tidings` lead to, by `Seen.follow`. -/
theorem Turn.Leads.eq_follow {session : SessionName} {seen : Seen} {now? : Option Instant}
    {maxWait : Duration} {event : Except Failure (Option Notification)}
    {answer : Except Failure (Option StateRecord)} {step : Step}
    (h : Turn.Leads session seen (.polled now? maxWait event (some answer)) step) :
    step = seen.follow (tidings answer) := by
  cases h with
  | storeFails now? maxWait event key_eq e => rfl
  | noRecord now? maxWait event key_eq => rfl
  | goesOn now? maxWait event key_eq record not_terminal =>
    simp only [tidings, Seen.follow]
    cases hs : record.state? with
    | none => rfl
    | some state =>
      have : state.isTerminal = false := by simpa [StateRecord.isTerminal, hs] using not_terminal
      simp [this]
  | ends now? maxWait event key_eq record state state_eq terminal =>
    simp [tidings, Seen.follow, state_eq, terminal]

/-! ### What waiting for an event comes to -/

section Poll

variable {host : Host ε} (session : SessionName) (seen : Seen) (now? : Option Instant)
  {maxWait : Duration} {w : World ε}

/-- Where the channel fails, `poll` asks nothing more and the wait fails. -/
theorem poll_of_failure {e : Failure}
    (h : (host.nextEvent maxWait w.toMachine).1.result = .error e) :
    (poll host session seen now? maxWait w).1 = .polled now? maxWait (.error e) none ∧
      (poll host session seen now? maxWait w).2.1 = .done (.error e) ∧
      (poll host session seen now? maxWait w).2.2.toMachine =
        host.asked w.toMachine (.nextEvent maxWait) := by
  have answer : (w.machineStep (host.nextEvent maxWait)).1.result = .error e := h
  simp only [poll, answer]
  exact ⟨trivial, trivial, rfl⟩

/-- After silence or an event of another key, `poll` asks nothing more and the wait goes on. -/
theorem poll_of_other {event? : Option Notification}
    (h : (host.nextEvent maxWait w.toMachine).1.result = .ok event?)
    (key_ne : ∀ event ∈ event?, event.key ≠ session.text) :
    (poll host session seen now? maxWait w).1 = .polled now? maxWait (.ok event?) none ∧
      (poll host session seen now? maxWait w).2.1 = .again seen ∧
      (poll host session seen now? maxWait w).2.2.toMachine =
        host.asked w.toMachine (.nextEvent maxWait) := by
  have answer : (w.machineStep (host.nextEvent maxWait)).1.result = .ok event? := h
  cases event? with
  | none =>
    simp only [poll, answer]
    exact ⟨trivial, trivial, rfl⟩
  | some event =>
    have not_own : event.key ≠ session.text := key_ne event rfl
    simp only [poll, answer, not_own, if_false]
    exact ⟨trivial, trivial, rfl⟩

/-- After an event of the session, `poll` reads the record on the machine that the channel has left.
    -/
theorem poll_of_own {event : Notification}
    (h : (host.nextEvent maxWait w.toMachine).1.result = .ok (some event))
    (key_eq : event.key = session.text) :
    ∃ answer, answer =
        (host.readState session (host.asked w.toMachine (.nextEvent maxWait))).1.result ∧
      (poll host session seen now? maxWait w).1 =
        .polled now? maxWait (.ok (some event)) (some answer) ∧
      (poll host session seen now? maxWait w).2.1 = seen.follow (tidings answer) ∧
      (poll host session seen now? maxWait w).2.2.toMachine =
        host.asked (host.asked w.toMachine (.nextEvent maxWait)) (.readState session) := by
  have answer : (w.machineStep (host.nextEvent maxWait)).1.result = .ok (some event) := h
  -- the world between the two questions, which differs from the machine by remarks only
  obtain ⟨taken, machine_eq, poll_eq⟩ : ∃ taken : World ε,
      taken.toMachine = host.asked w.toMachine (.nextEvent maxWait) ∧
      poll host session seen now? maxWait w =
        (.polled now? maxWait (.ok (some event)) (some (read host session seen event taken).1),
          (read host session seen event taken).2) := by
    refine ⟨((w.machineStep (host.nextEvent maxWait)).2.remark
      (w.machineStep (host.nextEvent maxWait)).1.notes), rfl, ?_⟩
    simp only [poll, answer, key_eq, if_true]
  refine ⟨_, rfl, ?_⟩
  rw [poll_eq, ← machine_eq, ← read_result host session seen event taken]
  exact ⟨rfl, (read_leads host session seen now? maxWait event key_eq taken).eq_follow,
    read_machine host session seen event taken⟩

end Poll

/-! ### Two waits beside one another -/

variable {session : SessionName} {host₁ : Host ε₁} {host₂ : Host ε₂}

/-- A turn on two hosts: each `Question` was the same, the same follows, and the `SameScript` is
    left to go on with. -/
structure Alike (session : SessionName) (host₁ : Host ε₁) (host₂ : Host ε₂)
    (x₁ : Turn × Step × World ε₁) (x₂ : Turn × Step × World ε₂) : Prop where
  questions_eq : (x₁.1.calls session).map Call.question = (x₂.1.calls session).map Call.question
  step_eq : x₁.2.1 = x₂.2.1
  script : SameScript session host₁ x₁.2.2.toMachine host₂ x₂.2.2.toMachine

/-- `poll` goes the same way on two hosts with the `SameScript`. -/
theorem poll_alike {w₁ : World ε₁} {w₂ : World ε₂}
    (same : SameScript session host₁ w₁.toMachine host₂ w₂.toMachine) (seen : Seen)
    (now? : Option Instant) (maxWait : Duration) :
    Alike session host₁ host₂ (poll host₁ session seen now? maxWait w₁)
      (poll host₂ session seen now? maxWait w₂) := by
  have hint := same.nextEvent [] maxWait
  have later := same.asked (.nextEvent maxWait)
  generalize h₁ : (host₁.nextEvent maxWait (host₁.after w₁.toMachine [])).1.result = answer₁ at hint
  generalize h₂ : (host₂.nextEvent maxWait (host₂.after w₂.toMachine [])).1.result = answer₂ at hint
  -- the two answers differ as `SameScript` allows, and neither kind of difference is looked at
  cases hint with
  | failure e =>
    obtain ⟨turn₁, step₁, machine₁⟩ := poll_of_failure session seen now? h₁
    obtain ⟨turn₂, step₂, machine₂⟩ := poll_of_failure session seen now? h₂
    exact ⟨by rw [turn₁, turn₂], by rw [step₁, step₂], by rw [machine₁, machine₂]; exact later⟩
  | own a b key_eq key_eq' =>
    obtain ⟨reading₁, answered₁, turn₁, step₁, machine₁⟩ :=
      poll_of_own session seen now? h₁ key_eq
    obtain ⟨reading₂, answered₂, turn₂, step₂, machine₂⟩ :=
      poll_of_own session seen now? h₂ key_eq'
    have reading : SameReading reading₁ reading₂ := by
      rw [answered₁, answered₂]
      exact later.readState []
    refine ⟨?_, ?_, ?_⟩
    · rw [turn₁, turn₂]
      simp [Turn.calls, Turn.looks, Turn.asks, Call.question]
    · rw [step₁, step₂, reading.tidings_eq]
    · rw [machine₁, machine₂]
      exact later.asked (.readState session)
  | other a? b? key_ne key_ne' =>
    obtain ⟨turn₁, step₁, machine₁⟩ := poll_of_other session seen now? h₁ key_ne
    obtain ⟨turn₂, step₂, machine₂⟩ := poll_of_other session seen now? h₂ key_ne'
    refine ⟨?_, ?_, ?_⟩
    · rw [turn₁, turn₂]
      simp [Turn.calls, Turn.looks, Turn.asks, Call.question]
    · rw [step₁, step₂]
    · rw [machine₁, machine₂]
      exact later

/-- Two hosts whose clocks agree make the same `plan`. -/
theorem plan_alike {w₁ : World ε₁} {w₂ : World ε₂}
    (same : SameScript session host₁ w₁.toMachine host₂ w₂.toMachine)
    (deadline? : Option Instant) (pollInterval : Duration) :
    (plan host₁ deadline? pollInterval w₁).1 = (plan host₂ deadline? pollInterval w₂).1 ∧
      SameScript session host₁ (plan host₁ deadline? pollInterval w₁).2.toMachine
        host₂ (plan host₂ deadline? pollInterval w₂).2.toMachine := by
  cases deadline? with
  | none => exact ⟨rfl, same⟩
  | some deadline =>
    have clock : (w₁.outsideStep host₁.now).1 = (w₂.outsideStep host₂.now).1 := same.now []
    have later : SameScript session host₁ (w₁.outsideStep host₁.now).2.toMachine
        host₂ (w₂.outsideStep host₂.now).2.toMachine := same.asked .now
    simp only [plan, clock]
    split
    · exact ⟨rfl, later⟩
    · exact ⟨rfl, later⟩

/-- A `turn` goes the same way on two hosts with the `SameScript`. -/
theorem turn_alike {w₁ : World ε₁} {w₂ : World ε₂}
    (same : SameScript session host₁ w₁.toMachine host₂ w₂.toMachine)
    (deadline? : Option Instant) (pollInterval : Duration) (seen : Seen) :
    Alike session host₁ host₂ (turn host₁ deadline? pollInterval session seen w₁)
      (turn host₂ deadline? pollInterval session seen w₂) := by
  have flag : (w₁.outsideStep host₁.interrupted).1 = (w₂.outsideStep host₂.interrupted).1 :=
    same.interrupted []
  have flagged : SameScript session host₁ (w₁.outsideStep host₁.interrupted).2.toMachine
      host₂ (w₂.outsideStep host₂.interrupted).2.toMachine := same.asked .interrupted
  -- flag and clock agree, so both turns stop, give up or poll with the same length
  obtain ⟨plan_eq, planned⟩ := plan_alike flagged deadline? pollInterval
  simp only [turn, flag]
  split
  · exact ⟨rfl, rfl, flagged⟩
  · rcases hp₁ : plan host₁ deadline? pollInterval (w₁.outsideStep host₁.interrupted).2
      with ⟨plan₁, next₁⟩
    rcases hp₂ : plan host₂ deadline? pollInterval (w₂.outsideStep host₂.interrupted).2
      with ⟨plan₂, next₂⟩
    rw [hp₁, hp₂] at plan_eq planned
    subst plan_eq
    cases plan₁ with
    | expire now => exact ⟨rfl, rfl, planned⟩
    | poll now? maxWait => exact poll_alike planned seen now? maxWait

/-- A `loop` goes the same way on two hosts with the `SameScript`. -/
theorem loop_alike {w₁ : World ε₁} {w₂ : World ε₂}
    (same : SameScript session host₁ w₁.toMachine host₂ w₂.toMachine)
    (deadline? : Option Instant) (pollInterval : Duration) (limit : Nat) (seen : Seen) :
    (loop host₁ deadline? pollInterval session limit seen w₁).result? =
        (loop host₂ deadline? pollInterval session limit seen w₂).result? ∧
      ((loop host₁ deadline? pollInterval session limit seen w₁).turns.flatMap
          (Turn.calls session)).map Call.question =
        ((loop host₂ deadline? pollInterval session limit seen w₂).turns.flatMap
          (Turn.calls session)).map Call.question := by
  induction limit generalizing seen w₁ w₂ with
  | zero => exact ⟨rfl, rfl⟩
  | succ limit ih =>
    have alike := turn_alike same deadline? pollInterval seen
    simp only [loop]
    generalize turn host₁ deadline? pollInterval session seen w₁ = x₁ at alike ⊢
    generalize turn host₂ deadline? pollInterval session seen w₂ = x₂ at alike ⊢
    obtain ⟨t₁, step₁, next₁⟩ := x₁
    obtain ⟨t₂, step₂, next₂⟩ := x₂
    obtain ⟨questions_eq, step_eq, script⟩ := alike
    -- the same step follows on both hosts, so both end here or both go on
    cases step_eq
    cases step₁ with
    | done result =>
      refine ⟨rfl, ?_⟩
      simpa using questions_eq
    | again seen' =>
      obtain ⟨result_eq, rest_eq⟩ := ih script seen'
      refine ⟨result_eq, ?_⟩
      simp only [List.flatMap_cons, List.map_append, rest_eq]
      rw [questions_eq]

/-! ### The theorem -/

/-- **Notifications are hints and nothing more.**  Two waits for one session by the same options end
    in the same way, and ask the same questions in the same order, with the same lengths of the
    single waits, if by `SameScript` their scripts differ at most in events of other keys, in
    operations, in fields of a hash other than the state and the path, in empty fields, and in
    records that tell neither a state nor a path. -/
theorem wait_alike (host₁ : Host ε₁) (host₂ : Host ε₂) (options : Options)
    (session : SessionName) (limit : Nat) (w₁ : World ε₁) (w₂ : World ε₂)
    (same : SameScript session host₁ w₁.toMachine host₂ w₂.toMachine) :
    (wait host₁ options session limit w₁).result? =
        (wait host₂ options session limit w₂).result? ∧
      (calls host₁ options session limit w₁).map Call.question =
        (calls host₂ options session limit w₂).map Call.question := by
  have clock : (w₁.outsideStep host₁.now).1 = (w₂.outsideStep host₂.now).1 := same.now []
  have started : SameScript session host₁ (w₁.outsideStep host₁.now).2.toMachine
      host₂ (w₂.outsideStep host₂.now).2.toMachine := same.asked .now
  obtain ⟨result_eq, questions_eq⟩ :=
    loop_alike started (options.deadlineAfter (w₂.outsideStep host₂.now).1) options.pollInterval
      limit {}
  constructor
  · rw [wait_eq_loop, wait_eq_loop, clock]
    exact result_eq
  · rw [calls_eq, calls_eq, wait_eq_loop, wait_eq_loop, clock, List.map_cons, List.map_cons,
      questions_eq]

/-- A host whose channel and whose store go by a script: the events one after the other, and the
    hash as it stands after so many of them. -/
def scriptedHost (events : Nat → Option Notification) (hashes : Nat → Members String String) :
    Host Nat where
  now n := (default, n)
  interrupted n := (false, n)
  identity n := (default, n)
  run _ _ m := (.error default, m)
  nextEvent _ m :=
    ({ result := .ok (events m.outside) }, { m with outside := m.outside + 1 })
  readState _ m := ({ result := .ok (StateRecord.ofHash? (hashes m.outside)) }, m)

/-- Two `scriptedHost`s have the `SameScript` if event by event and hash by hash they tell the same.
    -/
theorem sameScript_scriptedHost {session : SessionName}
    {events₁ events₂ : Nat → Option Notification} {hashes₁ hashes₂ : Nat → Members String String}
    (events : ∀ n, SameHint session (.ok (events₁ n)) (.ok (events₂ n)))
    (hashes : ∀ n, StateRecord.SameFields (hashes₁ n) (hashes₂ n)) (m : Machine Nat) :
    SameScript session (scriptedHost events₁ hashes₁) m (scriptedHost events₂ hashes₂) m := by
  -- both hosts change the machine alike
  have after_eq : ∀ questions, (scriptedHost events₁ hashes₁).after m questions =
      (scriptedHost events₂ hashes₂).after m questions := by
    intro questions
    unfold Host.after
    congr 1
  constructor
  · intro questions
    rw [after_eq]
    rfl
  · intro questions
    rw [after_eq]
    rfl
  · intro questions maxWait
    rw [after_eq]
    exact events _
  · intro questions
    rw [after_eq]
    exact .ofHash _ _ (hashes _)

/-- An event of another key, and then events of the session `s`. -/
def plainEvents : Nat → Option Notification
  | 0 => some { key := "t", operation := "hset" }
  | _ => some { key := "s", operation := "hset" }

/-- No event in the place of the first of `plainEvents`, and other operations. -/
def variedEvents : Nat → Option Notification
  | 0 => none
  | _ => some { key := "s", operation := "del" }

/-- A record that is missing at first, then pending and at last completed. -/
def plainHashes : Nat → Members String String
  | 0 => []
  | 1 => []
  | 2 => []
  | 3 => [("state", "pending")]
  | _ => [("state", "completed"), ("file_path", "/a.gz")]

/-- The record of `plainHashes` with empty and with further fields. -/
def variedHashes : Nat → Members String String
  | 0 => []
  | 1 => []
  | 2 => [("state", ""), ("owner", "x")]
  | 3 => [("file_path", ""), ("state", "pending")]
  | _ => [("file_path", "/a.gz"), ("owner", "x"), ("state", "completed")]

/-- The wait by `variedEvents` and `variedHashes` ends as the other one does, and asks what that one
    asks. -/
theorem wait_alike_variedEvents :
    let plain := scriptedHost plainEvents plainHashes
    let varied := scriptedHost variedEvents variedHashes
    let options : Options := ⟨.ofMillis 5, default, .ofMillis 1⟩
    SameScript ⟨"s"⟩ plain ⟨default, 0⟩ varied ⟨default, 0⟩ ∧
    (wait varied options ⟨"s"⟩ 9 ⟨⟨default, 0⟩, []⟩).result? =
      some (.ok ⟨.completed, some .completed, some "/a.gz"⟩) ∧
    (calls plain options ⟨"s"⟩ 9 ⟨⟨default, 0⟩, []⟩).map Call.question =
      (calls varied options ⟨"s"⟩ 9 ⟨⟨default, 0⟩, []⟩).map Call.question := by
  intro plain varied options
  have events : ∀ n, SameHint ⟨"s"⟩ (.ok (plainEvents n)) (.ok (variedEvents n)) := by
    intro n
    match n with
    | 0 => exact .other _ _ (by simp [plainEvents]) (by simp [variedEvents])
    | n + 1 => exact .own _ _ rfl rfl
  have hashes : ∀ n, StateRecord.SameFields (plainHashes n) (variedHashes n) := by
    intro n
    match n with
    | 0 => exact ⟨rfl, rfl⟩
    | 1 => exact ⟨rfl, rfl⟩
    | 2 => exact ⟨by decide, by decide⟩
    | 3 => exact ⟨by decide, by decide⟩
    | n + 4 =>
      show StateRecord.SameFields [("state", "completed"), ("file_path", "/a.gz")]
        [("file_path", "/a.gz"), ("owner", "x"), ("state", "completed")]
      exact ⟨by decide, by decide⟩
  have same : SameScript ⟨"s"⟩ plain ⟨default, 0⟩ varied ⟨default, 0⟩ :=
    sameScript_scriptedHost events hashes ⟨default, 0⟩
  obtain ⟨result_eq, questions_eq⟩ :=
    wait_alike plain varied options ⟨"s"⟩ 9 ⟨⟨default, 0⟩, []⟩ ⟨⟨default, 0⟩, []⟩ same
  have ended : (wait (scriptedHost plainEvents plainHashes) ⟨.ofMillis 5, default, .ofMillis 1⟩
      ⟨"s"⟩ 9 ⟨⟨default, 0⟩, []⟩).result? =
      some (.ok ⟨.completed, some .completed, some "/a.gz"⟩) := by rfl
  exact ⟨same, result_eq.symm.trans ended, questions_eq⟩

end Watch

end FlowDump
