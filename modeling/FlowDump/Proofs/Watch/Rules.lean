import FlowDump.Proofs.Recording
import FlowDump.Watch
import Mathlib.Data.List.Basic

/-!
# The rules of a wait

What a turn can do is said once, by rules, and a whole wait is a chain of turns that follow them.
What is true of every wait is then proved by induction on the chain.

* `Turn.Leads` — the rules: one for each way in which a turn can go.
* `turn_leads` — every turn follows the rules.
* `Follows` — the turns of a wait, one after the other, up to its result.
* `wait_follows` — every wait is such a chain.
* `Follows.split`, `Follows.exists_last` — what a turn in the middle of a chain leads to, and that a
  wait which has ended did so in its last turn.
* `Turn.calls` — the calls of the outside that a turn makes; `wait_keeps` says that a wait makes
  these calls and no others, and `wait_recording` that they are what a recording host keeps.
* `exists_turn_of_calls` — to every call there is the turn that makes it.
-/

namespace FlowDump

namespace StateRecord

/-- Whether a record says that its session has ended, by `SessionState.isTerminal`. -/
def isTerminal (r : StateRecord) : Bool :=
  r.state?.any SessionState.isTerminal

end StateRecord

namespace Watch

variable {ε : Type}

/-- The `Status` of a wait whose session has ended in this state. -/
def Status.ofState (state : SessionState) : Status :=
  if state = .completed then .completed else .failed

/-! ### What a reading changes -/

/-- `observe` leaves the machine alone: a record is looked at without a call. -/
theorem observe_machine (session : SessionName) (seen : Seen) (record : StateRecord)
    (w : World ε) : (observe session seen record w).2.toMachine = w.toMachine := by
  unfold observe
  split
  · rfl
  · dsimp only
    split <;> rfl

/-- What `read` gives is what the store has answered. -/
theorem read_result (host : Host ε) (session : SessionName) (seen : Seen)
    (event : Notification) (w : World ε) :
    (read host session seen event w).1 = (host.readState session w.toMachine).1.result := by
  simp only [read, World.machineStep]
  split <;> rfl

/-- `read` changes the machine by `Host.readState` alone. -/
theorem read_machine (host : Host ε) (session : SessionName) (seen : Seen)
    (event : Notification) (w : World ε) :
    (read host session seen event w).2.2.toMachine = (host.readState session w.toMachine).2 := by
  simp only [read, World.machineStep]
  split
  · rfl
  · rfl
  · rw [observe_machine]
    rfl

/-! ### The rules of a turn -/

/-- The `Step` that a turn leads to, by what was asked and answered in it: the rules of a wait. -/
inductive Turn.Leads (session : SessionName) (seen : Seen) : Turn → Step → Prop where
  /-- The flag ends the wait before anything else is looked at. -/
  | stopped : Leads session seen .stopped (.done (.ok (seen.outcome .interrupted)))
  | expired (now : Instant) :
      Leads session seen (.expired now) (.done (.ok (seen.outcome .timedOut)))
  | channelFails (now? : Option Instant) (maxWait : Duration) (e : Failure) :
      Leads session seen (.polled now? maxWait (.error e) none) (.done (.error e))
  | silence (now? : Option Instant) (maxWait : Duration) :
      Leads session seen (.polled now? maxWait (.ok none) none) (.again seen)
  /-- An event of another key leads to no reading. -/
  | otherKey (now? : Option Instant) (maxWait : Duration) (event : Notification)
      (key_ne : event.key ≠ session.text) :
      Leads session seen (.polled now? maxWait (.ok (some event)) none) (.again seen)
  | storeFails (now? : Option Instant) (maxWait : Duration) (event : Notification)
      (key_eq : event.key = session.text) (e : Failure) :
      Leads session seen (.polled now? maxWait (.ok (some event)) (some (.error e)))
        (.done (.error e))
  | noRecord (now? : Option Instant) (maxWait : Duration) (event : Notification)
      (key_eq : event.key = session.text) :
      Leads session seen (.polled now? maxWait (.ok (some event)) (some (.ok none)))
        (.again seen)
  | goesOn (now? : Option Instant) (maxWait : Duration) (event : Notification)
      (key_eq : event.key = session.text) (record : StateRecord)
      (not_terminal : record.isTerminal = false) :
      Leads session seen (.polled now? maxWait (.ok (some event)) (some (.ok (some record))))
        (.again (seen.update record))
  /-- The record itself says how the wait ends. -/
  | ends (now? : Option Instant) (maxWait : Duration) (event : Notification)
      (key_eq : event.key = session.text) (record : StateRecord) (state : SessionState)
      (state_eq : record.state? = some state) (terminal : state.isTerminal = true) :
      Leads session seen (.polled now? maxWait (.ok (some event)) (some (.ok (some record))))
        (.done (.ok ((seen.update record).outcome (.ofState state))))

/-- `observe` ends the wait or lets it go on, as the state of the record says. -/
theorem observe_leads (session : SessionName) (seen : Seen) (now? : Option Instant)
    (maxWait : Duration) (event : Notification) (key_eq : event.key = session.text)
    (record : StateRecord) (w : World ε) :
    Turn.Leads session seen (.polled now? maxWait (.ok (some event)) (some (.ok (some record))))
      (observe session seen record w).1 := by
  unfold observe
  cases hs : record.state? with
  | none => exact .goesOn _ _ _ key_eq _ (by simp [StateRecord.isTerminal, hs])
  | some state =>
    cases ht : state.isTerminal with
    | false =>
      simp only [ht, Bool.false_eq_true, if_false]
      exact .goesOn _ _ _ key_eq _ (by simp [StateRecord.isTerminal, hs, ht])
    | true =>
      simp only [ht, if_true]
      exact .ends _ _ _ key_eq _ state hs ht

/-- `read` follows up an event of the session, and leads to what its record says. -/
theorem read_leads (host : Host ε) (session : SessionName) (seen : Seen) (now? : Option Instant)
    (maxWait : Duration) (event : Notification) (key_eq : event.key = session.text)
    (w : World ε) :
    Turn.Leads session seen
      (.polled now? maxWait (.ok (some event)) (some (read host session seen event w).1))
      (read host session seen event w).2.1 := by
  simp only [read]
  split
  · rename_i e he
    rw [he]
    exact .storeFails _ _ _ key_eq e
  · rename_i hn
    rw [hn]
    exact .noRecord _ _ _ key_eq
  · rename_i record hr
    rw [hr]
    exact observe_leads session seen now? maxWait event key_eq record _

/-- `poll` follows the rules of `Turn.Leads`. -/
theorem poll_leads (host : Host ε) (session : SessionName) (seen : Seen) (now? : Option Instant)
    (maxWait : Duration) (w : World ε) :
    Turn.Leads session seen (poll host session seen now? maxWait w).1
      (poll host session seen now? maxWait w).2.1 := by
  simp only [poll]
  split
  · rename_i e he
    rw [he]
    exact .channelFails _ _ e
  · rename_i hn
    rw [hn]
    exact .silence _ _
  · rename_i event hs
    rw [hs]
    split
    · rename_i key_eq
      exact read_leads host session seen now? maxWait event key_eq _
    · rename_i key_ne
      exact .otherKey _ _ event key_ne

/-- Every `turn` follows the rules of `Turn.Leads`. -/
theorem turn_leads (host : Host ε) (deadline? : Option Instant) (pollInterval : Duration)
    (session : SessionName) (seen : Seen) (w : World ε) :
    Turn.Leads session seen (turn host deadline? pollInterval session seen w).1
      (turn host deadline? pollInterval session seen w).2.1 := by
  simp only [turn]
  split
  · exact .stopped
  · split
    · exact .expired _
    · exact poll_leads host session seen _ _ _

/-! ### Chains of turns -/

/-- The turns of a wait that begins with what was seen before, each of which `Turn.Leads` to the
    next, and its result if it has ended. -/
inductive Follows (session : SessionName) :
    Seen → List Turn → Option (Except Failure Outcome) → Prop where
  /-- The wait is still going on. -/
  | pending (seen : Seen) : Follows session seen [] none
  | last {seen : Seen} {t : Turn} {result : Except Failure Outcome}
      (step : Turn.Leads session seen t (.done result)) : Follows session seen [t] (some result)
  | next {seen seen' : Seen} {t : Turn} {rest : List Turn}
      {result? : Option (Except Failure Outcome)}
      (step : Turn.Leads session seen t (.again seen'))
      (tail : Follows session seen' rest result?) : Follows session seen (t :: rest) result?

/-- A `loop` is a chain of turns: each one but the last lets the wait go on. -/
theorem loop_follows (host : Host ε) (deadline? : Option Instant) (pollInterval : Duration)
    (session : SessionName) (limit : Nat) (seen : Seen) (w : World ε) :
    Follows session seen (loop host deadline? pollInterval session limit seen w).turns
      (loop host deadline? pollInterval session limit seen w).result? := by
  induction limit generalizing seen w with
  | zero => exact .pending seen
  | succ limit ih =>
    have h := turn_leads host deadline? pollInterval session seen w
    unfold loop
    split
    · rename_i t result w' ht
      rw [ht] at h
      exact .last h
    · rename_i t seen' w' ht
      rw [ht] at h
      exact .next h (ih seen' w')

/-- A `wait` is a chain of turns that begins with nothing seen. -/
theorem wait_follows (host : Host ε) (options : Options) (session : SessionName) (limit : Nat)
    (w : World ε) :
    Follows session {} (wait host options session limit w).turns
      (wait host options session limit w).result? := by
  rw [wait_eq_loop]
  exact loop_follows ..

/-- Every turn of a chain that `Follows` the rules ends it or lets it go on with the turns that
    follow. -/
theorem Follows.split {session : SessionName} {seen : Seen} {earlier later : List Turn} {t : Turn}
    {result? : Option (Except Failure Outcome)}
    (h : Follows session seen (earlier ++ t :: later) result?) :
    ∃ before,
      (∃ result, Turn.Leads session before t (.done result) ∧ later = [] ∧
        result? = some result) ∨
      (∃ after, Turn.Leads session before t (.again after) ∧ Follows session after later result?)
    := by
  induction earlier generalizing seen with
  | nil =>
    cases h with
    | last step => exact ⟨seen, .inl ⟨_, step, rfl, rfl⟩⟩
    | next step tail => exact ⟨seen, .inr ⟨_, step, tail⟩⟩
  | cons t' rest ih =>
    generalize hts : (t' :: rest) ++ t :: later = turns at h
    cases h with
    | pending seen => cases hts
    | last step => simp at hts
    | next step tail =>
      obtain ⟨rfl, rfl⟩ := List.cons.inj hts
      exact ih tail

/-- A chain that has a result got it from its last turn. -/
theorem Follows.exists_last {session : SessionName} {seen : Seen} {turns : List Turn}
    {result : Except Failure Outcome} (h : Follows session seen turns (some result)) :
    ∃ before earlier t, turns = earlier ++ [t] ∧ Turn.Leads session before t (.done result) := by
  generalize hr : some result = result? at h
  induction h with
  | pending seen => cases hr
  | @last seen t result' step =>
    cases hr
    exact ⟨seen, [], t, rfl, step⟩
  | @next seen seen' t rest result? step tail ih =>
    obtain ⟨before, earlier, t', rfl, last⟩ := ih hr
    exact ⟨before, t :: earlier, t', rfl, last⟩

/-- A `loop` that is still going on has taken all the turns that it was given. -/
theorem length_turns_loop (host : Host ε) (deadline? : Option Instant) (pollInterval : Duration)
    (session : SessionName) (limit : Nat) (seen : Seen) (w : World ε)
    (pending : (loop host deadline? pollInterval session limit seen w).result? = none) :
    (loop host deadline? pollInterval session limit seen w).turns.length = limit := by
  induction limit generalizing seen w with
  | zero => rfl
  | succ limit ih =>
    rcases hstep : turn host deadline? pollInterval session seen w with ⟨t, step, w'⟩
    simp only [loop, hstep] at pending ⊢
    cases step with
    | done result => cases pending
    | again seen' =>
      have later := ih seen' w' pending
      simp only [List.length_cons, later]

/-- A `wait` that is still going on has taken all the turns that it was given. -/
theorem length_turns_wait (host : Host ε) (options : Options) (session : SessionName)
    (limit : Nat) (w : World ε)
    (pending : (wait host options session limit w).result? = none) :
    (wait host options session limit w).turns.length = limit := by
  rw [wait_eq_loop] at pending ⊢
  exact length_turns_loop _ _ _ _ _ _ _ pending

/-! ### The calls of a wait -/

/-- What the store answered in a turn, if it was asked. -/
def Turn.read? : Turn → Option (Except Failure (Option StateRecord))
  | .polled _ _ _ read? => read?
  | _ => none

/-- The calls by which a turn finds out whether it is to go on. -/
def Turn.looks : Turn → List Call
  | .stopped => [.interrupted true]
  | .expired now => [.interrupted false, .now now]
  | .polled now? _ _ _ => .interrupted false :: (now?.map Call.now).toList

/-- The calls of the channel and the store in a turn. -/
def Turn.asks (session : SessionName) : Turn → List Call
  | .polled _ maxWait event read? =>
    .nextEvent maxWait event :: (read?.map (Call.readState session)).toList
  | _ => []

/-- The calls that a turn makes, in order: `Turn.looks` and then `Turn.asks`. -/
def Turn.calls (session : SessionName) (t : Turn) : List Call :=
  t.looks ++ t.asks session

section Keeps

variable {κ : Type} {host : Host ε} {beside : Host (ε × List κ)} {note : Call → List κ}

/-- A wait beside what was kept in it and before. -/
def Run.along (r : Run ε) (kept : List κ) : Run (ε × List κ) :=
  { result? := r.result?, turns := r.turns, world := r.world.along kept }

/-- `observe` makes no call, and leaves what is kept alone. -/
theorem observe_along (session : SessionName) (seen : Seen) (record : StateRecord)
    (w : World ε) (kept : List κ) :
    observe session seen record (w.along kept) =
      ((observe session seen record w).1, (observe session seen record w).2.along kept) := by
  unfold observe
  split
  · rfl
  · dsimp only [World.along_remark]
    split <;> rfl

/-- `read` makes one call, of the store. -/
theorem read_keeps (keeps : host.Keeps beside note) (session : SessionName) (seen : Seen)
    (event : Notification) (w : World ε) (kept : List κ) :
    read beside session seen event (w.along kept) =
      ((read host session seen event w).1, (read host session seen event w).2.1,
        (read host session seen event w).2.2.along
          (kept ++ note (.readState session (read host session seen event w).1))) := by
  simp only [read, World.along_remark, keeps.readState session]
  split <;> simp only [*, observe_along]

/-- `poll` asks the channel, and the store after an event of the session. -/
theorem poll_keeps (keeps : host.Keeps beside note) (session : SessionName) (seen : Seen)
    (now? : Option Instant) (maxWait : Duration) (w : World ε) (kept : List κ) :
    poll beside session seen now? maxWait (w.along kept) =
      ((poll host session seen now? maxWait w).1, (poll host session seen now? maxWait w).2.1,
        (poll host session seen now? maxWait w).2.2.along
          (kept ++ ((poll host session seen now? maxWait w).1.asks session).flatMap note)) := by
  simp only [poll, keeps.nextEvent maxWait, World.along_remark]
  split
  · simp [*, Turn.asks]
  · simp [*, Turn.asks]
  · split
    · simp [*, read_keeps keeps, Turn.asks]
    · simp [*, Turn.asks]

/-- `poll` comes after the flag and the clock. -/
theorem poll_looks (host : Host ε) (session : SessionName) (seen : Seen) (now? : Option Instant)
    (maxWait : Duration) (w : World ε) :
    (poll host session seen now? maxWait w).1.looks =
      .interrupted false :: (now?.map Call.now).toList := by
  simp only [poll]
  split
  · rfl
  · rfl
  · split <;> rfl

/-- The `Call` by which a plan was made. -/
def Plan.looks : Plan → List Call
  | .expire now => [.now now]
  | .poll now? _ => (now?.map Call.now).toList

/-- `plan` reads the clock where there is a deadline. -/
theorem plan_keeps (keeps : host.Keeps beside note) (deadline? : Option Instant)
    (pollInterval : Duration) (w : World ε) (kept : List κ) :
    plan beside deadline? pollInterval (w.along kept) =
      ((plan host deadline? pollInterval w).1,
        (plan host deadline? pollInterval w).2.along
          (kept ++ (plan host deadline? pollInterval w).1.looks.flatMap note)) := by
  cases deadline? with
  | none => simp [plan, Plan.looks]
  | some deadline =>
    simp only [plan, keeps.now]
    split <;> simp [Plan.looks]

/-- A `turn` beside what is kept is the turn on the host, with its calls noted. -/
theorem turn_keeps (keeps : host.Keeps beside note) (deadline? : Option Instant)
    (pollInterval : Duration) (session : SessionName) (seen : Seen) (w : World ε)
    (kept : List κ) :
    turn beside deadline? pollInterval session seen (w.along kept) =
      ((turn host deadline? pollInterval session seen w).1,
        (turn host deadline? pollInterval session seen w).2.1,
        (turn host deadline? pollInterval session seen w).2.2.along
          (kept ++
            ((turn host deadline? pollInterval session seen w).1.calls session).flatMap note)) := by
  simp only [turn, keeps.interrupted, plan_keeps keeps]
  split
  · rename_i h
    simp [h, Turn.calls, Turn.looks, Turn.asks]
  · rename_i h
    cases hp : plan host deadline? pollInterval (w.outsideStep host.interrupted).2 with
    | mk todo w' =>
      cases todo with
      | expire now => simp [h, Plan.looks, Turn.calls, Turn.looks, Turn.asks]
      | poll now? maxWait =>
        simp [h, Plan.looks, poll_keeps keeps, Turn.calls, poll_looks]

/-- A `loop` beside what is kept notes the calls of its turns. -/
theorem loop_keeps (keeps : host.Keeps beside note) (deadline? : Option Instant)
    (pollInterval : Duration) (session : SessionName) (limit : Nat) (seen : Seen) (w : World ε)
    (kept : List κ) :
    loop beside deadline? pollInterval session limit seen (w.along kept) =
      (loop host deadline? pollInterval session limit seen w).along
        (kept ++ ((loop host deadline? pollInterval session limit seen w).turns.flatMap
          (Turn.calls session)).flatMap note) := by
  induction limit generalizing seen w kept with
  | zero => simp [loop, Run.along]
  | succ limit ih =>
    unfold loop
    rw [turn_keeps keeps]
    rcases turn host deadline? pollInterval session seen w with ⟨t, step, w'⟩
    cases step with
    | done result => simp [Run.along]
    | again seen' => simp [ih, Run.along]

/-- **The turns of a wait are what the outside was asked.**  Beside what is kept `wait` goes as it
    goes on the host; one reading of the clock and the calls of its turns are noted. -/
theorem wait_keeps (keeps : host.Keeps beside note) (options : Options) (session : SessionName)
    (limit : Nat) (w : World ε) (kept : List κ) :
    wait beside options session limit (w.along kept) =
      (wait host options session limit w).along
        (kept ++ (.now (w.outsideStep host.now).1 ::
          (wait host options session limit w).turns.flatMap (Turn.calls session)).flatMap
            note) := by
  rw [wait_eq_loop, wait_eq_loop, keeps.now, loop_keeps keeps]
  simp

end Keeps

/-- On `Host.recording` a wait leaves one reading of the clock and the calls of its turns. -/
theorem wait_recording (host : Host ε) (options : Options) (session : SessionName) (limit : Nat)
    (w : World ε) (calls : List Call) :
    wait host.recording options session limit (w.keeping calls) =
      { result? := (wait host options session limit w).result?
        turns := (wait host options session limit w).turns
        world := (wait host options session limit w).world.keeping
          (calls ++ .now (w.outsideStep host.now).1 ::
            (wait host options session limit w).turns.flatMap (Turn.calls session)) } := by
  have h := wait_keeps host.recording_keeps options session limit w calls
  rw [List.flatMap_singleton'] at h
  exact h

/-- The calls that a wait makes, as `Host.recording` keeps them. -/
def calls (host : Host ε) (options : Options) (session : SessionName) (limit : Nat)
    (w : World ε) : List Call :=
  (wait host.recording options session limit (w.keeping [])).world.outside.2

/-- The `calls` of a wait are its first reading of the clock and those of its turns. -/
theorem calls_eq (host : Host ε) (options : Options) (session : SessionName) (limit : Nat)
    (w : World ε) :
    calls host options session limit w =
      .now (w.outsideStep host.now).1 ::
        (wait host options session limit w).turns.flatMap (Turn.calls session) := by
  rw [calls, wait_recording, World.keeping_outside, List.nil_append]

/-- Every one of the calls of some turns is a call of one of them. -/
theorem exists_turn_of_calls {session : SessionName} {turns : List Turn} {before after : List Call}
    {c : Call} (h : turns.flatMap (Turn.calls session) = before ++ c :: after) :
    ∃ earlier t later b a, turns = earlier ++ t :: later ∧ t.calls session = b ++ c :: a ∧
      before = earlier.flatMap (Turn.calls session) ++ b ∧
      after = a ++ later.flatMap (Turn.calls session) := by
  induction turns generalizing before with
  | nil => simp at h
  | cons t rest ih =>
    rw [List.flatMap_cons] at h
    rcases List.append_eq_append_iff.mp h with ⟨b, hb, hrest⟩ | ⟨b, ht, hb⟩
    · -- the call comes after the first turn
      obtain ⟨earlier, t', later, b', a, rfl, ht', rfl, rfl⟩ := ih hrest
      exact ⟨t :: earlier, t', later, b', a, rfl, ht', by simp [hb], rfl⟩
    -- the first turn ends right before the call, or the call is one of its own
    · cases b with
      | nil =>
        have first : rest.flatMap (Turn.calls session) = [] ++ c :: after := hb.symm
        obtain ⟨earlier, t', later, b', a, rfl, ht', hnil, rfl⟩ := ih first
        refine ⟨t :: earlier, t', later, b', a, rfl, ht', ?_, rfl⟩
        rw [List.append_nil] at ht
        rw [List.flatMap_cons, List.append_assoc, ← hnil, List.append_nil, ht]
      | cons c' a =>
        obtain ⟨rfl, rfl⟩ := List.cons.inj hb
        exact ⟨[], t, rest, before, a, rfl, ht, rfl, rfl⟩

/-- The turn that asks `Host.nextEvent` has looked at the flag, and at the clock if there is a
    deadline, and asks the store afterwards or nothing more. -/
theorem Turn.calls_nextEvent {session : SessionName} {t : Turn} {before after : List Call}
    {maxWait : Duration} {answer : Except Failure (Option Notification)}
    (h : t.calls session = before ++ .nextEvent maxWait answer :: after) :
    ∃ now? read?, t = .polled now? maxWait answer read? ∧
      before = .interrupted false :: (now?.map Call.now).toList ∧
      after = (read?.map (Call.readState session)).toList := by
  have mem : Call.nextEvent maxWait answer ∈ t.calls session := h ▸ List.mem_append_cons_self
  cases t with
  | stopped => simp [calls, looks, asks] at mem
  | expired now => simp [calls, looks, asks] at mem
  | polled now? maxWait' answer' read? =>
    have notMem_looks : Call.nextEvent maxWait answer ∉
        .interrupted false :: (now?.map Call.now).toList := by
      cases now? <;> simp
    have notMem_read : Call.nextEvent maxWait answer ∉
        (read?.map (Call.readState session)).toList := by
      cases read? <;> simp
    obtain ⟨rfl, same, rfl⟩ := (List.append_cons_inj_of_notMem notMem_looks notMem_read).mp h
    cases same
    exact ⟨now?, read?, rfl, rfl, rfl⟩

/-- The turn that reads `Host.now` is given up at once or asks the channel. -/
theorem Turn.calls_now {session : SessionName} {t : Turn} {before after : List Call}
    {now : Instant} (h : t.calls session = before ++ .now now :: after) :
    (t = .expired now ∧ after = []) ∨
      ∃ maxWait answer read?, t = .polled (some now) maxWait answer read? := by
  have mem : Call.now now ∈ t.calls session := h ▸ List.mem_append_cons_self
  have notMem_looks : Call.now now ∉ [Call.interrupted false] := by simp
  cases t with
  | stopped => simp [calls, looks, asks] at mem
  | expired now' =>
    obtain ⟨-, same, rfl⟩ :=
      (List.append_cons_inj_of_notMem notMem_looks List.not_mem_nil).mp h
    cases same
    exact .inl ⟨rfl, rfl⟩
  | polled now? maxWait answer read? =>
    -- the clock is only among the looks, so the call can stand in one place
    have notMem_asks : Call.now now ∉ asks session (.polled now? maxWait answer read?) := by
      cases read? <;> simp [asks]
    cases now? with
    | none => simp [calls, looks, notMem_asks] at mem
    | some now' =>
      obtain ⟨-, same, -⟩ := (List.append_cons_inj_of_notMem notMem_looks notMem_asks).mp h
      cases same
      exact .inr ⟨maxWait, answer, read?, rfl⟩

/-- To every call of `Host.nextEvent` there is the turn that makes it, with what it looked at
    before. -/
theorem exists_polled_of_calls {session : SessionName} {turns : List Turn}
    {before after : List Call} {maxWait : Duration}
    {answer : Except Failure (Option Notification)}
    (h : turns.flatMap (Turn.calls session) = before ++ .nextEvent maxWait answer :: after) :
    ∃ earlier now? read?, Turn.polled now? maxWait answer read? ∈ turns ∧
      before = earlier ++ .interrupted false :: (now?.map Call.now).toList := by
  obtain ⟨earlier, t, later, b, a, rfl, ht, rfl, -⟩ := exists_turn_of_calls h
  obtain ⟨now?, read?, rfl, rfl, -⟩ := Turn.calls_nextEvent ht
  exact ⟨_, now?, read?, by simp, rfl⟩

/-- Among the calls of a turn there is one of the store, by `Call.read?`, where it was asked. -/
theorem filterMap_read?_calls (session : SessionName) (t : Turn) :
    (t.calls session).filterMap Call.read? = t.read?.toList := by
  cases t with
  | stopped => rfl
  | expired now => rfl
  | polled now? maxWait event read? => cases now? <;> cases read? <;> rfl

end Watch

end FlowDump
