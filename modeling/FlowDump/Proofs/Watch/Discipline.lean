import FlowDump.Proofs.Dump.Session
import FlowDump.Proofs.Watch.Timing

/-!
# Which of the answers ends a wait

In one turn the flag may be set, the deadline reached, the channel or the store lost and a terminal
record read.  The calls of a wait and its result settle which of these counts: the flag is looked at
first and the clock after it, the first failure is the result, the first terminal record is the last
call, and once the flag stays set no other turn asks the channel.  The flag comes too late where it
is set after the look of a turn whose clock then shows that the deadline was reached.

* `OneTurn` — calls that are made between two looks at the flag.
* `Follows.of_flagged` — a chain of turns that finds the flag set does nothing more.
* `Halts` — how a wait goes on from the moment at which the flag is set for good.
* `Disciplined` — what holds of the calls of a wait and its result.
* `wait_ends_at_first_decision` — it holds of every wait, and `not_interrupted_lateHost` is the wait
  that is given up although the flag is set.
-/

namespace FlowDump

namespace Call

/-- What the flag answered, if the `Call` looked at it. -/
def flag? : Call → Option Bool
  | .interrupted answer => some answer
  | _ => none

/-- Whether a `Call` asks the channel. -/
def isPoll : Call → Bool
  | .nextEvent .. => true
  | _ => false

/-- Whether a `Call` asks the store. -/
def isReading : Call → Bool
  | .readState .. => true
  | _ => false

end Call

namespace Watch

variable {ε : Type} {session : SessionName} {seen : Seen} {turns : List Turn}
  {result? : Option (Except Failure Outcome)} {deadline? : Option Instant}
  {pollInterval : Duration}

/-! ### The calls of one turn -/

/-- Calls that are made between two looks at the flag: the channel and the store are asked once at
    most. -/
structure OneTurn (calls : List Call) : Prop where
  unlooked : ∀ c ∈ calls, c.flag? = none
  polled : calls.countP Call.isPoll ≤ 1
  read : calls.countP Call.isReading ≤ 1

theorem OneTurn.of_suffix {calls later : List Call} (h : OneTurn calls) (suffix : later <:+ calls) :
    OneTurn later where
  unlooked c mem := h.unlooked c (suffix.subset mem)
  polled := Nat.le_trans suffix.sublist.countP_le h.polled
  read := Nat.le_trans suffix.sublist.countP_le h.read

theorem OneTurn.nil : OneTurn [] where
  unlooked := List.forall_mem_nil _
  polled := Nat.zero_le 1
  read := Nat.zero_le 1

theorem OneTurn.now (now : Instant) : OneTurn [.now now] where
  unlooked := List.forall_mem_singleton.mpr rfl
  polled := Nat.zero_le 1
  read := Nat.zero_le 1

/-- A turn looks at the flag first, and only once: its other calls are calls of `OneTurn`. -/
theorem Turn.exists_calls_eq (session : SessionName) (t : Turn) :
    ∃ flag rest, t.calls session = .interrupted flag :: rest ∧ OneTurn rest ∧
      (flag = true → t = .stopped) := by
  cases t with
  | stopped => exact ⟨true, [], rfl, .nil, fun _ => rfl⟩
  | expired now => exact ⟨false, [.now now], rfl, .now now, nofun⟩
  | polled now? maxWait event read? =>
    refine ⟨false, (now?.map Call.now).toList ++ asks session (.polled now? maxWait event read?),
      rfl, ?_, nofun⟩
    cases now? <;> cases read? <;>
      exact ⟨by simp [asks, Call.flag?], by simp [asks, Call.isPoll, List.countP_cons],
        by simp [asks, Call.isReading, List.countP_cons]⟩

/-- A turn that asks the store does so last. -/
theorem Turn.calls_of_read (session : SessionName) (now? : Option Instant) (maxWait : Duration)
    (event : Except Failure (Option Notification)) (answer : Except Failure (Option StateRecord)) :
    (Turn.polled now? maxWait event (some answer)).calls session =
      (Turn.polled now? maxWait event none).calls session ++ [.readState session answer] := by
  simp [calls, looks, asks]

/-- As many turns were begun as there were looks at the flag, by `Call.flag?`. -/
theorem length_looks (session : SessionName) (turns : List Turn) :
    ((turns.flatMap (Turn.calls session)).filterMap Call.flag?).length = turns.length := by
  induction turns with
  | nil => rfl
  | cons t rest ih =>
    obtain ⟨flag, later, calls_eq, one, -⟩ := t.exists_calls_eq session
    have unlooked : later.filterMap Call.flag? = [] :=
      List.filterMap_eq_nil_iff.mpr one.unlooked
    have look : (t.calls session).filterMap Call.flag? = [flag] := by
      have answer : Call.flag? (.interrupted flag) = some flag := rfl
      rw [calls_eq, List.filterMap_cons_some answer, unlooked]
    rw [List.flatMap_cons, List.filterMap_append, List.length_append, ih, look,
      List.length_singleton, List.length_cons, Nat.add_comm]

/-! ### The flag is set -/

/-- From some calls on the flag is found set whenever it is looked at. -/
def Flagged (calls : List Call) : Prop := ∀ flag, Call.interrupted flag ∈ calls → flag = true

theorem Flagged.of_suffix {calls later : List Call} (h : Flagged calls) (suffix : later <:+ calls) :
    Flagged later :=
  fun flag mem => h flag (suffix.subset mem)

/-- A chain of turns whose calls are `Flagged` ends with its first turn, if it is given one. -/
theorem Follows.of_flagged (chain : Follows session seen turns result?)
    (set : Flagged (turns.flatMap (Turn.calls session))) :
    (turns = [] ∧ result? = none) ∨
      (turns = [.stopped] ∧ result? = some (.ok (seen.outcome .interrupted))) := by
  -- every turn looks at the flag first, and finds it set
  have first_stopped : ∀ {t : Turn} {rest : List Turn}, turns = t :: rest → t = .stopped := by
    intro t rest turns_eq
    obtain ⟨flag, later, calls_eq, -, stopped⟩ := t.exists_calls_eq session
    refine stopped (set flag ?_)
    rw [turns_eq, List.flatMap_cons, calls_eq]
    exact List.mem_cons_self
  cases chain with
  | pending seen => exact .inl ⟨rfl, rfl⟩
  | last step =>
    obtain rfl := first_stopped rfl
    cases step with
    | stopped => exact .inr ⟨rfl, rfl⟩
  | next step tail =>
    obtain rfl := first_stopped rfl
    cases step

/-- How a `wait` with some deadline goes on from the moment at which the flag is set for good, by
    the calls before and after this moment. -/
inductive Halts (session : SessionName) (deadline? : Option Instant) (limit : Nat)
    (before : List Call) : List Call → Option (Except Failure Outcome) → Prop where
  /-- The turn in progress comes to its end, and the next one finds the flag set. -/
  | heeded (current : List Call) (one : OneTurn current) (outcome : Outcome)
      (status_eq : outcome.status = .interrupted) :
      Halts session deadline? limit before (current ++ [.interrupted true]) (some (.ok outcome))
  /-- The turn in progress meets a failure. -/
  | failed (current : List Call) (c : Call) (one : OneTurn (current ++ [c])) (e : Failure)
      (failed : c.failure? = some e) :
      Halts session deadline? limit before (current ++ [c]) (some (.error e))
  /-- The turn in progress reads a terminal record. -/
  | ended (current : List Call) (record : StateRecord)
      (one : OneTurn (current ++ [.readState session (.ok (some record))])) (state : SessionState)
      (state_eq : record.state? = some state) (terminal : state.isTerminal = true)
      (outcome : Outcome) (status_eq : outcome.status = .ofState state) :
      Halts session deadline? limit before (current ++ [.readState session (.ok (some record))])
        (some (.ok outcome))
  /-- The turn in progress has just looked at the flag, and the clock is then read to have reached
      the deadline: neither the channel nor the store is asked. -/
  | expired (looked : ∃ earlier, before = earlier ++ [.interrupted false]) (deadline now : Instant)
      (deadline_eq : deadline? = some deadline) (reached : deadline.toNanos ≤ now.toNanos)
      (outcome : Outcome) (status_eq : outcome.status = .timedOut) :
      Halts session deadline? limit before [.now now] (some (.ok outcome))
  /-- The turn in progress is the last one that the wait is given. -/
  | pending (current : List Call) (one : OneTurn current)
      (spent : (before.filterMap Call.flag?).length = limit) :
      Halts session deadline? limit before current none

/-- The last turn of a wait `Halts` it, if it has looked at the flag before. -/
theorem Turn.Leads.halts {t : Turn} {result : Except Failure Outcome}
    (step : Turn.Leads session seen t (.done result)) (timely : t.Timely deadline? pollInterval)
    {flag : Bool} {passed current : List Call} {c : Call}
    (calls_eq : t.calls session = .interrupted flag :: passed ++ c :: current)
    (one : OneTurn (c :: current)) (limit : Nat) (earlier : List Call) :
    Halts session deadline? limit (earlier ++ .interrupted flag :: passed) (c :: current)
      (some result) := by
  -- the calls from the moment on end with the last call of the turn
  have ends : ∀ {init : List Call} (last : Call), t.calls session = init ++ [last] →
      ∃ front, c :: current = front ++ [last] := by
    intro init last calls_eq'
    have last_eq := congrArg List.getLast? (calls_eq.symm.trans calls_eq')
    rw [List.getLast?_append_of_ne_nil _ (List.cons_ne_nil c current),
      List.getLast?_concat] at last_eq
    exact List.getLast?_eq_some_iff.mp last_eq
  cases step with
  | stopped => simp [Turn.calls, Turn.looks, Turn.asks] at calls_eq
  | expired now =>
    obtain ⟨flag_eq, rest_eq⟩ : Call.interrupted false = .interrupted flag ∧
        [Call.now now] = passed ++ c :: current := List.cons.inj calls_eq
    obtain ⟨rfl, rfl, rfl⟩ : passed = [] ∧ c = .now now ∧ current = [] := by
      rcases List.singleton_eq_append_iff.mp rest_eq with ⟨rfl, h⟩ | ⟨-, h⟩
      · obtain ⟨rfl, rfl⟩ := List.cons.inj h
        exact ⟨rfl, rfl, rfl⟩
      · cases h
    obtain ⟨deadline, deadline_eq, reached⟩ := timely.exists_deadline
    exact .expired ⟨earlier, by rw [flag_eq]⟩ deadline now deadline_eq reached _ rfl
  | channelFails now? maxWait e =>
    obtain ⟨front, rest_eq⟩ := ends (.nextEvent maxWait (.error e)) rfl
    rw [rest_eq] at one ⊢
    exact .failed front _ one e rfl
  | storeFails now? maxWait event key_eq e =>
    obtain ⟨front, rest_eq⟩ := ends _ (calls_of_read session now? maxWait _ _)
    rw [rest_eq] at one ⊢
    exact .failed front _ one e rfl
  | ends now? maxWait event key_eq record state state_eq terminal =>
    obtain ⟨front, rest_eq⟩ := ends _ (calls_of_read session now? maxWait _ _)
    rw [rest_eq] at one ⊢
    exact .ended front record one state state_eq terminal _ rfl

/-- **The flag is obeyed.**  Where a chain of turns finds the flag set from some call on, the turn
    in progress at this call is the last one that asks anything: it `Halts` the chain. -/
theorem Follows.halts (chain : Follows session seen turns result?)
    (timely : ∀ t ∈ turns, t.Timely deadline? pollInterval) {limit : Nat}
    (all : result? = none → turns.length = limit) {earlier before after : List Call} {c : Call}
    (calls_eq : turns.flatMap (Turn.calls session) = before ++ c :: after)
    (unlooked : ∀ c ∈ earlier, c.flag? = none) (set : Flagged (c :: after)) :
    Halts session deadline? limit (earlier ++ before) (c :: after) result? := by
  obtain ⟨passed, t, later, b, a, rfl, t_eq, rfl, rfl⟩ := exists_turn_of_calls calls_eq
  obtain ⟨flag, rest, t_eq', one, stopped⟩ := t.exists_calls_eq session
  obtain ⟨seen', ends⟩ := chain.split
  cases b with
  | nil =>
    -- the turn itself begins at this moment, and finds the flag set
    rw [t_eq', List.nil_append, List.cons.injEq] at t_eq
    obtain ⟨rfl, rfl⟩ := t_eq
    obtain rfl := stopped (set flag List.mem_cons_self)
    cases t_eq'
    obtain ⟨result, step, rfl, rfl⟩ | ⟨after, step, -⟩ := ends
    · cases step with
      | stopped => exact .heeded [] .nil _ rfl
    · cases step
  | cons look b =>
    have t_rest : rest = b ++ c :: a := by
      rw [t_eq'] at t_eq
      exact (List.cons.inj t_eq).2
    have one_later : OneTurn (c :: a) := one.of_suffix (t_rest ▸ List.suffix_append b _)
    obtain ⟨result, step, rfl, rfl⟩ | ⟨seen'', -, tail⟩ := ends
    · rw [List.flatMap_nil, List.append_nil]
      rw [t_eq', List.cons_append, List.cons.injEq] at t_eq
      rw [← t_eq.1, ← List.append_assoc]
      exact step.halts (timely t (by simp)) (by rw [t_eq', t_rest]; rfl) one_later limit _
    · have set_later : Flagged (later.flatMap (Turn.calls session)) :=
        set.of_suffix (List.suffix_append (c :: a) _)
      rcases tail.of_flagged set_later with ⟨rfl, rfl⟩ | ⟨rfl, rfl⟩
      · -- the turn has looked at the flag before and was the last one
        rw [List.flatMap_nil, List.append_nil]
        have begun := length_looks session (passed ++ [t])
        have unlooked_later := List.filterMap_eq_nil_iff.mpr one_later.unlooked
        rw [List.flatMap_append, List.flatMap_singleton, t_eq, ← List.append_assoc,
          List.filterMap_append, unlooked_later, List.append_nil, all rfl] at begun
        refine .pending _ one_later ?_
        rw [List.filterMap_append, List.filterMap_eq_nil_iff.mpr unlooked, List.nil_append, begun]
      · exact .heeded (c :: a) one_later _ rfl

/-! ### What decides -/

/-- What an answer of the channel or the store makes of a wait: a failure is the result, and a
    terminal record says the status. -/
def verdict? : Call → Option (Except Failure Status)
  | .nextEvent _ (.error e) => some (.error e)
  | .readState _ (.error e) => some (.error e)
  | .readState _ (.ok (some record)) =>
    (record.state?.filter SessionState.isTerminal).map fun state => .ok (.ofState state)
  | _ => none

/-- For `verdict?` a failure is the result. -/
theorem verdict?_of_failure {c : Call} {e : Failure} (h : c.failure? = some e) :
    verdict? c = some (.error e) := by
  unfold Call.failure? at h
  split at h <;> cases h <;> rfl

/-- For `verdict?` a reading of a record that is not terminal decides nothing. -/
theorem verdict?_of_not_terminal {record : StateRecord} (h : record.isTerminal = false) :
    verdict? (.readState session (.ok (some record))) = none := by
  unfold StateRecord.isTerminal at h
  cases hs : record.state? with
  | none => simp [verdict?, hs]
  | some state =>
    have not_terminal : state.isTerminal = false := by simpa [hs] using h
    simp [verdict?, hs, Option.filter, not_terminal]

/-- For `verdict?` a reading of a terminal record decides the status, by `Status.ofState`. -/
theorem verdict?_of_terminal {record : StateRecord} {state : SessionState}
    (state_eq : record.state? = some state) (terminal : state.isTerminal = true) :
    verdict? (.readState session (.ok (some record))) = some (.ok (.ofState state)) := by
  simp [verdict?, state_eq, Option.filter, terminal]

/-- Neither the flag nor the clock decides anything by `verdict?`. -/
theorem Turn.undecided_looks (t : Turn) : ∀ c ∈ t.looks, verdict? c = none := by
  intro c mem
  cases t with
  | stopped =>
    obtain rfl := List.mem_singleton.mp mem
    rfl
  | expired now =>
    obtain rfl | rfl : c = .interrupted false ∨ c = .now now := by simpa [looks] using mem
    · rfl
    · rfl
  | polled now? maxWait event read? =>
    have flag_or_clock : c = .interrupted false ∨ ∃ now, now? = some now ∧ .now now = c := by
      simpa [looks] using mem
    obtain rfl | ⟨now, -, rfl⟩ := flag_or_clock
    · rfl
    · rfl

/-- For `verdict?` an event, or none, decides nothing by itself. -/
theorem Turn.undecided_polled (now? : Option Instant) (maxWait : Duration)
    (event? : Option Notification) :
    ∀ c ∈ (Turn.polled now? maxWait (.ok event?) none).calls session, verdict? c = none := by
  intro c mem
  rcases List.mem_append.mp mem with mem | mem
  · exact Turn.undecided_looks _ c mem
  · obtain rfl : c = .nextEvent maxWait (.ok event?) := by simpa [asks] using mem
    rfl

/-- No answer has a `verdict?` in a turn that lets the wait go on. -/
theorem Turn.Leads.undecided {t : Turn} {seen' : Seen}
    (step : Turn.Leads session seen t (.again seen')) :
    ∀ c ∈ t.calls session, verdict? c = none := by
  cases step with
  | silence now? maxWait => exact undecided_polled now? maxWait none
  | otherKey now? maxWait event key_ne => exact undecided_polled now? maxWait (some event)
  | noRecord now? maxWait event key_eq =>
    rw [calls_of_read, List.forall_mem_append, List.forall_mem_singleton]
    exact ⟨undecided_polled now? maxWait (some event), rfl⟩
  | goesOn now? maxWait event key_eq record not_terminal =>
    rw [calls_of_read, List.forall_mem_append, List.forall_mem_singleton]
    exact ⟨undecided_polled now? maxWait (some event), verdict?_of_not_terminal not_terminal⟩

/-- In a turn that ends the wait no answer but the last one has a `verdict?`, and it decides the
    result. -/
theorem Turn.Leads.decided {t : Turn} {result : Except Failure Outcome}
    (step : Turn.Leads session seen t (.done result)) :
    ∃ init last, t.calls session = init ++ [last] ∧ (∀ c ∈ init, verdict? c = none) ∧
      ∀ v, verdict? last = some v → result.map Outcome.status = v := by
  cases step with
  | stopped => exact ⟨[], .interrupted true, rfl, by simp, nofun⟩
  | expired now =>
    refine ⟨[.interrupted false], .now now, rfl, ?_, nofun⟩
    rw [List.forall_mem_singleton]
    rfl
  | channelFails now? maxWait e =>
    refine ⟨looks _, .nextEvent maxWait (.error e), rfl, undecided_looks _, ?_⟩
    rintro v ⟨⟩
    rfl
  | storeFails now? maxWait event key_eq e =>
    refine ⟨_, _, calls_of_read .., undecided_polled now? maxWait (some event), ?_⟩
    rintro v ⟨⟩
    rfl
  -- the event that led to the read decides nothing, the record that was read does
  | ends now? maxWait event key_eq record state state_eq terminal =>
    refine ⟨_, _, calls_of_read .., undecided_polled now? maxWait (some event), fun v hv => ?_⟩
    rw [verdict?_of_terminal state_eq terminal] at hv
    cases hv
    rfl

/-- The first answer that has a `verdict?` is the last one of all, and it decides the result. -/
theorem Follows.verdict (chain : Follows session seen turns result?) {before after : List Call}
    {c : Call} (calls_eq : turns.flatMap (Turn.calls session) = before ++ c :: after)
    {v : Except Failure Status} (decides : verdict? c = some v) :
    after = [] ∧ ∃ result, result? = some result ∧ result.map Outcome.status = v := by
  obtain ⟨passed, t, later, b, a, rfl, t_eq, rfl, rfl⟩ := exists_turn_of_calls calls_eq
  have mem : c ∈ t.calls session := t_eq ▸ List.mem_append_cons_self
  obtain ⟨seen', ⟨result, step, rfl, rfl⟩ | ⟨seen'', step, -⟩⟩ := chain.split
  · obtain ⟨init, last, t_eq', undecided, decided⟩ := step.decided
    -- the call is none of those before the last one
    rcases List.eq_nil_or_concat a with rfl | ⟨a', x, rfl⟩
    · obtain ⟨-, last_eq⟩ := List.append_inj' (t_eq'.symm.trans t_eq) rfl
      obtain rfl := List.singleton_inj.mp last_eq
      exact ⟨rfl, result, rfl, decided v decides⟩
    · have init_eq : init = b ++ c :: a' := by
        have same := t_eq'.symm.trans t_eq
        rw [List.concat_eq_append, ← List.cons_append, ← List.append_assoc] at same
        exact (List.append_inj' same rfl).1
      have none := undecided c (init_eq ▸ List.mem_append_cons_self)
      rw [decides] at none
      cases none
  · have none := step.undecided c mem
    rw [decides] at none
    cases none

/-- The first answer that has a `verdict?` is the last one of all where the clock was read before
    the first turn. -/
theorem Follows.verdict_after (chain : Follows session seen turns result?) {start : Instant}
    {before after : List Call} {c : Call}
    (calls_eq : .now start :: turns.flatMap (Turn.calls session) = before ++ c :: after)
    {v : Except Failure Status} (decides : verdict? c = some v) :
    after = [] ∧ ∃ result, result? = some result ∧ result.map Outcome.status = v := by
  rcases List.cons_eq_append_iff.mp calls_eq with ⟨-, h⟩ | ⟨before', -, rest_eq⟩
  · -- the reading of the clock decides nothing
    cases h
    cases decides
  · exact chain.verdict rest_eq decides

/-! ### The theorem -/

/-- What holds of the calls of a `wait` that has some deadline and is given so many turns, and of
    its result. -/
structure Disciplined (session : SessionName) (deadline? : Option Instant) (limit : Nat)
    (calls : List Call) (result? : Option (Except Failure Outcome)) : Prop where
  /-- The record of the session is read once after each event of this session, and never
      otherwise. -/
  exchange : Dump.Exchange session calls
  /-- The first failure of the channel or the store is the result, and nothing is asked after it. -/
  failure : ∀ before c after e, calls = before ++ c :: after → c.failure? = some e →
    after = [] ∧ result? = some (.error e)
  /-- There are no other failures. -/
  failed : ∀ e, result? = some (.error e) → ∃ c, calls.getLast? = some c ∧ c.failure? = some e
  /-- The first terminal record ends the wait, and nothing is asked after it. -/
  terminal : ∀ before record state after,
    calls = before ++ .readState session (.ok (some record)) :: after →
    record.state? = some state → state.isTerminal = true →
    after = [] ∧ ∃ outcome, result? = some (.ok outcome) ∧ outcome.status = .ofState state
  /-- Where the flag is set for good before or during a call, the turn in progress at this call is
      the last one that asks anything. -/
  halts : ∀ before c after, calls = before ++ c :: after → Flagged (c :: after) →
    Halts session deadline? limit before (c :: after) result?
  /-- Where it is set from the start nothing but the flag is looked at, whatever the clock shows. -/
  beforehand : 0 < limit → Flagged calls → ∃ start,
    calls = [.now start, .interrupted true] ∧ result? = some (.ok ⟨.interrupted, none, none⟩)
  /-- A wait without a result has taken all its turns. -/
  pending : result? = none → (calls.filterMap Call.flag?).length = limit

/-- A chain of `Turn.Timely` turns that begins with nothing seen, after the clock was read, is
    `Disciplined`. -/
theorem Follows.disciplined (chain : Follows session {} turns result?)
    (timely : ∀ t ∈ turns, t.Timely deadline? pollInterval) {limit : Nat}
    (all : result? = none → turns.length = limit) (start : Instant) :
    Disciplined session deadline? limit (.now start :: turns.flatMap (Turn.calls session))
      result? where
  exchange := .aside rfl (Dump.exchange_of_follows chain)
  -- a failure is decisive, so nothing was asked behind it and the result is the one it calls for
  failure before c after e calls_eq failed := by
    obtain ⟨rfl, result, rfl, status_eq⟩ :=
      chain.verdict_after calls_eq (verdict?_of_failure failed)
    refine ⟨rfl, ?_⟩
    cases result with
    | error e' =>
      cases status_eq
      rfl
    | ok outcome => cases status_eq
  failed e failed := by
    subst failed
    obtain ⟨c, last, failed⟩ := Dump.failure_of_follows chain
    refine ⟨c, ?_, failed⟩
    rw [List.getLast?_cons, last]
    rfl
  -- so is a terminal record
  terminal before record state after calls_eq state_eq terminal := by
    obtain ⟨rfl, result, rfl, status_eq⟩ :=
      chain.verdict_after calls_eq (verdict?_of_terminal state_eq terminal)
    refine ⟨rfl, ?_⟩
    cases result with
    | error e => cases status_eq
    | ok outcome => exact ⟨outcome, rfl, Except.ok.inj status_eq⟩
  halts before c after calls_eq set := by
    rcases List.cons_eq_append_iff.mp calls_eq with ⟨rfl, h⟩ | ⟨before', rfl, rest_eq⟩
    · -- the flag is set before the clock is read for the first time
      obtain ⟨rfl, rfl⟩ := List.cons.inj h
      rcases chain.of_flagged (set.of_suffix (List.suffix_cons ..)) with ⟨rfl, rfl⟩ | ⟨rfl, rfl⟩
      · exact .pending _ (.now start) (all rfl)
      · exact .heeded [.now start] (.now start) _ rfl
    -- the clock was read before the first turn; from there on it is the chain that heeds the flag
    · have unlooked : ∀ c ∈ [Call.now start], c.flag? = none := by simp [Call.flag?]
      exact chain.halts timely all rest_eq unlooked set
  beforehand positive set := by
    rcases chain.of_flagged (set.of_suffix (List.suffix_cons ..)) with ⟨rfl, rfl⟩ | ⟨rfl, rfl⟩
    · have none_left : 0 = limit := all rfl
      omega
    · exact ⟨start, rfl, rfl⟩
  pending none := by
    rw [List.filterMap_cons_none rfl, length_looks, all none]

/-- **Every answer counts in its turn.**  Whatever the flag, the clock, the channel and the store
    answer, the calls of a wait and its result are `Disciplined`: of several reasons to end that
    meet in one turn the flag comes first, then the deadline, then a failure of the channel, and
    then what the store says.  A flag that is set for good ends the wait in the next turn at the
    latest, unless the turn in progress ends it: by a failure, by a terminal record, or at the
    deadline if it had looked at the flag before. -/
theorem wait_ends_at_first_decision (host : Host ε) (options : Options) (session : SessionName)
    (limit : Nat) (w : World ε) :
    Disciplined session (options.deadlineAfter (w.outsideStep host.now).1) limit
      (calls host options session limit w) (wait host options session limit w).result? := by
  rw [calls_eq]
  exact (wait_follows host options session limit w).disciplined
    (wait_timely host options session limit w) (length_turns_wait host options session limit w) _

/-- A host on which the flag is set, and the clock leaps ahead, while the second event of the
    session `s` is waited for; its record is pending. -/
def leapingHost : Host Nat where
  now n := (match n with
    | 0 => default
    | 1 => default
    | _ => .ofSeconds 60, n)
  interrupted n := (match n with
    | 0 => false
    | 1 => false
    | _ => true, n)
  identity n := (default, n)
  run _ _ m := (.error default, m)
  nextEvent _ m :=
    ({ result := .ok (some { key := "s", operation := "hset" }) },
      { m with outside := m.outside + 1 })
  readState _ m := ({ result := .ok (some { state? := some .pending, path? := none }) }, m)

/-- The calls from the second wait of `leapingHost` for an event on. -/
def secondTurn (maxWait : Duration) : List Call :=
  [.nextEvent maxWait (.ok (some { key := "s", operation := "hset" })),
    .readState ⟨"s"⟩ (.ok (some { state? := some .pending, path? := none })), .interrupted true]

/-- On `leapingHost` the record is still read after the event that was waited for, and then the wait
    is interrupted, although it could be given up as well. -/
theorem wait_ends_at_first_decision_leapingHost :
    ∃ before maxWait,
      calls leapingHost ⟨.ofSeconds 2, .ofSeconds 1, .ofMillis 1500⟩ ⟨"s"⟩ 9 ⟨⟨default, 0⟩, []⟩ =
        before ++ secondTurn maxWait ∧
      Flagged (secondTurn maxWait) ∧
      Halts ⟨"s"⟩ (some (.ofSeconds 3)) 9 before (secondTurn maxWait)
        (some (.ok ⟨.interrupted, some .pending, none⟩)) := by
  have ended : (wait leapingHost ⟨.ofSeconds 2, .ofSeconds 1, .ofMillis 1500⟩ ⟨"s"⟩ 9
      ⟨⟨default, 0⟩, []⟩).result? = some (.ok ⟨.interrupted, some .pending, none⟩) := by rfl
  obtain ⟨before, maxWait, calls_eq⟩ : ∃ before maxWait,
      calls leapingHost ⟨.ofSeconds 2, .ofSeconds 1, .ofMillis 1500⟩ ⟨"s"⟩ 9 ⟨⟨default, 0⟩, []⟩ =
        before ++ secondTurn maxWait :=
    ⟨[.now default, .interrupted false, .now default,
      .nextEvent _ (.ok (some { key := "s", operation := "hset" })),
      .readState ⟨"s"⟩ (.ok (some { state? := some .pending, path? := none })),
      .interrupted false, .now default], _, rfl⟩
  have set : Flagged (secondTurn maxWait) := by
    intro flag mem
    simpa [secondTurn] using mem
  refine ⟨before, maxWait, calls_eq, set, ?_⟩
  rw [← ended]
  exact (wait_ends_at_first_decision leapingHost _ ⟨"s"⟩ 9 _).halts _ _ _ calls_eq set

/-- A host on which a minute passes while the first event is waited for, and no event comes.  It
    counts the looks at the flag, which is set for good right after the second one. -/
def lateHost : Host Nat where
  now looks := (if looks ≤ 1 then default else .ofSeconds 60, looks)
  interrupted looks := (decide (2 ≤ looks), looks + 1)
  identity looks := (default, looks)
  run _ _ m := (.error default, m)
  nextEvent _ m := ({ result := .ok none }, m)
  readState _ m := ({ result := .ok none }, m)

/-- Where the flag is set between the look of a turn and its reading of the clock, which shows that
    the deadline was reached, the wait is given up and not interrupted.  On `lateHost` every look
    after the second one would find the flag set; but there is none, no record was read, and nothing
    failed. -/
theorem not_interrupted_lateHost :
    let options : Options := ⟨.ofSeconds 2, .ofSeconds 1, .ofMillis 1500⟩
    let ended := wait lateHost options ⟨"s"⟩ 9 ⟨⟨default, 0⟩, []⟩
    (∃ maxWait, calls lateHost options ⟨"s"⟩ 9 ⟨⟨default, 0⟩, []⟩ =
      [.now default, .interrupted false, .now default, .nextEvent maxWait (.ok none),
        .interrupted false] ++ [.now (.ofSeconds 60)]) ∧
    ended.world.outside = 2 ∧ (∀ looks, 2 ≤ looks → (lateHost.interrupted looks).1 = true) ∧
    ended.result? = some (.ok ⟨.timedOut, none, none⟩) ∧
    ¬ ∃ outcome, ended.result? = some (.ok outcome) ∧ outcome.status = .interrupted := by
  refine ⟨⟨_, rfl⟩, rfl, fun looks later => decide_eq_true later, rfl, ?_⟩
  rintro ⟨outcome, ended, status_eq⟩
  cases ended
  cases status_eq

end Watch

end FlowDump
