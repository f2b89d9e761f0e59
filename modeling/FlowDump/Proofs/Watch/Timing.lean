import FlowDump.Proofs.Watch.Rules

/-!
# The times of a wait

The deadline is fixed when the clock is read for the first time, and from then on the clock decides
how long the channel may be waited for and whether the wait is given up.  It may move by any amount
between two readings, and as many events may come as there are.

* `Turn.Timely` — how a turn stands to the clock: one rule for each way in which it can.
* `wait_timely` — every turn of a wait is timely.
* `Punctual` — the same as a property of the calls: no wait for an event is planned past the
  deadline, and the wait is given up at the deadline and nowhere else.
* `wait_polls_until_deadline` — the calls of every wait are punctual.
-/

namespace FlowDump.Watch

variable {ε : Type} {deadline? : Option Instant} {pollInterval : Duration}

/-! ### Timely turns -/

/-- How a `Turn` stands to the clock. -/
inductive Turn.Timely (deadline? : Option Instant) (pollInterval : Duration) : Turn → Prop where
  /-- The clock was not looked at. -/
  | stopped : Timely deadline? pollInterval .stopped
  | expired {deadline now : Instant} (deadline_eq : deadline? = some deadline)
      (reached : deadline.toNanos ≤ now.toNanos) : Timely deadline? pollInterval (.expired now)
  /-- The wait for an event ends before the deadline or at it. -/
  | bounded {deadline now : Instant} (deadline_eq : deadline? = some deadline)
      (ahead : now.toNanos < deadline.toNanos) (event : Except Failure (Option Notification))
      (read? : Option (Except Failure (Option StateRecord))) :
      Timely deadline? pollInterval
        (.polled (some now) (pollInterval.min (deadline.since now)) event read?)
  | unbounded (deadline_eq : deadline? = none) (event : Except Failure (Option Notification))
      (read? : Option (Except Failure (Option StateRecord))) :
      Timely deadline? pollInterval (.polled none pollInterval event read?)

/-- Whatever comes of `poll`, it was waited as long as planned. -/
theorem poll_polled (host : Host ε) (session : SessionName) (seen : Seen) (now? : Option Instant)
    (maxWait : Duration) (w : World ε) :
    ∃ event read?, (poll host session seen now? maxWait w).1 =
      .polled now? maxWait event read? := by
  simp only [poll]
  split
  · exact ⟨_, _, rfl⟩
  · exact ⟨_, _, rfl⟩
  · split <;> exact ⟨_, _, rfl⟩

/-- Every `turn` is `Turn.Timely`. -/
theorem turn_timely (host : Host ε) (deadline? : Option Instant) (pollInterval : Duration)
    (session : SessionName) (seen : Seen) (w : World ε) :
    (turn host deadline? pollInterval session seen w).1.Timely deadline? pollInterval := by
  simp only [turn]
  split
  · exact .stopped
  · cases deadline? with
    | none =>
      simp only [plan]
      obtain ⟨event, read?, polled⟩ := poll_polled host session seen none pollInterval
        (w.outsideStep host.interrupted).2
      rw [polled]
      exact .unbounded rfl event read?
    | some deadline =>
      generalize (w.outsideStep host.interrupted).2 = flagged
      simp only [plan]
      -- the deadline is given up once the clock shows it; before that it cuts the wait
      by_cases reached : deadline.toNanos ≤ (flagged.outsideStep host.now).1.toNanos
      · simp only [reached, if_true]
        exact .expired rfl reached
      · simp only [reached, if_false]
        obtain ⟨event, read?, polled⟩ := poll_polled host session seen
          (some (flagged.outsideStep host.now).1)
          (pollInterval.min (deadline.since (flagged.outsideStep host.now).1))
          (flagged.outsideStep host.now).2
        rw [polled]
        exact .bounded rfl (by omega) event read?

/-- Every turn of a `loop` is `Turn.Timely`. -/
theorem loop_timely (host : Host ε) (deadline? : Option Instant) (pollInterval : Duration)
    (session : SessionName) (limit : Nat) (seen : Seen) (w : World ε) :
    ∀ t ∈ (loop host deadline? pollInterval session limit seen w).turns,
      t.Timely deadline? pollInterval := by
  induction limit generalizing seen w with
  | zero => simp [loop]
  | succ limit ih =>
    have first := turn_timely host deadline? pollInterval session seen w
    unfold loop
    rcases hstep : turn host deadline? pollInterval session seen w with ⟨t, step, w'⟩
    rw [hstep] at first
    cases step with
    | done result => simpa using first
    | again seen' =>
      intro t' ht'
      rcases List.mem_cons.mp ht' with rfl | later
      · exact first
      · exact ih seen' w' t' later

/-- Every turn of a `wait` is `Turn.Timely`, by the deadline that follows from the first reading of
    the clock. -/
theorem wait_timely (host : Host ε) (options : Options) (session : SessionName) (limit : Nat)
    (w : World ε) :
    ∀ t ∈ (wait host options session limit w).turns,
      t.Timely (options.deadlineAfter (w.outsideStep host.now).1) options.pollInterval := by
  intro t ht
  rw [wait_eq_loop] at ht
  exact loop_timely _ _ _ _ _ _ _ t ht

/-! ### What timely turns do -/

namespace Turn.Timely

variable {now now' : Instant} {now? : Option Instant} {maxWait : Duration}
  {event : Except Failure (Option Notification)}
  {read? : Option (Except Failure (Option StateRecord))}

/-- The wait for an event in a `Turn.Timely` turn takes some time, and never more than the longest
    single wait. -/
theorem maxWait_bounds
    (timely : (Turn.polled now? maxWait event read?).Timely deadline? pollInterval)
    (positive : 0 < pollInterval.toNanos) :
    0 < maxWait.toNanos ∧ maxWait.toNanos ≤ pollInterval.toNanos := by
  cases timely with
  | @bounded deadline now deadline_eq ahead =>
    have left := Instant.toNanos_since ahead
    rw [Duration.toNanos_min]
    omega
  | unbounded deadline_eq => exact ⟨positive, Nat.le_refl _⟩

/-- Where there is a deadline, a `Turn.Timely` turn has read the clock to be before it, and the wait
    for an event ends at the deadline or before it. -/
theorem ends_by_deadline {deadline : Instant}
    (timely : (Turn.polled now? maxWait event read?).Timely (some deadline) pollInterval) :
    ∃ now, now? = some now ∧ now.toNanos < deadline.toNanos ∧
      now.toNanos + maxWait.toNanos ≤ deadline.toNanos := by
  cases timely with
  | @bounded deadline' now deadline_eq ahead =>
    cases deadline_eq
    have left := Instant.toNanos_since ahead
    refine ⟨now, rfl, ahead, ?_⟩
    rw [Duration.toNanos_min]
    omega
  | unbounded deadline_eq => cases deadline_eq

/-- Without a deadline every wait for an event in a `Turn.Timely` turn is the longest single one. -/
theorem maxWait_eq (timely : (Turn.polled now? maxWait event read?).Timely none pollInterval) :
    maxWait = pollInterval := by
  cases timely with
  | bounded deadline_eq ahead => cases deadline_eq
  | unbounded deadline_eq => rfl

/-- A `Turn.Timely` turn is given up only at a deadline. -/
theorem exists_deadline (timely : (Turn.expired now).Timely deadline? pollInterval) :
    ∃ deadline, deadline? = some deadline ∧ deadline.toNanos ≤ now.toNanos := by
  cases timely with
  | expired deadline_eq reached => exact ⟨_, deadline_eq, reached⟩

end Turn.Timely

/-! ### Punctual calls -/

/-- What holds of the calls of a wait, from the first turn on, by its deadline and its longest
    single wait. -/
structure Punctual (deadline? : Option Instant) (pollInterval : Duration) (calls : List Call)
    (result? : Option (Except Failure Outcome)) : Prop where
  /-- A wait for an event takes some time, and never more than the longest single wait. -/
  maxWait_bounds : ∀ before maxWait answer after,
    calls = before ++ .nextEvent maxWait answer :: after →
      0 < maxWait.toNanos ∧ maxWait.toNanos ≤ pollInterval.toNanos
  /-- It begins before the deadline, by the clock as it was read just before, and is not to last
      beyond it. -/
  ends_by_deadline : ∀ deadline, deadline? = some deadline → ∀ before maxWait answer after,
    calls = before ++ .nextEvent maxWait answer :: after →
      ∃ earlier now, before = earlier ++ [.interrupted false, .now now] ∧
        now.toNanos < deadline.toNanos ∧ now.toNanos + maxWait.toNanos ≤ deadline.toNanos
  /-- A wait is given up only when the clock was read to have reached the deadline, in a turn in
      which the flag was not set. -/
  timedOut : ∀ outcome, result? = some (.ok outcome) → outcome.status = .timedOut →
    ∃ deadline earlier now, deadline? = some deadline ∧
      calls = earlier ++ [.interrupted false, .now now] ∧ deadline.toNanos ≤ now.toNanos
  /-- Once the clock was read to have reached the deadline nothing is asked any more, and the wait
      is given up. -/
  reached : ∀ deadline, deadline? = some deadline → ∀ before now after,
    calls = before ++ .now now :: after → deadline.toNanos ≤ now.toNanos →
      after = [] ∧ ∃ outcome, result? = some (.ok outcome) ∧ outcome.status = .timedOut
  /-- Without a deadline every wait for an event is the longest single one. -/
  without_deadline : deadline? = none → ∀ before maxWait answer after,
    calls = before ++ .nextEvent maxWait answer :: after → maxWait = pollInterval

/-- A chain of `Turn.Timely` turns makes `Punctual` calls. -/
theorem Follows.punctual {session : SessionName} {seen : Seen} {turns : List Turn}
    {result? : Option (Except Failure Outcome)} (chain : Follows session seen turns result?)
    (timely : ∀ t ∈ turns, t.Timely deadline? pollInterval)
    (positive : 0 < pollInterval.toNanos) :
    Punctual deadline? pollInterval (turns.flatMap (Turn.calls session)) result? where
  maxWait_bounds before maxWait answer after h := by
    obtain ⟨earlier, now?, read?, mem, -⟩ := exists_polled_of_calls h
    exact (timely _ mem).maxWait_bounds positive
  ends_by_deadline deadline deadline_eq before maxWait answer after h := by
    subst deadline_eq
    obtain ⟨earlier, now?, read?, mem, rfl⟩ := exists_polled_of_calls h
    obtain ⟨now, rfl, ahead, ends⟩ := (timely _ mem).ends_by_deadline
    exact ⟨earlier, now, rfl, ahead, ends⟩
  timedOut outcome hresult status_eq := by
    subst hresult
    obtain ⟨before, earlier, t, rfl, step⟩ := chain.exists_last
    cases step with
    | stopped => cases status_eq
    | expired now =>
      obtain ⟨deadline, deadline_eq, reached⟩ := (timely (.expired now) (by simp)).exists_deadline
      exact ⟨deadline, earlier.flatMap (Turn.calls session), now, deadline_eq,
        by simp [Turn.calls, Turn.looks, Turn.asks], reached⟩
    | ends now? maxWait event key_eq record state state_eq terminal =>
      -- a terminal state says another status
      simp only [Seen.outcome, Status.ofState] at status_eq
      split at status_eq <;> cases status_eq
  reached deadline deadline_eq before now after h reached := by
    obtain ⟨earlier, t, later, b, a, rfl, ht, -, rfl⟩ := exists_turn_of_calls h
    rcases Turn.calls_now ht with ⟨rfl, rfl⟩ | ⟨maxWait, answer, read?, rfl⟩
    · obtain ⟨seen', ⟨result, step, rfl, rfl⟩ | ⟨after, step, tail⟩⟩ := chain.split
      · cases step with
        | expired now => exact ⟨rfl, _, rfl, rfl⟩
      · cases step
    · -- a turn that asks the channel has read the clock before the deadline
      subst deadline_eq
      have polled := timely (.polled (some now) maxWait answer read?) (by simp)
      obtain ⟨now', now_eq, ahead, -⟩ := polled.ends_by_deadline
      cases now_eq
      omega
  without_deadline deadline_eq before maxWait answer after h := by
    subst deadline_eq
    obtain ⟨earlier, now?, read?, mem, -⟩ := exists_polled_of_calls h
    exact (timely _ mem).maxWait_eq

/-- **The times of a wait are exact.**  Whatever the clock shows and whatever the flag, the channel
    and the store answer, the calls of a wait after its first reading of the clock are `Punctual`,
    by the deadline that follows from this reading. -/
theorem wait_polls_until_deadline (host : Host ε) (options : Options) (session : SessionName)
    (limit : Nat) (w : World ε) (positive : 0 < options.pollInterval.toNanos) :
    ∃ start later, calls host options session limit w = .now start :: later ∧
      Punctual (options.deadlineAfter start) options.pollInterval later
        (wait host options session limit w).result? := by
  refine ⟨_, _, calls_eq host options session limit w, ?_⟩
  exact (wait_follows host options session limit w).punctual
    (wait_timely host options session limit w) positive

/-- A host on which a second passes with every reading of the clock, and every wait is answered by
    an event of the session `s`, whose record is pending. -/
def tickingHost : Host UInt32 where
  now n := (.ofSeconds n, n + 1)
  interrupted n := (false, n)
  identity n := (default, n)
  run _ _ m := (.error default, m)
  nextEvent _ m := ({ result := .ok (some { key := "s", operation := "hset" }) }, m)
  readState _ m := ({ result := .ok (some { state? := some .pending, path? := none }) }, m)

/-- On `tickingHost` two events come before the wait of three seconds is given up, the second of
    which could only be waited for as long as the time that was left. -/
theorem wait_polls_until_deadline_tickingHost :
    0 < (Duration.ofMillis 1500).toNanos ∧
    (wait tickingHost ⟨.ofSeconds 2, .ofSeconds 1, .ofMillis 1500⟩ ⟨"s"⟩ 9
      ⟨⟨default, 0⟩, []⟩).result? = some (.ok ⟨.timedOut, some .pending, none⟩) ∧
    ∃ start later,
      calls tickingHost ⟨.ofSeconds 2, .ofSeconds 1, .ofMillis 1500⟩ ⟨"s"⟩ 9
        ⟨⟨default, 0⟩, []⟩ = .now start :: later ∧
      Punctual (Options.deadlineAfter ⟨.ofSeconds 2, .ofSeconds 1, .ofMillis 1500⟩ start)
        (.ofMillis 1500) later (some (.ok ⟨.timedOut, some .pending, none⟩)) := by
  have positive : 0 < (Duration.ofMillis 1500).toNanos := by decide
  have ended : (wait tickingHost ⟨.ofSeconds 2, .ofSeconds 1, .ofMillis 1500⟩ ⟨"s"⟩ 9
      ⟨⟨default, 0⟩, []⟩).result? = some (.ok ⟨.timedOut, some .pending, none⟩) := by rfl
  refine ⟨positive, ended, ?_⟩
  rw [← ended]
  exact wait_polls_until_deadline tickingHost _ ⟨"s"⟩ 9 _ positive

end FlowDump.Watch
