import FlowDump.Proofs.Watch.Deadline
import FlowDump.Proofs.Watch.Timing
import Mathlib.Algebra.Order.Floor.Div

/-!
# How often the channel is asked in vain

A call of the channel that brings no event has taken the time it was given, or longer.  A wait that
has a deadline can therefore make only so many of them, whatever else takes time between them.  If
nothing else takes any, they fill the time up to the deadline.

* `Call.silence?` — how long the channel was asked in vain by a call; `silences` are these times.
* `Call.after` — the time after a call, where silence takes the time that was given to it.
* `ClockKeeps` — how the readings of the clock stand to this time: they are no earlier where the
  channel keeps its promise, and the same where nothing else takes time.
* `lt_deadline_of_silences` — before each silence, silences of the full length have passed.
* `Fills` — silences that fill a time; `Fills.length_eq` says how many there are.
* `Follows.fills` — in a quiet wait they fill the time up to the deadline.
* `wait_onTime` — how many silences there are in a wait, and how a quiet one ends.
-/

namespace FlowDump

/-! ### Silence and the time it takes -/

/-- How long the channel was asked in vain, if the call brought no event. -/
def Call.silence? : Call → Option Duration
  | .nextEvent maxWait (.ok none) => some maxWait
  | _ => none

/-- What time it is after a call, as far as its reading or its silence says. -/
def Call.after (time : Int) : Call → Int
  | .now reading => reading.toNanos
  | .nextEvent maxWait (.ok none) => time + maxWait.toNanos
  | _ => time

namespace Watch

/-- How long the channel was asked in vain, by `Call.silence?`, each time that it was. -/
def silences (calls : List Call) : List Duration :=
  calls.filterMap Call.silence?

@[simp] theorem silences_append (calls calls' : List Call) :
    silences (calls ++ calls') = silences calls ++ silences calls' :=
  List.filterMap_append

/-- How each reading of the clock stands to the time that `Call.after` the calls before it. -/
def ClockKeeps (rel : Int → Int → Prop) : (time : Int) → List Call → Prop
  | _, [] => True
  | time, call :: rest =>
    (∀ reading, call = .now reading → rel time reading.toNanos) ∧
      ClockKeeps rel (call.after time) rest

variable {rel : Int → Int → Prop} {session : SessionName}

/-- For `ClockKeeps` the calls of some turns are taken turn by turn. -/
theorem clockKeeps_append {time : Int} {calls calls' : List Call} :
    ClockKeeps rel time (calls ++ calls') ↔
      ClockKeeps rel time calls ∧ ClockKeeps rel (calls.foldl Call.after time) calls' := by
  induction calls generalizing time with
  | nil => simp [ClockKeeps]
  | cons call rest ih => simp [ClockKeeps, ih, and_assoc]

/-- `ClockKeeps` in a turn that is given up. -/
theorem clockKeeps_expired {time : Int} {now : Instant} :
    ClockKeeps rel time (Turn.calls session (.expired now)) ↔ rel time now.toNanos := by
  simp [ClockKeeps, Turn.calls, Turn.looks, Turn.asks, Call.after]

/-- `ClockKeeps` in a turn that asks the channel. -/
theorem clockKeeps_polled {time : Int} {now : Instant} {maxWait : Duration}
    {event : Except Failure (Option Notification)}
    {read? : Option (Except Failure (Option StateRecord))} :
    ClockKeeps rel time (Turn.calls session (.polled (some now) maxWait event read?)) ↔
      rel time now.toNanos := by
  cases read? <;> simp [ClockKeeps, Turn.calls, Turn.looks, Turn.asks, Call.after]

/-- The `silences` of a turn that asks the channel, and the time after it. -/
theorem silences_polled (session : SessionName) (now : Instant) (time : Int) (maxWait : Duration)
    (event : Except Failure (Option Notification))
    (read? : Option (Except Failure (Option StateRecord))) :
    let calls := Turn.calls session (.polled (some now) maxWait event read?)
    (event = .ok none ∧ silences calls = [maxWait] ∧
        calls.foldl Call.after time = now.toNanos + maxWait.toNanos) ∨
      (event ≠ .ok none ∧ silences calls = [] ∧ calls.foldl Call.after time = now.toNanos) := by
  rcases event with e | _ | notification
  · right
    cases read? <;> exact ⟨by simp, rfl, rfl⟩
  · left
    cases read? <;> exact ⟨rfl, rfl, rfl⟩
  · right
    cases read? <;> exact ⟨by simp, rfl, rfl⟩

/-- In a `Turn.Timely` turn a wait for an event is of the full length or lasts up to the deadline.
    -/
theorem Turn.Timely.full_or_cut {deadline now : Instant} {pollInterval maxWait : Duration}
    {event : Except Failure (Option Notification)}
    {read? : Option (Except Failure (Option StateRecord))}
    (timely : (Turn.polled (some now) maxWait event read?).Timely (some deadline) pollInterval) :
    maxWait = pollInterval ∨ now.toNanos + maxWait.toNanos = deadline.toNanos := by
  cases timely with
  | @bounded deadline' now deadline_eq ahead =>
    cases deadline_eq
    have left := Instant.toNanos_since ahead
    unfold Duration.min
    split
    · exact .inl rfl
    · exact .inr (by omega)

/-! ### How many silences there are -/

/-- The last of the `silences` but so many began before the deadline, and those after it but the
    last were of the full length.  The induction is on the turns: a silence that is cut short by the
    deadline has no other one after it. -/
theorem lt_deadline_of_silences {deadline : Instant} {pollInterval : Duration} {turns : List Turn}
    {time : Int} {count : Nat}
    (timely : ∀ t ∈ turns, t.Timely (some deadline) pollInterval)
    (keeps : ClockKeeps (· ≤ ·) time (turns.flatMap (Turn.calls session)))
    (length_eq : (silences (turns.flatMap (Turn.calls session))).length = count + 1) :
    time + (count * pollInterval.toNanos : Nat) < deadline.toNanos := by
  induction turns generalizing time count with
  | nil => simp [silences] at length_eq
  | cons t rest ih =>
    have timely_rest : ∀ t' ∈ rest, t'.Timely (some deadline) pollInterval :=
      fun t' mem => timely t' (List.mem_cons_of_mem t mem)
    rw [List.flatMap_cons] at keeps length_eq
    rw [silences_append, List.length_append] at length_eq
    obtain ⟨keeps_turn, keeps_rest⟩ := clockKeeps_append.mp keeps
    cases timely t List.mem_cons_self with
    | stopped =>
      rw [show silences (Turn.calls session .stopped) = [] from rfl, List.length_nil,
        Nat.zero_add] at length_eq
      exact ih timely_rest keeps_rest length_eq
    | @expired _ now deadline_eq reached =>
      rw [show silences (Turn.calls session (.expired now)) = [] from rfl, List.length_nil,
        Nat.zero_add] at length_eq
      have moved : time ≤ now.toNanos := clockKeeps_expired.mp keeps_turn
      have later : now.toNanos + (count * pollInterval.toNanos : Nat) < deadline.toNanos :=
        ih timely_rest keeps_rest length_eq
      omega
    | unbounded deadline_eq => cases deadline_eq
    | @bounded _ now deadline_eq ahead event read? =>
      cases deadline_eq
      have cut := (timely _ List.mem_cons_self).full_or_cut
      have moved : time ≤ now.toNanos := clockKeeps_polled.mp keeps_turn
      rcases silences_polled session now time (pollInterval.min (deadline.since now)) event
          read? with ⟨-, alone, after_eq⟩ | ⟨-, no_silence, after_eq⟩
      · rw [alone, List.length_singleton] at length_eq
        rw [after_eq] at keeps_rest
        cases count with
        | zero => omega
        | succ count =>
          have length_rest : (silences (rest.flatMap (Turn.calls session))).length = count + 1 := by
            omega
          have later := ih timely_rest keeps_rest length_rest
          -- a silence that lasted up to the deadline leaves no time for those after it
          have full := cut.resolve_right (by omega)
          rw [full] at later
          rw [Nat.succ_mul]
          omega
      · rw [no_silence, List.length_nil, Nat.zero_add] at length_eq
        rw [after_eq] at keeps_rest
        have later := ih timely_rest keeps_rest length_eq
        omega

/-- There are no more `silences` than single waits of the full length go into the time that is left,
    the last one begun counting in full. -/
theorem length_silences_le {deadline : Instant} {pollInterval : Duration} {turns : List Turn}
    {time : Int} {span : Nat} (positive : 0 < pollInterval.toNanos)
    (timely : ∀ t ∈ turns, t.Timely (some deadline) pollInterval)
    (keeps : ClockKeeps (· ≤ ·) time (turns.flatMap (Turn.calls session)))
    (deadline_eq : deadline.toNanos = time + span) :
    (silences (turns.flatMap (Turn.calls session))).length ≤ span ⌈/⌉ pollInterval.toNanos := by
  rcases hlength : (silences (turns.flatMap (Turn.calls session))).length with _ | count
  · exact Nat.zero_le _
  · have ahead := lt_deadline_of_silences timely keeps hlength
    by_contra fewer
    have enough : span ⌈/⌉ pollInterval.toNanos ≤ count := by omega
    rw [ceilDiv_le_iff_le_smul positive, smul_eq_mul, Nat.mul_comm] at enough
    omega

/-! ### Silences that fill a time -/

/-- Single waits that fill a time: none of them is empty, all but the last are of the full length,
    and they add up to it. -/
structure Fills (pollInterval : Duration) (span : Nat) (waits : List Duration) : Prop where
  bounds : ∀ wait ∈ waits, 0 < wait.toNanos ∧ wait.toNanos ≤ pollInterval.toNanos
  full : ∀ wait ∈ waits.dropLast, wait = pollInterval
  sum_eq : (waits.map Duration.toNanos).sum = span

namespace Fills

variable {pollInterval : Duration} {span : Nat}

theorem nil : Fills pollInterval 0 [] where
  bounds := by simp
  full := by simp
  sum_eq := rfl

/-- Another wait before those of `Fills` is of the full length, or the only one. -/
theorem cons {wait : Duration} {waits : List Duration} (fills : Fills pollInterval span waits)
    (positive : 0 < wait.toNanos) (le : wait.toNanos ≤ pollInterval.toNanos)
    (cut : wait = pollInterval ∨ span = 0) :
    Fills pollInterval (wait.toNanos + span) (wait :: waits) where
  bounds := by
    intro wait' mem
    rcases List.mem_cons.mp mem with rfl | later
    · exact ⟨positive, le⟩
    · exact fills.bounds wait' later
  full := by
    cases waits with
    | nil => simp
    | cons next rest =>
      have next_positive := (fills.bounds next List.mem_cons_self).1
      have more := fills.sum_eq
      rw [List.map_cons, List.sum_cons] at more
      -- another wait follows, so time is left, and only a wait of the full length leaves time
      have whole : wait = pollInterval := cut.resolve_right (by omega)
      intro wait' mem
      rw [List.dropLast_cons_cons] at mem
      rcases List.mem_cons.mp mem with rfl | later
      · exact whole
      · exact fills.full wait' later
  sum_eq := by rw [List.map_cons, List.sum_cons, fills.sum_eq]

/-- The waits of `Fills` are as many as of the full length go into the time, the last one begun
    counting in full. -/
theorem length_eq {waits : List Duration} (fills : Fills pollInterval span waits)
    (positive : 0 < pollInterval.toNanos) :
    waits.length = span ⌈/⌉ pollInterval.toNanos := by
  rw [← fills.sum_eq]
  rcases List.eq_nil_or_concat waits with rfl | ⟨whole, last, rfl⟩
  · simp
  · rw [List.concat_eq_append] at fills ⊢
    have last_bounds := fills.bounds last (by simp)
    -- all but the last are of the full length, so the sum is a multiple of it and a rest
    have whole_eq : whole = List.replicate whole.length pollInterval :=
      List.eq_replicate_of_mem fun wait mem => fills.full wait (by simpa using mem)
    have sum_eq : ((whole ++ [last]).map Duration.toNanos).sum =
        whole.length * pollInterval.toNanos + last.toNanos := by
      rw [List.map_append, List.sum_append]
      conv_lhs => rw [whole_eq]
      simp
    rw [sum_eq, List.length_append, List.length_singleton]
    apply le_antisymm
    · -- so many waits of the full length but one do not reach so far
      by_contra fewer
      have enough : (whole.length * pollInterval.toNanos + last.toNanos) ⌈/⌉
          pollInterval.toNanos ≤ whole.length := by omega
      rw [ceilDiv_le_iff_le_smul positive, smul_eq_mul, Nat.mul_comm] at enough
      omega
    · rw [ceilDiv_le_iff_le_smul positive, smul_eq_mul, Nat.mul_succ, Nat.mul_comm]
      omega

end Fills

/-! ### Quiet waits -/

/-- Whether nothing disturbs the wait: the flag is not set, and the channel brings neither an event
    nor a failure. -/
def Quiet (calls : List Call) : Prop :=
  (∀ flag, .interrupted flag ∈ calls → flag = false) ∧
    ∀ maxWait answer, .nextEvent maxWait answer ∈ calls → answer = .ok none

theorem quiet_append {calls calls' : List Call} :
    Quiet (calls ++ calls') ↔ Quiet calls ∧ Quiet calls' := by
  simp only [Quiet, List.mem_append, or_imp, forall_and]
  exact and_and_and_comm

/-- A `Quiet` turn is given up or brings silence. -/
theorem Turn.Leads.of_quiet {seen : Seen} {t : Turn} {step : Step}
    (leads : Turn.Leads session seen t step) (quiet : Quiet (t.calls session)) :
    (∃ now, t = .expired now ∧ step = .done (.ok (seen.outcome .timedOut))) ∨
      ∃ now? maxWait, t = .polled now? maxWait (.ok none) none ∧ step = .again seen := by
  have silent : ∀ now? maxWait event read?, t = .polled now? maxWait event read? →
      event = .ok none := by
    rintro now? maxWait event read? rfl
    exact quiet.2 maxWait event (by simp [Turn.calls, Turn.looks, Turn.asks])
  cases leads with
  | stopped => cases quiet.1 true (by simp [Turn.calls, Turn.looks])
  | expired now => exact .inl ⟨now, rfl, rfl⟩
  | silence now? maxWait => exact .inr ⟨now?, maxWait, rfl, rfl⟩
  | _ => cases silent _ _ _ _ rfl

/-- As long as a `Quiet` wait goes on there is one of its `silences` in each of its turns. -/
theorem Follows.length_silences {seen : Seen} {turns : List Turn}
    {result? : Option (Except Failure Outcome)} (chain : Follows session seen turns result?)
    (quiet : Quiet (turns.flatMap (Turn.calls session))) (pending : result? = none) :
    (silences (turns.flatMap (Turn.calls session))).length = turns.length := by
  induction chain with
  | pending seen => rfl
  | last step => cases pending
  | @next seen seen' t rest result? step tail ih =>
    rw [List.flatMap_cons] at quiet ⊢
    obtain ⟨quiet_turn, quiet_rest⟩ := quiet_append.mp quiet
    obtain ⟨now, -, given_up⟩ | ⟨now?, maxWait, rfl, -⟩ := step.of_quiet quiet_turn
    · cases given_up
    · have alone : silences (Turn.calls session (.polled now? maxWait (.ok none) none)) =
          [maxWait] := by
        cases now? <;> rfl
      have later := ih quiet_rest pending
      rw [silences_append, alone, List.length_append, List.length_singleton, later,
        List.length_cons, Nat.add_comm]

/-- `ClockKeeps` for a clock that shows precisely the time that silence takes, and so for one that
    shows no less of it. -/
theorem ClockKeeps.le_of_eq {time : Int} {calls : List Call}
    (keeps : ClockKeeps (· = ·) time calls) : ClockKeeps (· ≤ ·) time calls := by
  induction calls generalizing time with
  | nil => trivial
  | cons call rest ih =>
    obtain ⟨shown, keeps_rest⟩ := keeps
    exact ⟨fun reading h => Int.le_of_eq (shown reading h), ih keeps_rest⟩

/-- A `Quiet` wait that has ended was silent up to the deadline: if nothing else takes time, its
    silences fill the time that was left, and it is given up when the clock shows the deadline.  The
    induction is on the turns; a silence that is cut short leaves no time for another one. -/
theorem Follows.fills {deadline : Instant} {pollInterval : Duration} {seen : Seen}
    {turns : List Turn} {result? : Option (Except Failure Outcome)}
    {result : Except Failure Outcome} {time : Int} {span : Nat}
    (chain : Follows session seen turns result?) (ended : result? = some result)
    (positive : 0 < pollInterval.toNanos)
    (timely : ∀ t ∈ turns, t.Timely (some deadline) pollInterval)
    (keeps : ClockKeeps (· = ·) time (turns.flatMap (Turn.calls session)))
    (quiet : Quiet (turns.flatMap (Turn.calls session)))
    (deadline_eq : deadline.toNanos = time + span) :
    Fills pollInterval span (silences (turns.flatMap (Turn.calls session))) ∧
      result = .ok (seen.outcome .timedOut) ∧
      ∃ before, turns.flatMap (Turn.calls session) =
        before ++ [.interrupted false, .now deadline] := by
  induction chain generalizing time span with
  | pending seen => cases ended
  -- given up: the clock shows the deadline, so no time was left and there is no silence
  | @last seen t result' step =>
    cases ended
    rw [List.flatMap_singleton] at keeps quiet ⊢
    obtain ⟨now, rfl, given_up⟩ | ⟨now?, maxWait, -, goes_on⟩ := step.of_quiet quiet
    · cases given_up
      have shown : time = now.toNanos := clockKeeps_expired.mp keeps
      obtain ⟨deadline', same, reached⟩ := (timely (.expired now) (by simp)).exists_deadline
      cases same
      have now_eq : now = deadline := Instant.eq_of_toNanos_eq (by omega)
      have no_time : span = 0 := by omega
      subst now_eq no_time
      exact ⟨.nil, rfl, [], rfl⟩
    · cases goes_on
  -- the silence of this turn takes its share of the time, the rest is the induction's
  | @next seen seen' t rest result? step tail ih =>
    rw [List.flatMap_cons] at keeps quiet ⊢
    obtain ⟨quiet_turn, quiet_rest⟩ := quiet_append.mp quiet
    obtain ⟨keeps_turn, keeps_rest⟩ := clockKeeps_append.mp keeps
    have timely_rest : ∀ t' ∈ rest, t'.Timely (some deadline) pollInterval :=
      fun t' mem => timely t' (List.mem_cons_of_mem t mem)
    obtain ⟨now, -, given_up⟩ | ⟨now?, maxWait, rfl, goes_on⟩ := step.of_quiet quiet_turn
    · cases given_up
    · cases goes_on
      have timely_turn := timely (.polled now? maxWait (.ok none) none) List.mem_cons_self
      have bounds := timely_turn.maxWait_bounds positive
      obtain ⟨now, rfl, ahead, ends⟩ := timely_turn.ends_by_deadline
      have shown : time = now.toNanos := clockKeeps_polled.mp keeps_turn
      have cut := timely_turn.full_or_cut
      -- a silence never reaches beyond the deadline, so the subtraction is exact
      have rest_eq : deadline.toNanos =
          now.toNanos + maxWait.toNanos + (span - maxWait.toNanos : Nat) := by omega
      obtain ⟨fills, result_eq, before, calls_eq⟩ :=
        ih ended timely_rest keeps_rest quiet_rest rest_eq
      refine ⟨?_, result_eq,
        Turn.calls session (.polled (some now) maxWait (.ok none) none) ++ before, ?_⟩
      · have whole : maxWait.toNanos + (span - maxWait.toNanos) = span := by omega
        rw [silences_append, ← whole]
        exact fills.cons bounds.1 bounds.2 (cut.imp_right (by omega))
      · rw [calls_eq, List.append_assoc]

/-! ### Waits -/

/-- How long a wait by its `Options` may last, in nanoseconds. -/
def Options.span (o : Options) : Nat :=
  o.timeout.toNanos + o.grace.toNanos

/-- **A wait ends on time if the channel keeps its promise.**  Whatever the clock shows and whatever
    the flag, the channel and the store answer: if a silence takes at least the time that was given
    to it, there are at most as many `silences` as single waits are begun in the timeout and the
    grace.  If nothing disturbs the wait and nothing else takes time, there are so many, none of
    them is empty, all but the last are of the full length, they fill the timeout and the grace, and
    the wait is given up when the clock shows the deadline, within one turn more than there are
    silences. -/
theorem wait_onTime {ε : Type} (host : Host ε) (options : Options) (session : SessionName)
    (limit : Nat) (w : World ε) (positive : 0 < options.pollInterval.toNanos) :
    ∃ start later, calls host options session limit w = .now start :: later ∧
      ∀ deadline, options.deadlineAfter start = some deadline →
        (ClockKeeps (· ≤ ·) start.toNanos later →
          (silences later).length ≤ options.span ⌈/⌉ options.pollInterval.toNanos) ∧
        (ClockKeeps (· = ·) start.toNanos later → Quiet later →
          options.span ⌈/⌉ options.pollInterval.toNanos < limit →
          (silences later).length = options.span ⌈/⌉ options.pollInterval.toNanos ∧
          Fills options.pollInterval options.span (silences later) ∧
          (wait host options session limit w).result? = some (.ok ⟨.timedOut, none, none⟩) ∧
          ∃ before, later = before ++ [.interrupted false, .now deadline]) := by
  refine ⟨_, _, calls_eq host options session limit w, ?_⟩
  intro deadline deadline_eq
  have timely := wait_timely host options session limit w
  have chain := wait_follows host options session limit w
  have exact_end := deadlineAfter_eq_some_iff.mp deadline_eq
  have span_eq : deadline.toNanos = (w.outsideStep host.now).1.toNanos + options.span := by
    rw [exact_end, Options.endNanos, Options.span]
    omega
  rw [deadline_eq] at timely
  refine ⟨fun keeps => length_silences_le positive timely keeps span_eq, ?_⟩
  intro keeps quiet enough
  cases ended : (wait host options session limit w).result? with
  | none =>
    -- a wait that still goes on has been silent too often
    have often := chain.length_silences quiet ended
    have bounded := length_silences_le positive timely keeps.le_of_eq span_eq
    rw [length_turns_wait host options session limit w ended] at often
    omega
  | some result =>
    obtain ⟨fills, rfl, last⟩ := chain.fills ended positive timely keeps quiet span_eq
    exact ⟨fills.length_eq positive, fills, rfl, last⟩

/-- A host with nothing but a clock, which goes on by the time of each silence. -/
def silentHost : Host Instant where
  now clock := (clock, clock)
  interrupted clock := (false, clock)
  identity clock := (default, clock)
  run _ _ m := (.error default, m)
  nextEvent maxWait m :=
    ({ result := .ok none }, { m with outside := (m.outside.add? maxWait).getD m.outside })
  readState _ m := ({ result := .ok none }, m)

/-- A wait of two seconds and a half, at most two at a time. -/
def unevenWait : Options where
  timeout := .ofSeconds 2
  grace := .ofMillis 500
  pollInterval := .ofSeconds 2

/-- The calls of `unevenWait` after its first reading of the clock, where the channel is silent. -/
def unevenCalls : List Call :=
  [.interrupted false, .now (.ofSeconds 0), .nextEvent (.ofSeconds 2) (.ok none),
   .interrupted false, .now (.ofSeconds 2), .nextEvent (.ofMillis 500) (.ok none),
   .interrupted false, .now { seconds := 2, nanos := 500000000 }]

/-- On `silentHost` the wait of two seconds and a half is silent twice, for two seconds and for the
    half that is left, and is given up in its third turn. -/
theorem wait_onTime_silentHost :
    0 < unevenWait.pollInterval.toNanos ∧
    unevenWait.deadlineAfter (.ofSeconds 0) = some { seconds := 2, nanos := 500000000 } ∧
    calls silentHost unevenWait ⟨"s"⟩ 3 ⟨⟨default, .ofSeconds 0⟩, []⟩ =
      .now (.ofSeconds 0) :: unevenCalls ∧
    ClockKeeps (· ≤ ·) (Instant.ofSeconds 0).toNanos unevenCalls ∧
    (silences unevenCalls).length ≤ 2 ∧
    ClockKeeps (· = ·) (Instant.ofSeconds 0).toNanos unevenCalls ∧ Quiet unevenCalls ∧
    unevenWait.span ⌈/⌉ unevenWait.pollInterval.toNanos = 2 ∧
    silences unevenCalls = [.ofSeconds 2, .ofMillis 500] ∧
    Fills unevenWait.pollInterval unevenWait.span (silences unevenCalls) ∧
    (wait silentHost unevenWait ⟨"s"⟩ 3 ⟨⟨default, .ofSeconds 0⟩, []⟩).result? =
      some (.ok ⟨.timedOut, none, none⟩) := by
  have positive : 0 < unevenWait.pollInterval.toNanos := by decide
  have often : unevenWait.span ⌈/⌉ unevenWait.pollInterval.toNanos = 2 := by
    rw [Nat.ceilDiv_eq_add_pred_div]
    decide
  have called : calls silentHost unevenWait ⟨"s"⟩ 3 ⟨⟨default, .ofSeconds 0⟩, []⟩ =
      .now (.ofSeconds 0) :: unevenCalls := by cbv
  have deadline_eq :
      unevenWait.deadlineAfter (.ofSeconds 0) = some { seconds := 2, nanos := 500000000 } := by
    decide
  obtain ⟨start, later, calls_eq, onTime⟩ :=
    wait_onTime silentHost unevenWait ⟨"s"⟩ 3 ⟨⟨default, .ofSeconds 0⟩, []⟩ positive
  rw [called] at calls_eq
  obtain ⟨same, rfl⟩ := List.cons.inj calls_eq
  cases same
  rw [often] at onTime
  obtain ⟨bounded, filled⟩ := onTime _ deadline_eq
  have shown : ClockKeeps (· = ·) (Instant.ofSeconds 0).toNanos unevenCalls := by
    simp only [unevenCalls, ClockKeeps, Call.after, Call.now.injEq, reduceCtorEq, forall_eq',
      IsEmpty.forall_iff, implies_true, true_and, and_true]
    decide
  have quiet : Quiet unevenCalls := by
    simp only [Quiet, unevenCalls, List.mem_cons, List.not_mem_nil]
    grind
  obtain ⟨-, fills, result_eq, -⟩ := filled shown quiet (by decide)
  exact ⟨positive, deadline_eq, called, shown.le_of_eq, bounded shown.le_of_eq, shown, quiet, often,
    by rfl, fills, result_eq⟩

end Watch

end FlowDump
