import FlowDump.Proofs.Watch.Outcome

/-!
# A wait beside the producer of the record

The producer overwrites the record of a session and announces every writing on the channel, while
other keys are announced as well; the watcher takes the announcements one by one and reads the
record some time later.  Before each step of the watcher the producer may do anything, so that a
schedule is an interleaving of both.

* `Table` — the record with all its writings, the queue of the channel, and what the watcher has
  taken and read so far.
* `Act` — what the producer can do; `Schedule` — an interleaving.
* `producing` — the host of a wait beside a producer.
* `Table.Announced`, `Table.UpToDate` — the invariants: nothing is announced before it was written,
  and after a turn the last reading is as new as every announcement that was taken.
* `wait_producing` — no completion is lost, and no stale record is acted on.
-/

namespace FlowDump.Watch

/-! ### The table and its producer -/

/-- A `Notification` on its way to the watcher. -/
structure Message where
  event : Notification
  /-- The number of the writing that it announces, counted from one. -/
  write? : Option Nat := none

/-- The record of a session and the channel that tells of it. -/
structure Table where
  /-- The record before the first writing. -/
  first? : Option StateRecord
  writes : List StateRecord := []
  /-- How many of the writings have been announced. -/
  announced : Nat := 0
  queue : List Message := []
  /-- What the watcher has taken from the queue. -/
  taken : List Message := []
  /-- The writings after which the watcher has read, by their numbers. -/
  reads : List Nat := []
  /-- How many steps the watcher has made. -/
  time : Nat := 0

/-- What the producer does in one step.  An announcement comes after its writing, and each writing
    is announced once; events of other keys may be sent at any time. -/
inductive Act where
  | write (record : StateRecord)
  | announce (operation : String)
  | other (event : Notification)

/-- What the channel does when it is asked. -/
inductive Channel where
  | deliver
  | silent
  | broken (failure : Failure)

/-- An interleaving: each `Act` of the producer before a step of the watcher, and what the flag, the
    clock and the channel answer in it. -/
structure Schedule where
  acts : Nat → List Act
  stops : Nat → Bool
  clock : Nat → Instant
  channel : Nat → Channel

namespace Table

/-- The record after so many writings. -/
def version (x : Table) : Nat → Option StateRecord
  | 0 => x.first?
  | n + 1 => x.writes[n]?

/-- The record as it stands: the latest `version`. -/
def record? (x : Table) : Option StateRecord := x.version x.writes.length

/-- One `Act` of the producer of a session. -/
def act (session : SessionName) (x : Table) : Act → Table
  | .write record => { x with writes := x.writes ++ [record] }
  | .announce operation =>
    if x.announced < x.writes.length then
      { x with
        announced := x.announced + 1
        queue := x.queue ++
          [{ event := { key := session.text, operation }, write? := some (x.announced + 1) }] }
    else x
  | .other event => { x with queue := x.queue ++ [{ event }] }

/-- The watcher makes a step, before which each `Act` that the schedule has for it is done. -/
def elapse (session : SessionName) (schedule : Schedule) (x : Table) : Table :=
  { (schedule.acts x.time).foldl (act session) x with time := x.time + 1 }

/-- Take the first `Message` of the queue. -/
def take (x : Table) : Option Notification × Table :=
  match x.queue with
  | [] => (none, x)
  | m :: rest => (some m.event, { x with queue := rest, taken := x.taken ++ [m] })

/-- Read the record as it stands. -/
def read (x : Table) : Option StateRecord × Table :=
  (x.record?, { x with reads := x.reads ++ [x.writes.length] })

end Table

/-- The host of a wait for a session beside its producer, which goes on by `Table.elapse` in every
    step. -/
def producing (session : SessionName) (schedule : Schedule) : Host Table where
  now x := (schedule.clock x.time, x.elapse session schedule)
  interrupted x := (schedule.stops x.time, x.elapse session schedule)
  identity x := (default, x)
  run _ _ m := (.error default, m)
  nextEvent _ m :=
    let x := m.outside.elapse session schedule
    match schedule.channel m.outside.time with
    | .deliver => ({ result := .ok x.take.1 }, { m with outside := x.take.2 })
    | .silent => ({ result := .ok none }, { m with outside := x })
    | .broken e => ({ result := .error e }, { m with outside := x })
  readState s m :=
    let x := m.outside.elapse session schedule
    if s = session then ({ result := .ok x.read.1 }, { m with outside := x.read.2 })
    else ({ result := .ok none }, { m with outside := x })

namespace Table

variable {session : SessionName}

/-! ### What the producer leaves alone -/

/-- A table after the producer has acted: what was written and what the watcher did stay. -/
structure Grows (x y : Table) : Prop where
  first_eq : y.first? = x.first?
  writes_grow : x.writes <+: y.writes
  taken_eq : y.taken = x.taken
  reads_eq : y.reads = x.reads

theorem Grows.refl (x : Table) : Grows x x := ⟨rfl, List.prefix_refl _, rfl, rfl⟩

theorem Grows.trans {x y z : Table} (h : Grows x y) (h' : Grows y z) : Grows x z :=
  ⟨h'.first_eq.trans h.first_eq, h.writes_grow.trans h'.writes_grow,
    h'.taken_eq.trans h.taken_eq, h'.reads_eq.trans h.reads_eq⟩

/-- A `version` is settled once it has been written. -/
theorem version_settled {x y : Table} (first_eq : y.first? = x.first?)
    (writes_grow : x.writes <+: y.writes) {n : Nat} (hn : n ≤ x.writes.length) :
    y.version n = x.version n := by
  cases n with
  | zero => exact first_eq
  | succ n =>
    obtain ⟨later, hl⟩ := writes_grow
    show y.writes[n]? = x.writes[n]?
    rw [← hl, List.getElem?_append_left hn]

/-- Nothing is announced before it was written, and announcements carry the key of the session. -/
structure Announced (session : SessionName) (x : Table) : Prop where
  announced_le : x.announced ≤ x.writes.length
  queued : ∀ m ∈ x.queue, ∀ n, m.write? = some n →
    n ≤ x.writes.length ∧ m.event.key = session.text

/-- A table `Grows` by every step of the producer. -/
theorem act_grows (x : Table) (a : Act) : Grows x (x.act session a) := by
  cases a with
  | write record => exact ⟨rfl, List.prefix_append _ _, rfl, rfl⟩
  | announce operation =>
    simp only [act]
    split
    · exact ⟨rfl, List.prefix_refl _, rfl, rfl⟩
    · exact .refl x
  | other event => exact ⟨rfl, List.prefix_refl _, rfl, rfl⟩

/-- Every step of the producer leaves only what was written `Announced`. -/
theorem Announced.act {x : Table} (h : x.Announced session) (a : Act) :
    (x.act session a).Announced session := by
  cases a with
  | write record =>
    refine ⟨?_, ?_⟩
    · have := h.announced_le
      simp only [Table.act, List.length_append, List.length_singleton]
      omega
    · intro m hm n hn
      obtain ⟨hle, hkey⟩ := h.queued m hm n hn
      refine ⟨?_, hkey⟩
      simp only [Table.act, List.length_append, List.length_singleton]
      omega
  | announce operation =>
    simp only [Table.act]
    split
    -- an announcement is sent only of a writing that has none yet
    · rename_i hlt
      refine ⟨hlt, ?_⟩
      intro m hm n hn
      rcases List.mem_append.mp hm with hm | hm
      · exact h.queued m hm n hn
      · rw [List.mem_singleton.mp hm] at hn ⊢
        cases hn
        exact ⟨hlt, rfl⟩
    · exact h
  -- a message of somebody else announces no writing
  | other event =>
    refine ⟨h.announced_le, ?_⟩
    intro m hm n hn
    rcases List.mem_append.mp hm with hm | hm
    · exact h.queued m hm n hn
    · rw [List.mem_singleton.mp hm] at hn
      cases hn

/-- What the producer does between two steps of the watcher is settled for good and soundly
    `Announced`. -/
theorem foldl_act (acts : List Act) {x : Table} (h : x.Announced session) :
    Grows x (acts.foldl (act session) x) ∧ (acts.foldl (act session) x).Announced session := by
  induction acts generalizing x with
  | nil => exact ⟨.refl x, h⟩
  | cons a rest ih =>
    obtain ⟨hg, ha⟩ := ih (h.act a)
    exact ⟨(act_grows x a).trans hg, ha⟩

/-- A table `Grows` before the watcher makes a step. -/
theorem elapse_grows (schedule : Schedule) {x : Table} (h : x.Announced session) :
    Grows x (x.elapse session schedule) := by
  obtain ⟨hg, _⟩ := foldl_act (schedule.acts x.time) h
  exact ⟨hg.first_eq, hg.writes_grow, hg.taken_eq, hg.reads_eq⟩

/-- What the producer does before a step of the watcher is soundly `Announced`. -/
theorem Announced.elapse (schedule : Schedule) {x : Table} (h : x.Announced session) :
    (x.elapse session schedule).Announced session := by
  obtain ⟨_, ha⟩ := foldl_act (schedule.acts x.time) h
  exact ⟨ha.announced_le, ha.queued⟩

/-! ### What the watcher keeps up with -/

/-- The last reading is as new as every announcement that was taken. -/
structure UpToDate (x : Table) : Prop where
  taken_le : ∀ m ∈ x.taken, ∀ n, m.write? = some n →
    ∃ v, x.reads.getLast? = some v ∧ n ≤ v
  reads_le : ∀ v ∈ x.reads, v ≤ x.writes.length

/-- A table that `Grows` leaves the watcher `UpToDate`: what it took and what it read are as they
    were. -/
theorem UpToDate.grows {x y : Table} (h : x.UpToDate) (g : Grows x y) : y.UpToDate := by
  refine ⟨?_, ?_⟩
  · rw [g.taken_eq, g.reads_eq]
    exact h.taken_le
  · intro v hv
    rw [g.reads_eq] at hv
    exact Nat.le_trans (h.reads_le v hv) g.writes_grow.length_le

/-- A reading is newer than all announcements so far, and so leaves the watcher `UpToDate`. -/
theorem upToDate_read {x : Table} (reads_le : ∀ v ∈ x.reads, v ≤ x.writes.length)
    (taken_le : ∀ m ∈ x.taken, ∀ n, m.write? = some n → n ≤ x.writes.length) :
    x.read.2.UpToDate := by
  refine ⟨?_, ?_⟩
  · intro m hm n hn
    exact ⟨x.writes.length, by simp [read], taken_le m hm n hn⟩
  · intro v hv
    rcases List.mem_append.mp hv with hv | hv
    · exact reads_le v hv
    · rw [List.mem_singleton.mp hv]
      exact Nat.le_refl _

/-- Where the watcher is `UpToDate`, no announcement that was taken is newer than the table. -/
theorem UpToDate.taken_le_length {x : Table} (h : x.UpToDate) {m : Message} (hm : m ∈ x.taken)
    {n : Nat} (hn : m.write? = some n) : n ≤ x.writes.length := by
  obtain ⟨v, hv, hle⟩ := h.taken_le m hm n hn
  exact Nat.le_trans hle (h.reads_le v (List.mem_of_getLast? hv))

/-! ### Turns beside a producer -/

/-- A table after some turns: it has only grown, the watcher is `UpToDate`, and what was read in
    these turns are the versions it has noted. -/
structure Advances (session : SessionName) (x : Table) (turns : List Turn) (y : Table) :
    Prop where
  announced : y.Announced session
  upToDate : y.UpToDate
  first_eq : y.first? = x.first?
  writes_grow : x.writes <+: y.writes
  reads_eq : ∃ new, y.reads = x.reads ++ new ∧
    turns.filterMap Turn.read? = new.map fun v => .ok (y.version v)

/-- What the producer does in `Table.elapse` never makes the watcher fall behind. -/
theorem advances_elapse (schedule : Schedule) {x : Table} (announced : x.Announced session)
    (upToDate : x.UpToDate) : Advances session x [] (x.elapse session schedule) := by
  have g := elapse_grows schedule announced
  exact ⟨announced.elapse schedule, upToDate.grows g, g.first_eq, g.writes_grow, [],
    by simp [g.reads_eq], rfl⟩

/-- A turn without a reading `Advances` nothing. -/
theorem Advances.unread {x y : Table} (h : Advances session x [] y) {t : Turn}
    (unread : t.read? = none) : Advances session x [t] y := by
  obtain ⟨new, hy, hnew⟩ := h.reads_eq
  refine ⟨h.announced, h.upToDate, h.first_eq, h.writes_grow, new, hy, ?_⟩
  rw [← hnew]
  simp [unread]

theorem Advances.append {x y z : Table} {ts us : List Turn} (h : Advances session x ts y)
    (h' : Advances session y us z) : Advances session x (ts ++ us) z := by
  obtain ⟨new, hy, hts⟩ := h.reads_eq
  obtain ⟨new', hz, hus⟩ := h'.reads_eq
  refine ⟨h'.announced, h'.upToDate, h'.first_eq.trans h.first_eq,
    h.writes_grow.trans h'.writes_grow, new ++ new', by simp [hz, hy], ?_⟩
  rw [List.filterMap_append, hts, hus, List.map_append, List.append_cancel_right_eq]
  -- what was read before is not rewritten later
  refine List.map_congr_left fun v hv => ?_
  have hle : v ≤ y.writes.length := h.upToDate.reads_le v (by simp [hy, hv])
  rw [version_settled h'.first_eq h'.writes_grow hle]

end Table

open Table

variable {session : SessionName}

/-- A message of another key announces none of the writings, so that it may be passed over: the
    watcher stays `UpToDate`. -/
theorem advances_otherKey {x : Table} (announced : x.Announced session) (upToDate : x.UpToDate)
    {m : Message} {rest : List Message} (hq : x.queue = m :: rest)
    (key_ne : m.event.key ≠ session.text) :
    Advances session x [] { x with queue := rest, taken := x.taken ++ [m] } := by
  refine ⟨⟨announced.announced_le, fun m' hm' => announced.queued m' ?_⟩,
    ⟨?_, upToDate.reads_le⟩, rfl, List.prefix_refl _, [], (List.append_nil _).symm, rfl⟩
  · rw [hq]
    exact List.mem_cons_of_mem m hm'
  · intro m' hm' n hn
    rcases List.mem_append.mp hm' with hm' | hm'
    · exact upToDate.taken_le m' hm' n hn
    · rw [List.mem_singleton.mp hm'] at hn
      exact absurd (announced.queued m (by simp [hq]) n hn).2 key_ne

/-- A turn in which the record is read after a message was taken: the producer may act before the
    message is taken and once more before the record is read. -/
theorem advances_read (schedule : Schedule) {x : Table} (announced : x.Announced session)
    (upToDate : x.UpToDate) {m : Message} {rest : List Message} (hq : x.queue = m :: rest)
    (event : Notification) (now? : Option Instant) (maxWait : Duration) :
    let y := ({ x with queue := rest, taken := x.taken ++ [m] } : Table).elapse session schedule
    Advances session x
      [.polled now? maxWait (.ok (some event)) (some (.ok y.record?))] y.read.2 := by
  intro y
  -- taking a message announces nothing new, and what the producer does then only grows the table
  have kept : ({ x with queue := rest, taken := x.taken ++ [m] } : Table).Announced session :=
    ⟨announced.announced_le, fun m' hm' => announced.queued m' (by simp [hq, hm'])⟩
  have g := elapse_grows schedule kept
  refine ⟨⟨(kept.elapse schedule).announced_le, (kept.elapse schedule).queued⟩, ?_, g.first_eq,
    g.writes_grow, [y.writes.length], ?_, ?_⟩
  -- the record is read after everything that was announced up to the message that was taken
  · refine upToDate_read ?_ ?_
    · intro v hv
      exact Nat.le_trans (upToDate.reads_le v (g.reads_eq ▸ hv)) g.writes_grow.length_le
    · intro m' hm' n hn
      refine Nat.le_trans ?_ g.writes_grow.length_le
      rw [g.taken_eq] at hm'
      rcases List.mem_append.mp hm' with hm' | hm'
      · exact upToDate.taken_le_length hm' hn
      · rw [List.mem_singleton.mp hm'] at hn
        exact (announced.queued m (by simp [hq]) n hn).1
  · show y.reads ++ [y.writes.length] = x.reads ++ [y.writes.length]
    rw [g.reads_eq]
  · rfl

/-- `Watch.read` beside a producer gives the record as the producer has left it by then. -/
theorem read_producing (schedule : Schedule) (seen : Seen) (event : Notification)
    (w : World Table) :
    (read (producing session schedule) session seen event w).1 =
        .ok (w.outside.elapse session schedule).record? ∧
      (read (producing session schedule) session seen event w).2.2.outside =
        (w.outside.elapse session schedule).read.2 := by
  constructor
  · have answer : ((producing session schedule).readState session w.toMachine).1.result =
        .ok (w.outside.elapse session schedule).record? := by
      simp [producing, Table.read]
    rw [← answer]
    simp only [read, World.machineStep]
    split <;> rfl
  · rw [read_machine]
    simp [producing]

/-- What the channel of `producing` answers: the next message of the queue, a failure, or silence.
    -/
theorem nextEvent_producing (schedule : Schedule) (maxWait : Duration) (m : Machine Table) :
    (producing session schedule).nextEvent maxWait m =
      match schedule.channel m.outside.time with
      | .deliver =>
        ({ result := .ok (m.outside.elapse session schedule).take.1 },
          { m with outside := (m.outside.elapse session schedule).take.2 })
      | .silent => ({ result := .ok none }, { m with outside := m.outside.elapse session schedule })
      | .broken e =>
        ({ result := .error e }, { m with outside := m.outside.elapse session schedule }) := rfl

/-- `poll` beside a producer keeps the watcher `UpToDate`. -/
theorem poll_advances (schedule : Schedule) (seen : Seen) (now? : Option Instant)
    (maxWait : Duration) {w : World Table} (announced : w.outside.Announced session)
    (upToDate : w.outside.UpToDate) :
    Advances session w.outside
      [(poll (producing session schedule) session seen now? maxWait w).1]
      (poll (producing session schedule) session seen now? maxWait w).2.2.outside := by
  -- the producer acts before the channel answers, whatever the answer is
  have before := advances_elapse schedule announced upToDate
  simp only [poll, World.machineStep, nextEvent_producing]
  cases schedule.channel w.outside.time with
  | silent => exact before.unread rfl
  | broken e => exact before.unread rfl
  | deliver =>
    cases hq : (w.outside.elapse session schedule).queue with
    | nil =>
      simp only [Table.take, hq]
      exact before.unread rfl
    | cons m rest =>
      simp only [Table.take, hq]
      split
      · -- an event of the session: the record is read anew
        simp only [read_producing]
        exact before.append
          (advances_read schedule before.announced before.upToDate hq m.event now? maxWait)
      · rename_i key_ne
        exact (before.append
          (advances_otherKey before.announced before.upToDate hq key_ne)).unread rfl

/-- `plan` beside a producer gives it time to act. -/
theorem plan_advances (schedule : Schedule) (deadline? : Option Instant)
    (pollInterval : Duration) {w : World Table} (announced : w.outside.Announced session)
    (upToDate : w.outside.UpToDate) :
    Advances session w.outside []
      (plan (producing session schedule) deadline? pollInterval w).2.outside := by
  cases deadline? with
  | none =>
    exact ⟨announced, upToDate, rfl, List.prefix_refl _, [], (List.append_nil _).symm, rfl⟩
  | some deadline =>
    simp only [plan]
    split <;> exact advances_elapse schedule announced upToDate

/-- A `turn` beside a producer keeps the watcher `UpToDate`. -/
theorem turn_advances (schedule : Schedule) (deadline? : Option Instant)
    (pollInterval : Duration) (seen : Seen) {w : World Table}
    (announced : w.outside.Announced session) (upToDate : w.outside.UpToDate) :
    Advances session w.outside
      [(turn (producing session schedule) deadline? pollInterval session seen w).1]
      (turn (producing session schedule) deadline? pollInterval session seen w).2.2.outside := by
  have flagged : Advances session w.outside []
      (w.outsideStep (producing session schedule).interrupted).2.outside :=
    advances_elapse schedule announced upToDate
  -- the producer may act at each of the three questions, so the steps are put one behind the other
  have planned := flagged.append
    (plan_advances schedule deadline? pollInterval flagged.announced flagged.upToDate)
  simp only [turn]
  split
  · exact flagged.unread rfl
  · split
    · rename_i hp
      rw [hp] at planned
      exact planned.unread rfl
    · rename_i hp
      rw [hp] at planned
      exact planned.append (poll_advances schedule seen _ _ planned.announced planned.upToDate)

/-- A `loop` beside a producer keeps the watcher `UpToDate`. -/
theorem loop_advances (schedule : Schedule) (deadline? : Option Instant)
    (pollInterval : Duration) (limit : Nat) (seen : Seen) {w : World Table}
    (announced : w.outside.Announced session) (upToDate : w.outside.UpToDate) :
    Advances session w.outside
      (loop (producing session schedule) deadline? pollInterval session limit seen w).turns
      (loop (producing session schedule) deadline? pollInterval session limit seen w).world.outside
      := by
  induction limit generalizing seen w with
  | zero =>
    exact ⟨announced, upToDate, rfl, List.prefix_refl _, [], (List.append_nil _).symm, rfl⟩
  | succ limit ih =>
    have h := turn_advances schedule deadline? pollInterval seen announced upToDate
    unfold loop
    split
    · rename_i ht
      rw [ht] at h
      exact h
    · rename_i ht
      rw [ht] at h
      exact h.append (ih _ h.announced h.upToDate)

/-! ### A terminal record ends the wait -/

/-- A chain of turns that `Follows` the rules and in which a terminal record was read has ended as
    the record says. -/
theorem Follows.ended_of_terminal {seen : Seen} {turns : List Turn}
    {result? : Option (Except Failure Outcome)} (h : Follows session seen turns result?)
    {record : StateRecord} {state : SessionState}
    (mem : .ok (some record) ∈ turns.filterMap Turn.read?) (state_eq : record.state? = some state)
    (terminal : state.isTerminal = true) :
    ∃ outcome, result? = some (.ok outcome) ∧ outcome.status = .ofState state ∧
      outcome.state? = some state := by
  have record_terminal : record.isTerminal = true := by
    simp [StateRecord.isTerminal, state_eq, terminal]
  induction h with
  | pending seen => simp at mem
  -- the wait ends with the record that was read, or has read none in this turn
  | last step =>
    cases step with
    | ends now? maxWait event key_eq record' state' state_eq' terminal' =>
      have same : record = record' := by simpa [Turn.read?] using mem
      subst same
      have : state' = state := by simpa [state_eq] using state_eq'.symm
      subst this
      exact ⟨_, rfl, rfl, by simp [Seen.outcome, Seen.update, state_eq]⟩
    | _ => simp [Turn.read?] at mem
  | next step tail ih =>
    cases step with
    -- a turn that goes on has not read a terminal record, so a later one has
    | goesOn now? maxWait event key_eq record' not_terminal =>
      have : record ≠ record' := by
        rintro rfl
        simp [record_terminal] at not_terminal
      exact ih (by simpa [Turn.read?, this] using mem)
    | _ => exact ih (by simpa [Turn.read?] using mem)

/-! ### Waits beside a producer -/

/-- **No completion is lost and no stale record is acted on.**  Take any interleaving of a producer,
    which writes and announces, with a wait that began before the first writing.  Then

    * what the store answered is what stood in the record after the writings the table notes;
    * once the announcement of a writing was taken, the last reading came after that writing;
    * once the announcement of the last writing was taken and that writing made the record terminal,
      the wait has ended as the record says. -/
theorem wait_producing (session : SessionName) (schedule : Schedule) (options : Options)
    (limit : Nat) (files : Filesystem) (log : List Log.Event) (first? : Option StateRecord) :
    let w : World Table := { files, outside := { first? }, log }
    let run := wait (producing session schedule) options session limit w
    let x := run.world.outside
    storeAnswers (producing session schedule) options session limit w =
      x.reads.map (fun v => .ok (x.version v)) ∧
    (∀ m ∈ x.taken, ∀ n, m.write? = some n →
      ∃ v, x.reads.getLast? = some v ∧ n ≤ v ∧ v ≤ x.writes.length) ∧
    (∀ m ∈ x.taken, m.write? = some x.writes.length →
      ∀ record state, x.record? = some record → record.state? = some state →
        state.isTerminal = true →
        ∃ outcome, run.result? = some (.ok outcome) ∧ outcome.status = .ofState state ∧
          outcome.state? = some state) := by
  intro w run x
  have announced : w.outside.Announced session := ⟨Nat.le_refl _, by simp [w]⟩
  have upToDate : w.outside.UpToDate := ⟨by simp [w], by simp [w]⟩
  have started : Advances session w.outside []
      (w.outsideStep (producing session schedule).now).2.outside :=
    advances_elapse schedule announced upToDate
  have h : Advances session w.outside run.turns x := by
    have looped := loop_advances schedule
      (options.deadlineAfter (w.outsideStep (producing session schedule).now).1)
      options.pollInterval limit {} started.announced started.upToDate
    simp only [run, x, wait_eq_loop]
    exact started.append looped
  obtain ⟨new, hx, hreads⟩ := h.reads_eq
  have all_new : new = x.reads := by simp [hx, w]
  subst all_new
  have newest : ∀ m ∈ x.taken, ∀ n, m.write? = some n →
      ∃ v, x.reads.getLast? = some v ∧ n ≤ v ∧ v ≤ x.writes.length := by
    intro m hm n hn
    obtain ⟨v, hv, hle⟩ := h.upToDate.taken_le m hm n hn
    exact ⟨v, hv, hle, h.upToDate.reads_le v (List.mem_of_getLast? hv)⟩
  refine ⟨?_, newest, ?_⟩
  · rw [storeAnswers_eq]
    exact hreads
  · intro m hm hn record state hrecord hstate terminal
    -- the last reading cannot be older than the last writing, nor newer
    obtain ⟨v, hv, hle, hle'⟩ := newest m hm _ hn
    have last : v = x.writes.length := Nat.le_antisymm hle' hle
    subst last
    have mem : .ok (some record) ∈ run.turns.filterMap Turn.read? := by
      rw [hreads, ← hrecord]
      exact List.mem_map_of_mem (List.mem_of_getLast? hv)
    exact (wait_follows (producing session schedule) options session limit w).ended_of_terminal
      mem hstate terminal

/-- A producer that writes twice; the second announcement comes late and behind an event of another
    key, and the channel is silent for a while. -/
def lateSchedule : Schedule where
  acts
    | 0 => [.write { state? := some .pending, path? := none }, .announce "hset"]
    | 4 => [.other { key := "t", operation := "hset" }]
    | 7 => [.write { state? := some .failed, path? := none }]
    | 8 => [.announce "hset"]
    | _ => []
  stops n := n = 30
  clock _ := default
  channel n := if n = 9 then .silent else .deliver

/-- Beside the producer of `lateSchedule` the wait ends as failed, by the announcement of the second
    writing. -/
theorem wait_producing_lateSchedule :
    let run := wait (producing ⟨"s"⟩ lateSchedule) ⟨.ofMillis 5, default, .ofMillis 1⟩ ⟨"s"⟩ 9
      { files := default, outside := { first? := none }, log := [] }
    ({ event := { key := "s", operation := "hset" }, write? := some 2 } : Message) ∈
        run.world.outside.taken ∧
      run.world.outside.writes.length = 2 ∧
      ∃ outcome, run.result? = some (.ok outcome) ∧ outcome.status = .failed := by
  intro run
  have taken : run.world.outside.taken =
      [{ event := { key := "s", operation := "hset" }, write? := some 1 },
        { event := { key := "t", operation := "hset" } },
        { event := { key := "s", operation := "hset" }, write? := some 2 }] := by rfl
  have mem : ({ event := { key := "s", operation := "hset" }, write? := some 2 } : Message) ∈
      run.world.outside.taken := by
    rw [taken]
    simp
  obtain ⟨outcome, hresult, hstatus, _⟩ :=
    (wait_producing ⟨"s"⟩ lateSchedule ⟨.ofMillis 5, default, .ofMillis 1⟩ 9 default []
      none).2.2 _ mem rfl { state? := some .failed, path? := none } .failed rfl rfl rfl
  exact ⟨mem, rfl, outcome, hresult, hstatus⟩

end FlowDump.Watch
