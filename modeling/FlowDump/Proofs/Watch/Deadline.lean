import FlowDump.Watch
import Mathlib

/-!
# The deadline of a wait

The end of a wait is found by two sums, of the timeout and the grace and then of the start, each of
which carries its nanoseconds over and is given up where its seconds no longer fit.  Together they
come to one exact sum.

* `Duration.add?_cases`, `Instant.add?_cases` — a sum is exact, or too large to be held.
* `Options.endNanos` — the exact sum of the start, the timeout and the grace, in nanoseconds.
* `deadlineAfter_cases` — the deadline is this sum, or the sum is too large to be held.
* `deadlineAfter_exact` — there is a deadline exactly where the sum can be held, and no longer wait
  has an earlier one.
-/

namespace FlowDump

/-! ### Sums of durations -/

namespace Duration

/-- `Duration.add?` is exact, or the whole seconds of the sum do not fit. -/
theorem add?_cases (a b : Duration) :
    (∃ d, a.add? b = some d ∧ d.toNanos = a.toNanos + b.toNanos) ∨
      (a.add? b = none ∧ 2 ^ 64 * 1000000000 ≤ a.toNanos + b.toNanos) := by
  have carried := a.nanos_lt
  have carried' := b.nanos_lt
  simp only [add?, toNanos]
  split
  · split
    · exact .inl ⟨_, rfl, by dsimp only; omega⟩
    · split
      · exact .inl ⟨_, rfl, by dsimp only; omega⟩
      · exact .inr ⟨rfl, by omega⟩
  · exact .inr ⟨rfl, by omega⟩

end Duration

/-! ### Points of time later on -/

namespace Instant

/-- A point of time is known by `Instant.toNanos`. -/
theorem eq_of_toNanos_eq {t t' : Instant} (h : t.toNanos = t'.toNanos) : t = t' := by
  obtain ⟨s, n, _, _, n_lt⟩ := t
  obtain ⟨s', n', _, _, n_lt'⟩ := t'
  simp only [toNanos] at h
  simp only [mk.injEq]
  omega

/-- Whether some nanoseconds from the origin can be held: their whole seconds, rounded down, fit 64
    bits with a sign. -/
def Holds (nanos : Int) : Prop :=
  -2 ^ 63 ≤ nanos / 1000000000 ∧ nanos / 1000000000 < 2 ^ 63

/-- Every point of time `Holds` its nanoseconds. -/
theorem holds_toNanos (t : Instant) : Holds t.toNanos := by
  have low := t.seconds_ge
  have high := t.seconds_lt
  have carried := t.nanos_lt
  unfold Holds toNanos
  omega

/-- The parts of a point of time are those of `Instant.toNanos`. -/
theorem parts_eq (t : Instant) :
    t.seconds = t.toNanos / 1000000000 ∧ (t.nanos : Int) = t.toNanos % 1000000000 := by
  have carried := t.nanos_lt
  unfold toNanos
  omega

/-- `Instant.add?` is exact, or the whole seconds of the sum do not fit. -/
theorem add?_cases (t : Instant) (d : Duration) :
    (∃ t', t.add? d = some t' ∧ t'.toNanos = t.toNanos + d.toNanos) ∨
      (t.add? d = none ∧ 2 ^ 63 * 1000000000 ≤ t.toNanos + d.toNanos) := by
  have carried := t.nanos_lt
  have carried' := d.nanos_lt
  simp only [add?, toNanos, Duration.toNanos]
  split
  · split
    · exact .inl ⟨_, rfl, by dsimp only; omega⟩
    · split
      · exact .inl ⟨_, rfl, by dsimp only; omega⟩
      · exact .inr ⟨rfl, by omega⟩
  · exact .inr ⟨rfl, by omega⟩

end Instant

namespace Watch

/-! ### The deadline -/

/-- The time at which a wait ends that starts at some time, in nanoseconds: the exact sum of which
    `deadlineAfter` is made. -/
def Options.endNanos (o : Options) (start : Instant) : Int :=
  start.toNanos + o.timeout.toNanos + o.grace.toNanos

/-- `deadlineAfter` is the exact sum, or the sum cannot be held. -/
theorem deadlineAfter_cases (o : Options) (start : Instant) :
    (∃ deadline, o.deadlineAfter start = some deadline ∧
        deadline.toNanos = o.endNanos start) ∨
      (o.deadlineAfter start = none ∧ ¬ Instant.Holds (o.endNanos start)) := by
  have earliest := start.holds_toNanos
  simp only [Options.deadlineAfter, Options.endNanos, Instant.Holds] at *
  rcases o.timeout.add?_cases o.grace with ⟨total, total_eq, exact_total⟩ | ⟨total_eq, large⟩
  · rw [total_eq, Option.bind_some]
    rcases start.add?_cases total with ⟨deadline, deadline_eq, exact_end⟩ | ⟨none_eq, late⟩
    · exact .inl ⟨deadline, deadline_eq, by omega⟩
    · exact .inr ⟨none_eq, by omega⟩
  · -- so long a wait is too long after the earliest start there is
    rw [total_eq, Option.bind_none]
    exact .inr ⟨rfl, by omega⟩

/-- `deadlineAfter` gives the point of time of the exact sum, wherever there is one. -/
theorem deadlineAfter_eq_some_iff {o : Options} {start deadline : Instant} :
    o.deadlineAfter start = some deadline ↔ deadline.toNanos = o.endNanos start := by
  rcases deadlineAfter_cases o start with ⟨t, t_eq, exact_end⟩ | ⟨none_eq, unheld⟩
  · rw [t_eq, Option.some.injEq]
    constructor
    · rintro rfl
      exact exact_end
    · intro h
      exact Instant.eq_of_toNanos_eq (exact_end.trans h.symm)
  · rw [none_eq]
    constructor
    · intro h
      cases h
    · intro h
      exact absurd (h ▸ deadline.holds_toNanos) unheld

/-- `deadlineAfter` gives a deadline exactly where the sum can be held. -/
theorem isSome_deadlineAfter_iff {o : Options} {start : Instant} :
    (o.deadlineAfter start).isSome = true ↔ Instant.Holds (o.endNanos start) := by
  rcases deadlineAfter_cases o start with ⟨t, t_eq, exact_end⟩ | ⟨none_eq, unheld⟩
  · rw [t_eq, ← exact_end]
    exact ⟨fun _ => t.holds_toNanos, fun _ => rfl⟩
  · rw [none_eq]
    constructor
    · intro h
      cases h
    · intro held
      exact absurd held unheld

/-- When a wait has to end; one without a deadline never has to. -/
def latest (deadline? : Option Instant) : WithTop Int :=
  match deadline? with
  | none => ⊤
  | some deadline => deadline.toNanos

/-- By `latest` a wait has to end no later than another one if it has a deadline wherever the other
    one does, and no later one. -/
theorem latest_le_iff {o o' : Options} {start : Instant} :
    latest (o.deadlineAfter start) ≤ latest (o'.deadlineAfter start) ↔
      (Instant.Holds (o'.endNanos start) →
        Instant.Holds (o.endNanos start) ∧ o.endNanos start ≤ o'.endNanos start) := by
  rcases deadlineAfter_cases o' start with ⟨t', t'_eq, exact_end'⟩ | ⟨none_eq', unheld'⟩
  · rcases deadlineAfter_cases o start with ⟨t, t_eq, exact_end⟩ | ⟨none_eq, unheld⟩
    · rw [t_eq, t'_eq, ← exact_end, ← exact_end']
      have held := t.holds_toNanos
      have held' := t'.holds_toNanos
      simp [latest, held, held']
    · rw [none_eq, t'_eq, ← exact_end']
      have held' := t'.holds_toNanos
      simp [latest, held', unheld]
  · rw [none_eq']
    simp [latest, unheld']

/-- **The deadline is exact.**  Whatever the start, the timeout and the grace are, `deadlineAfter`
    gives a deadline exactly where the whole seconds of their exact sum can be held, and then it is
    this sum to the nanosecond, with its whole seconds and the nanoseconds that are left.  So
    neither a sum of timeout and grace that is given up nor a carry of nanoseconds takes away a
    deadline that could be held, and none that could not be held comes out as an earlier one.  A
    longer timeout or a longer grace never ends a wait earlier. -/
theorem deadlineAfter_exact (o : Options) (start : Instant) :
    ((o.deadlineAfter start).isSome = true ↔ Instant.Holds (o.endNanos start)) ∧
    (∀ deadline, o.deadlineAfter start = some deadline →
      deadline.toNanos = o.endNanos start ∧
      deadline.seconds = o.endNanos start / 1000000000 ∧
      (deadline.nanos : Int) = o.endNanos start % 1000000000) ∧
    (o.timeout.add? o.grace = none → ¬ Instant.Holds (o.endNanos start)) ∧
    ∀ longer : Options, o.timeout.toNanos ≤ longer.timeout.toNanos →
      o.grace.toNanos ≤ longer.grace.toNanos →
      latest (o.deadlineAfter start) ≤ latest (longer.deadlineAfter start) := by
  refine ⟨isSome_deadlineAfter_iff, ?_, ?_, ?_⟩
  · intro deadline h
    have exact_end := deadlineAfter_eq_some_iff.mp h
    rw [← exact_end]
    exact ⟨rfl, deadline.parts_eq⟩
  · intro given_up
    rw [← isSome_deadlineAfter_iff, Options.deadlineAfter, given_up]
    simp
  -- no deadline is the latest of all, so only a longer wait that has one is compared
  · intro longer timeout_le grace_le
    rw [latest_le_iff]
    have earliest := start.holds_toNanos
    intro held
    simp only [Instant.Holds, Options.endNanos] at *
    omega

/-- Four seconds before the last point of time that can be held. -/
def lateStart : Instant := { seconds := 0x7FFFFFFFFFFFFFFB, nanos := 999999999 }

/-- A wait of almost two seconds, and a grace of as much. -/
def carryingWait : Options where
  timeout := { seconds := 1, nanos := 999999999 }
  grace := { seconds := 1, nanos := 999999999 }
  pollInterval := .ofSeconds 1

/-- A wait whose timeout and grace cannot be added up. -/
def endlessWait : Options :=
  { carryingWait with timeout := .ofSeconds 0xFFFFFFFFFFFFFFFF, grace := .ofSeconds 5 }

/-- From `lateStart`, where the nanoseconds of `carryingWait` carry over in both sums, it ends in
    the last second that can be held.  The timeout and the grace of `endlessWait` cannot be added
    up: it has no deadline, and does not end earlier. -/
theorem deadlineAfter_exact_lastSecond :
    carryingWait.deadlineAfter lateStart =
      some { seconds := 0x7FFFFFFFFFFFFFFF, nanos := 999999997 } ∧
    carryingWait.endNanos lateStart = 9223372036854775807999999997 ∧
    endlessWait.timeout.add? endlessWait.grace = none ∧
    ¬ Instant.Holds (endlessWait.endNanos lateStart) ∧
    latest (carryingWait.deadlineAfter lateStart) ≤
      latest (endlessWait.deadlineAfter lateStart) := by
  obtain ⟨-, exact_end, -, monotone⟩ := deadlineAfter_exact carryingWait lateStart
  obtain ⟨-, -, unheld, -⟩ := deadlineAfter_exact endlessWait lateStart
  have deadline_eq : carryingWait.deadlineAfter lateStart =
      some { seconds := 0x7FFFFFFFFFFFFFFF, nanos := 999999997 } :=
    deadlineAfter_eq_some_iff.mpr (by rfl)
  have given_up : endlessWait.timeout.add? endlessWait.grace = none := by rfl
  refine ⟨deadline_eq, ?_, given_up, unheld given_up, monotone endlessWait ?_ ?_⟩
  · rw [← (exact_end _ deadline_eq).1]
    rfl
  · decide
  · decide

end Watch

end FlowDump
