/-!
# Lengths and points of time

* `Duration` — whole seconds of 64 bits and nanoseconds below a second, of which there are
  1000000000.
* `Instant` — a point of time in seconds, signed and of 64 bits, and nanoseconds.
* `Duration.add?`, `Instant.add?` — sums that are given up where they do not fit.
* `Duration.toNanos`, `Instant.toNanos` — the exact number of nanoseconds, by which both are
  compared.
* `toNanos_ofSeconds`, `toNanos_ofMillis`, `toNanos_min`, `toNanos_since` — some seconds, some
  milliseconds, the shorter of two durations and the time between two points, in nanoseconds.
-/

namespace FlowDump

/-! ### Durations -/

/-- A length of time. -/
structure Duration where
  seconds : Nat
  nanos : Nat
  seconds_lt : seconds < 1 <<< 64 := by omega
  nanos_lt : nanos < 1000000000 := by omega
  deriving DecidableEq, Repr

namespace Duration

instance : Inhabited Duration := ⟨{ seconds := 0, nanos := 0 }⟩

/-- The nanoseconds of a duration. -/
def toNanos (d : Duration) : Nat :=
  d.seconds * 1000000000 + d.nanos

/-- So many seconds. -/
def ofSeconds (s : UInt64) : Duration :=
  { seconds := s.toNat, nanos := 0, seconds_lt := s.toNat_lt }

/-- So many milliseconds. -/
def ofMillis (ms : UInt64) : Duration :=
  { seconds := ms.toNat / 1000
    nanos := ms.toNat % 1000 * 1000000
    seconds_lt := by have := ms.toNat_lt; omega
    nanos_lt := by have := Nat.mod_lt ms.toNat (y := 1000) (by omega); omega }

theorem toNanos_ofSeconds (s : UInt64) : (ofSeconds s).toNanos = s.toNat * 1000000000 := by
  simp only [ofSeconds, toNanos, Nat.add_zero]

theorem toNanos_ofMillis (ms : UInt64) : (ofMillis ms).toNanos = ms.toNat * 1000000 := by
  simp only [ofMillis, toNanos]
  omega

/-- Seconds and nanoseconds; whole seconds among the nanoseconds are carried over, and `none` is
    given where they no longer fit. -/
def ofParts? (seconds nanos : Nat) : Option Duration :=
  if h : seconds + nanos / 1000000000 < 1 <<< 64 then
    some
      { seconds := seconds + nanos / 1000000000
        nanos := nanos % 1000000000
        seconds_lt := h
        nanos_lt := Nat.mod_lt _ (by decide) }
  else none

/-- The sum of two durations, `none` where its seconds do not fit. -/
def add? (a b : Duration) : Option Duration :=
  if h : a.seconds + b.seconds < 1 <<< 64 then
    if h' : a.nanos + b.nanos < 1000000000 then
      some { seconds := a.seconds + b.seconds, nanos := a.nanos + b.nanos,
             seconds_lt := h, nanos_lt := h' }
    else if h' : a.seconds + b.seconds + 1 < 1 <<< 64 then
      some
        { seconds := a.seconds + b.seconds + 1
          nanos := a.nanos + b.nanos - 1000000000
          seconds_lt := h'
          nanos_lt := by have := a.nanos_lt; have := b.nanos_lt; omega }
    else none
  else none

/-- The shorter of two durations. -/
def min (a b : Duration) : Duration :=
  if a.toNanos ≤ b.toNanos then a else b

theorem toNanos_min (a b : Duration) : (a.min b).toNanos = Min.min a.toNanos b.toNanos := by
  unfold min
  split
  · rename_i h
    exact (Nat.min_eq_left h).symm
  · rename_i h
    exact (Nat.min_eq_right (Nat.le_of_not_le h)).symm

/-- The longer of two durations. -/
def max (a b : Duration) : Duration :=
  if a.toNanos ≤ b.toNanos then b else a

/-- The whole milliseconds of a duration. -/
def toMillis (d : Duration) : Nat :=
  d.toNanos / 1000000

end Duration

/-! ### Instants -/

/-- A point of time. -/
structure Instant where
  seconds : Int
  nanos : Nat
  seconds_ge : -(1 <<< 63) ≤ seconds := by omega
  seconds_lt : seconds < 1 <<< 63 := by omega
  nanos_lt : nanos < 1000000000 := by omega
  deriving DecidableEq, Repr

namespace Instant

instance : Inhabited Instant := ⟨{ seconds := 0, nanos := 0 }⟩

/-- The point of time so many seconds after the origin. -/
def ofSeconds (s : UInt32) : Instant :=
  { seconds := s.toNat, nanos := 0, seconds_lt := by have := s.toNat_lt; omega }

/-- The nanoseconds from the origin to a point of time. -/
def toNanos (t : Instant) : Int :=
  t.seconds * 1000000000 + t.nanos

/-- The point of time a duration later, `none` where its seconds do not fit. -/
def add? (t : Instant) (d : Duration) : Option Instant :=
  if h : t.seconds + d.seconds < 1 <<< 63 then
    if h' : t.nanos + d.nanos < 1000000000 then
      some { seconds := t.seconds + d.seconds, nanos := t.nanos + d.nanos
             seconds_ge := by have := t.seconds_ge; omega
             seconds_lt := h, nanos_lt := h' }
    else if h' : t.seconds + d.seconds + 1 < 1 <<< 63 then
      some
        { seconds := t.seconds + d.seconds + 1
          nanos := t.nanos + d.nanos - 1000000000
          seconds_ge := by have := t.seconds_ge; omega
          seconds_lt := h'
          nanos_lt := by have := t.nanos_lt; have := d.nanos_lt; omega }
    else none
  else none

/-- The time from `earlier` to `later`, nothing if they are the other way round. -/
def since (later earlier : Instant) : Duration :=
  if later.toNanos ≤ earlier.toNanos then default
  else
    let n := (later.toNanos - earlier.toNanos).toNat
    { seconds := n / 1000000000
      nanos := n % 1000000000
      seconds_lt := by
        have h1 := later.seconds_lt
        have h2 := later.nanos_lt
        have h3 := earlier.seconds_ge
        simp only [toNanos, n] at *
        omega
      nanos_lt := Nat.mod_lt _ (by decide) }

/-- `Instant.since` is exact for the time up to a later point. -/
theorem toNanos_since {later earlier : Instant} (h : earlier.toNanos < later.toNanos) :
    ((later.since earlier).toNanos : Int) = later.toNanos - earlier.toNanos := by
  have not_le : ¬ later.toNanos ≤ earlier.toNanos := by omega
  simp only [since, not_le, if_false, Duration.toNanos]
  omega

end Instant

end FlowDump
