/-!
# Buffered readers

A source delivers its bytes in chunks of its own.  A reader asks it for at most so many bytes at a
time and keeps what it has not handed on.

* `Delivery` — what a source hands over: bytes, a call that has to be repeated, or a failure.
* `Reader` — a source behind a buffer.
* `Reader.fill` — what is at hand, after the source was asked if that was nothing.
* `Reader.readUntil` — the bytes up to a mark and the mark itself, or up to the end of the stream.
-/

namespace FlowDump.Flow

/-- One answer of a source.  Empty bytes tell nothing; the end of the stream is the end of all
    answers. -/
inductive Delivery where
  | bytes (chunk : List UInt8)
  /-- Nothing was read; the source is to be asked again. -/
  | interrupted
  | failed (message : String)
  deriving DecidableEq, Repr, Inhabited

/-- How many bytes come with a delivery. -/
def Delivery.size : Delivery → Nat
  | bytes chunk => chunk.length
  | _ => 0

/-- How many bytes come with deliveries. -/
def Delivery.total : List Delivery → Nat
  | [] => 0
  | d :: rest => d.size + total rest

/-- How many bytes a source is asked for at a time, unless something else is said. -/
def usualCapacity : Nat := 8192

theorem usualCapacity_pos : 0 < usualCapacity := by decide

/-- A source of `Delivery` after `Delivery`, behind a buffer. -/
structure Reader where
  /-- How many bytes the source is asked for at a time. -/
  capacity : Nat := usualCapacity
  /-- What was delivered and not handed on. -/
  buffer : List UInt8 := []
  /-- What the source has still to deliver. -/
  source : List Delivery
  capacity_pos : 0 < capacity := by first | exact usualCapacity_pos | decide
  deriving Repr

namespace Reader

/-- What a source gives when it is asked for at most `capacity` bytes, and what it has left.  It is
    asked again until it gives something; nothing at all is the end of the stream. -/
def ask (capacity : Nat) : List Delivery → Except String (List UInt8 × List Delivery)
  | [] => .ok ([], [])
  | .bytes [] :: rest => ask capacity rest
  | .bytes (b :: chunk) :: rest =>
    .ok ((b :: chunk).take capacity, .bytes ((b :: chunk).drop capacity) :: rest)
  | .interrupted :: rest => ask capacity rest
  | .failed message :: _ => .error message

/-- The reader with something in its buffer, by `ask`, unless the stream has ended. -/
def fill (r : Reader) : Except String Reader :=
  if r.buffer = [] then
    (ask r.capacity r.source).map fun (buffer, source) => { r with buffer, source }
  else .ok r

/-- How many bytes a reader has before it at most. -/
def size (r : Reader) : Nat :=
  r.buffer.length + Delivery.total r.source

/-- `ask` loses no bytes: those that it gives were with the source. -/
theorem size_ask (capacity : Nat) (source : List Delivery) {buffer : List UInt8}
    {left : List Delivery} (h : ask capacity source = .ok (buffer, left)) :
    buffer.length + Delivery.total left = Delivery.total source := by
  induction source with
  | nil =>
    cases h
    rfl
  | cons d rest ih =>
    cases d with
    | interrupted => simpa [Delivery.total, Delivery.size] using ih h
    | failed message => cases h
    | bytes chunk =>
      cases chunk with
      | nil => simpa [Delivery.total, Delivery.size] using ih h
      | cons b chunk =>
        cases h
        simp only [Delivery.total, Delivery.size, List.length_take, List.length_drop]
        omega

/-- `Reader.fill` moves bytes into the buffer and loses none. -/
theorem size_fill {r r' : Reader} (h : r.fill = .ok r') : r'.size = r.size := by
  unfold fill at h
  split at h
  · rename_i hb
    cases ha : ask r.capacity r.source with
    | error message => simp [ha, Except.map] at h
    | ok answer =>
      obtain ⟨buffer, source⟩ := answer
      simp only [ha, Except.map, Except.ok.injEq] at h
      subst h
      simp [size, hb, size_ask _ _ ha]
  · cases h
    rfl

/-- Hand on the bytes up to a mark, and the mark itself; without a mark, the bytes up to the end of
    the stream.  The buffer is filled by `fill` as often as it takes. -/
def readUntil (mark : UInt8) (r : Reader) : Except String (List UInt8 × Reader) :=
  match _hf : r.fill with
  | .error message => .error message
  | .ok filled =>
    match filled.buffer.dropWhile (· ≠ mark) with
    | m :: rest =>
      .ok (filled.buffer.takeWhile (· ≠ mark) ++ [m], { filled with buffer := rest })
    | [] =>
      if _hb : filled.buffer = [] then .ok ([], filled)
      else
        (readUntil mark { filled with buffer := [] }).map fun (more, r) =>
          (filled.buffer ++ more, r)
  termination_by r.size
  decreasing_by
    rw [← size_fill _hf]
    have := List.length_pos_iff.mpr _hb
    simp only [size, List.length_nil]
    omega

/-- What `readUntil` hands on is gone from the reader. -/
theorem size_readUntil {mark : UInt8} {r r' : Reader} {line : List UInt8}
    (h : r.readUntil mark = .ok (line, r')) : line.length + r'.size = r.size := by
  fun_induction readUntil mark r generalizing line r' with
  | case1 => cases h
  | case2 r filled hf m rest hd =>
    cases h
    have cut := congrArg List.length
      (List.takeWhile_append_dropWhile (p := fun b => decide (b ≠ mark)) (l := filled.buffer))
    rw [hd] at cut
    rw [← size_fill hf]
    simp only [List.length_append, List.length_cons, List.length_nil, size] at cut ⊢
    omega
  | case3 r filled hf hd hb =>
    cases h
    rw [← size_fill hf]
    simp
  | case4 r filled hf hd hb ih =>
    cases hm : readUntil mark { filled with buffer := [] } with
    | error message => simp [hm, Except.map] at h
    | ok answer =>
      obtain ⟨more, r''⟩ := answer
      simp only [hm, Except.map, Except.ok.injEq, Prod.mk.injEq] at h
      obtain ⟨rfl, rfl⟩ := h
      have := ih hm
      rw [← size_fill hf]
      simp only [size, List.length_nil, List.length_append] at this ⊢
      omega

end Reader

end FlowDump.Flow
