/-!
# Bits of a byte string

Compressed data is read bit by bit, the lowest bit of each byte first.

* `Bits` — the bits not yet read.
* `Bits.Reader` — a step of reading: a value and the bits after it, or nothing where the data ends
  too early or makes no sense.
* `Bits.bit`, `Bits.number`, `Bits.align`, `Bits.take` — the elementary steps.
-/

namespace FlowDump.Gzip

/-- What is left to read: the bits left of a byte that was begun, then whole bytes. -/
structure Bits where
  pending : List Bool
  bytes : List UInt8
  deriving DecidableEq, Repr, Inhabited

namespace Bits

/-- A step of reading, which takes `Bits` off or fails. -/
abbrev Reader (α : Type) := StateT Bits Option α

/-- The bits of a byte, lowest first. -/
def ofByte (b : UInt8) : List Bool :=
  [b.toNat.testBit 0, b.toNat.testBit 1, b.toNat.testBit 2, b.toNat.testBit 3,
    b.toNat.testBit 4, b.toNat.testBit 5, b.toNat.testBit 6, b.toNat.testBit 7]

/-- One bit. -/
def bit : Reader Bool := fun s =>
  match s.pending with
  | b :: rest => some (b, { s with pending := rest })
  | [] =>
    match s.bytes with
    | [] => none
    | x :: rest => some (x.toNat.testBit 0, ⟨(ofByte x).drop 1, rest⟩)

/-- A number of `width` bits, lowest first. -/
def number : (width : Nat) → Reader Nat
  | 0 => pure 0
  | width + 1 => do
    let b ← bit
    let n ← number width
    return b.toNat + 2 * n

/-- Skip to the next byte. -/
def align : Reader Unit := fun s =>
  some ((), { s with pending := [] })

/-- The next `n` bytes; the reader has to stand between two bytes. -/
def take (n : Nat) : Reader (List UInt8) := fun s =>
  if s.bytes.length < n then none
  else some (s.bytes.take n, { s with bytes := s.bytes.drop n })

/-- How many bits are left. -/
def size (s : Bits) : Nat := s.pending.length + 8 * s.bytes.length

end Bits

end FlowDump.Gzip
