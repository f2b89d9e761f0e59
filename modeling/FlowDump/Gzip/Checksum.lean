/-!
# Checksums

* `Gzip.crc32` — the cyclic redundancy check over the reversed polynomial `0xEDB88320`.
-/

namespace FlowDump.Gzip

/-- Shift one bit out of the remainder, `n` times. -/
def shiftOut : (n : Nat) → UInt32 → UInt32
  | 0, c => c
  | n + 1, c => shiftOut n (if c &&& 1 = 1 then (c >>> 1) ^^^ 0xEDB88320 else c >>> 1)

/-- The remainder after one more byte. -/
def crcStep (c : UInt32) (b : UInt8) : UInt32 :=
  shiftOut 8 (c ^^^ b.toUInt32)

/-- The check value of a byte string, one `crcStep` after the other. -/
def crc32 (bytes : List UInt8) : UInt32 :=
  bytes.foldl crcStep 0xFFFFFFFF ^^^ 0xFFFFFFFF

end FlowDump.Gzip
