import FlowDump.Gzip.Checksum
import FlowDump.Gzip.Inflate

/-!
# Gzip archives

An archive is one member or more: a header, deflated data, and the check value and the length of
what the data stands for.

* `Gzip.header?` — the rest of a member after its header.
* `Gzip.member?` — the payload of the first member and what follows it.
* `Gzip.decompress?` — the payloads of all members joined; `none` unless the whole archive is a
  sequence of complete members.
-/

namespace FlowDump.Gzip

/-! ### The header -/

/-- A number of two bytes, the lower one first. -/
def word16 (a b : UInt8) : Nat := a.toNat + 256 * b.toNat

/-- A number of four bytes, the lowest one first. -/
def word32 (a b c d : UInt8) : Nat := word16 a b + 65536 * word16 c d

/-- The most bytes that a name or a comment may have. -/
def maxText : Nat := 65535

/-- What follows a text that ends in a zero byte. -/
def skipText (bytes : List UInt8) : Option (List UInt8) :=
  let text := bytes.takeWhile (· ≠ 0)
  if maxText < text.length then none
  else match bytes.drop text.length with
    | [] => none
    | _ :: rest => some rest

/-- What follows a field that starts with its length. -/
def skipExtra : List UInt8 → Option (List UInt8)
  | a :: b :: rest => if rest.length < word16 a b then none else some (rest.drop (word16 a b))
  | _ => none

/-- The bits of the flag byte. -/
structure Flags where
  checksum : Bool
  extra : Bool
  name : Bool
  comment : Bool
  reserved : Bool
  deriving DecidableEq, Repr

/-- The flags in a byte. -/
def Flags.ofByte (b : UInt8) : Flags :=
  { checksum := b.toNat.testBit 1
    extra := b.toNat.testBit 2
    name := b.toNat.testBit 3
    comment := b.toNat.testBit 4
    reserved := 0x20 ≤ b }

/-- Skip a field that is there only under one of the `Flags`. -/
def skipIf (present : Bool) (skip : List UInt8 → Option (List UInt8)) (bytes : List UInt8) :
    Option (List UInt8) :=
  if present then skip bytes else some bytes

/-- What follows the check value of a header, which has to match the header before it. -/
def skipHeaderCheck (header : List UInt8) : List UInt8 → Option (List UInt8)
  | a :: b :: rest => if word16 a b = (crc32 header).toNat % 65536 then some rest else none
  | _ => none

/-- The rest of a member after its header: the fields of its `Flags` are skipped in this order. -/
def header? (bytes : List UInt8) : Option (List UInt8) :=
  match bytes with
  | 0x1F :: 0x8B :: 8 :: flags :: _ :: _ :: _ :: _ :: _ :: _ :: rest => do
    let flags := Flags.ofByte flags
    if flags.reserved then none
    else
      -- the fields stand in this order, whatever the order of their flags
      let rest ← skipIf flags.extra skipExtra rest
      let rest ← skipIf flags.name skipText rest
      let rest ← skipIf flags.comment skipText rest
      skipIf flags.checksum (skipHeaderCheck (bytes.take (bytes.length - rest.length))) rest
  | _ => none

/-! ### Members -/

/-- What follows the check value and the length at the end of a member, which have to match its
    payload. -/
def trailer? (payload : List UInt8) : List UInt8 → Option (List UInt8)
  | a :: b :: c :: d :: e :: f :: g :: h :: rest =>
    if word32 a b c d = (crc32 payload).toNat ∧ word32 e f g h = payload.length % (1 <<< 32) then
      some rest
    else none
  | _ => none

/-- The payload of the first member and what follows it: `header?`, `Inflate.run` and `trailer?`. -/
def member? (bytes : List UInt8) : Option (List UInt8 × List UInt8) := do
  let body ← header? bytes
  let (payload, bits) ← Inflate.run ⟨[], body⟩
  let rest ← trailer? payload bits.bytes
  return (payload, rest)

/-- The payloads of all members, at most `fuel` of them. -/
def members? : (fuel : Nat) → List UInt8 → Option (List (List UInt8))
  | 0, _ => none
  | fuel + 1, bytes =>
    match member? bytes with
    | none => none
    | some (payload, rest) =>
      if rest = [] then some [payload] else (members? fuel rest).map (payload :: ·)

/-- The joined payloads of an archive, by `members?`; there are no more members than bytes. -/
def decompress? (bytes : List UInt8) : Option (List UInt8) :=
  (members? bytes.length bytes).map List.flatten

end FlowDump.Gzip
