import FlowDump.Gzip.Codebook

/-!
# Deflated data

A sequence of blocks, the last one marked: stored bytes, or symbols of a code that is either fixed
or given at the start of the block.  A symbol is a byte, the end of the block, or the length of a
copy from what came before.

* `Inflate.run` — the bytes that a deflated stream stands for.
* `Inflate.block` — one block.
* `Inflate.copy` — repeat earlier output.  What lies before the first byte reads as zero: the
  window that copies come from starts out as zeros.
-/

namespace FlowDump.Gzip.Inflate

/-- The step that never succeeds. -/
def refuse {α : Type} : Bits.Reader α := fun _ => none

/-! ### Copies -/

/-- The shortest copy for each length symbol, from symbol 257 on, and its extra bits. -/
def lengthTable : Array (Nat × Nat) := #[
  (3, 0), (4, 0), (5, 0), (6, 0), (7, 0), (8, 0), (9, 0), (10, 0),
  (11, 1), (13, 1), (15, 1), (17, 1), (19, 2), (23, 2), (27, 2), (31, 2),
  (35, 3), (43, 3), (51, 3), (59, 3), (67, 4), (83, 4), (99, 4), (115, 4),
  (131, 5), (163, 5), (195, 5), (227, 5), (258, 0)]

/-- The nearest source for each distance symbol and its extra bits. -/
def distanceTable : Array (Nat × Nat) := #[
  (1, 0), (2, 0), (3, 0), (4, 0), (5, 1), (7, 1), (9, 2), (13, 2),
  (17, 3), (25, 3), (33, 4), (49, 4), (65, 5), (97, 5), (129, 6), (193, 6),
  (257, 7), (385, 7), (513, 8), (769, 8), (1025, 9), (1537, 9), (2049, 10), (3073, 10),
  (4097, 11), (6145, 11), (8193, 12), (12289, 12), (16385, 13), (24577, 13)]

/-- The number that a symbol and the extra bits after it stand for, by `lengthTable` or
    `distanceTable`. -/
def readExtra (table : Array (Nat × Nat)) (symbol : Nat) : Bits.Reader Nat :=
  match table[symbol]? with
  | none => refuse
  | some (least, extra) => do
    let n ← Bits.number extra
    return least + n

/-- Append `length` bytes, each one `distance` back from where it goes. -/
def copy (distance : Nat) : (length : Nat) → Array UInt8 → Array UInt8
  | 0, out => out
  | length + 1, out =>
    let byte := if distance ≤ out.size then out.getD (out.size - distance) 0 else 0
    copy distance length (out.push byte)

/-! ### Blocks -/

/-- The symbols of a block up to its end, at most `fuel` of them. -/
def symbols (literals distances : Codebook) : (fuel : Nat) → Array UInt8 → Bits.Reader (Array UInt8)
  | 0, _ => refuse
  | fuel + 1, out => do
    let s ← literals.read
    if s < 256 then symbols literals distances fuel (out.push s.toUInt8)
    else if s = 256 then return out
    else
      -- every other symbol is a length, and a distance follows it
      let length ← readExtra lengthTable (s - 257)
      let d ← distances.read
      let distance ← readExtra distanceTable d
      symbols literals distances fuel (copy distance length out)

/-- A block of stored bytes: their number, its complement, and the bytes. -/
def stored (out : Array UInt8) : Bits.Reader (Array UInt8) := do
  Bits.align
  let size ← Bits.number 16
  let check ← Bits.number 16
  if size + check ≠ 0xFFFF then refuse
  else
    let bytes ← Bits.take size
    return out ++ bytes

/-- The word lengths of the fixed code for bytes and lengths. -/
def fixedLiteralLengths : List Nat :=
  List.replicate 144 8 ++ List.replicate 112 9 ++ List.replicate 24 7 ++ List.replicate 8 8

/-- The word lengths of the fixed code for distances. -/
def fixedDistanceLengths : List Nat := List.replicate 32 5

/-- The order in which the word lengths of the code for word lengths are given. -/
def lengthOrder : List Nat :=
  [16, 17, 18, 0, 8, 7, 9, 6, 10, 5, 11, 4, 12, 3, 13, 2, 14, 1, 15]

/-- `n` numbers of `width` bits. -/
def numbers (width : Nat) : (n : Nat) → Bits.Reader (List Nat)
  | 0 => return []
  | n + 1 => do
    let x ← Bits.number width
    let rest ← numbers width n
    return x :: rest

/-- Put word lengths that were given in `lengthOrder` into the order of their symbols. -/
def arrange (given : List Nat) : List Nat :=
  (List.range 19).map fun s =>
    ((lengthOrder.zip given).find? (fun p => p.1 = s)).elim 0 (·.2)

/-- Word lengths, written with a code that also has symbols for repetitions, until there are
    `total` of them.  `known` holds the lengths so far, the last one first. -/
def wordLengths (code : Codebook) (total : Nat) :
    (fuel : Nat) → (known : List Nat) → Bits.Reader (List Nat)
  | 0, _ => refuse
  | fuel + 1, known =>
    if known.length = total then return known.reverse
    else if total < known.length then refuse
    else do
      let s ← code.read
      if s < 16 then wordLengths code total fuel (s :: known)
      else if s = 16 then
        match known with
        | [] => refuse
        | last :: _ =>
          let n ← Bits.number 2
          wordLengths code total fuel (List.replicate (n + 3) last ++ known)
      else if s = 17 then
        let n ← Bits.number 3
        wordLengths code total fuel (List.replicate (n + 3) 0 ++ known)
      else
        let n ← Bits.number 7
        wordLengths code total fuel (List.replicate (n + 11) 0 ++ known)

/-- The two codes that stand at the start of a block. -/
def codes : Bits.Reader (Codebook × Codebook) := do
  let literals ← Bits.number 5
  let distances ← Bits.number 5
  let given ← Bits.number 4
  let literals := literals + 257
  let distances := distances + 1
  -- no more symbols than these ever have a meaning
  if 286 < literals ∨ 30 < distances then refuse
  else
    let orderLengths ← numbers 3 (given + 4)
    match Codebook.ofLengths? (arrange orderLengths) false with
    | none => refuse
    | some code =>
      -- both codes are given in one run, so that a repetition may reach from one into the other
      let lengths ← wordLengths code (literals + distances) (literals + distances + 1) []
      match Codebook.ofLengths? (lengths.take literals) true,
          Codebook.ofLengths? (lengths.drop literals) true with
      | some l, some d => return (l, d)
      | _, _ => refuse

/-- The body of a block by its type; `fuel` bounds its symbols. -/
def body (fuel : Nat) (type : Nat) (out : Array UInt8) : Bits.Reader (Array UInt8) :=
  match type with
  | 0 => stored out
  | 1 =>
    symbols (.ofLengths fixedLiteralLengths) (.ofLengths fixedDistanceLengths) fuel out
  | 2 => do
    let (literals, distances) ← codes
    symbols literals distances fuel out
  | _ => refuse

/-- Blocks up to the one that is marked as last, at most `rounds` of them. -/
def blocks (fuel : Nat) : (rounds : Nat) → Array UInt8 → Bits.Reader (Array UInt8)
  | 0, _ => refuse
  | rounds + 1, out => do
    let last ← Bits.bit
    let type ← Bits.number 2
    let out ← body fuel type out
    if last then return out else blocks fuel rounds out

/-- The bytes that a deflated stream stands for, by `blocks`.  Each block and each symbol takes a
    bit at least, so there are no more of them than bits. -/
def run : Bits.Reader (List UInt8) := fun s =>
  (blocks s.size s.size #[] s).map fun (out, s) => (out.toList, s)

end FlowDump.Gzip.Inflate
