import FlowDump.Gzip.Bits

/-!
# Prefix codes from code lengths

Compressed data gives a code by the lengths of its words alone: words of one length count up in the
order of their symbols, and shorter words come before longer ones.

* `Codebook` — a code: how many words there are of each length, and the symbols in the order of
  their words.
* `Codebook.ofLengths?` — the code with given word lengths, unless they fit no code.
* `Codebook.read` — the symbol whose word comes next.
-/

namespace FlowDump.Gzip

/-- The longest word of a code. -/
def maxWord : Nat := 15

/-- A code: the number of words of length 1, 2, … and the symbols ordered by length, then value. -/
structure Codebook where
  counts : List Nat
  symbols : Array Nat
  deriving Repr, Inhabited

namespace Codebook

/-- The symbols with words of one length. -/
def symbolsOfLength (lengths : List Nat) (n : Nat) : List Nat :=
  (lengths.zipIdx.filter fun p => p.1 = n).map (·.2)

/-- The code with the given word lengths; a length of zero stands for no word. -/
def ofLengths (lengths : List Nat) : Codebook :=
  let levels := (List.range maxWord).map fun n => symbolsOfLength lengths (n + 1)
  { counts := levels.map List.length, symbols := (levels.flatten).toArray }

/-- The share of all words of the greatest length that the words of a code begin. -/
def share (lengths : List Nat) : Nat :=
  (lengths.filter (· ≠ 0)).foldl (fun total n => total + 1 <<< (maxWord - n)) 0

/-- Whether every long enough bit string begins with exactly one word, by the `share` of the words.
    -/
def isComplete (lengths : List Nat) : Bool := share lengths = 1 <<< maxWord

/-- Whether a code has no words, or one of a single bit only. -/
def isSparse (lengths : List Nat) : Bool :=
  lengths.filter (· ≠ 0) ∈ [[], [1]]

/-- The code with the given word lengths, if it is complete.  Where `sparse` allows it, a code of
    one word or none may leave bit strings over. -/
def ofLengths? (lengths : List Nat) (sparse : Bool) : Option Codebook :=
  if isComplete lengths || (sparse && isSparse lengths) then some (ofLengths lengths) else none

/-- Follow the bits down one length after another.  `code` is the word so far, `first` the first
    word of this length and `index` the position of its symbol. -/
def walk (symbols : Array Nat) : (counts : List Nat) → (code first index : Nat) → Bits.Reader Nat
  | [], _, _, _ => fun _ => none
  | count :: rest, code, first, index => do
    let b ← Bits.bit
    let code := code + b.toNat
    -- the words of this length count up from `first`; what lies above them begins a longer word
    if code < first + count then
      match symbols[index + (code - first)]? with
      | some s => return s
      | none => fun _ => none
    else walk symbols rest (code * 2) ((first + count) * 2) (index + count)

/-- The symbol whose word comes next, found by `walk`. -/
def read (c : Codebook) : Bits.Reader Nat :=
  walk c.symbols c.counts 0 0 0

end Codebook

end FlowDump.Gzip
