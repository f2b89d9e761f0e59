/-!
# Shortest decimals of binary fractions

A double-precision number is `m · 2 ^ q`.  Among the decimals that round to it there is a least
number of digits, and among those with that many digits one that is nearest to it.

* `Binary` — sign, significand and exponent of a finite double-precision number.
* `Binary.ofBits` — the number behind an encoding.
* `Binary.shortest` — digits `c` and exponent `p` with `c · 10 ^ p` the shortest decimal that reads
  back, the nearest of those, and the even one of two equally near.
* `Decimal.Style` — how such a decimal is laid out: which exponents are written out positionally
  and what the exponent mark looks like.
-/

namespace FlowDump.Decimal

/-! ### Double-precision numbers -/

/-- A finite number `(-1) ^ negative · significand · 2 ^ exponent`; `narrowBelow` tells that the
    next smaller number is only half as far away as the next larger one. -/
structure Binary where
  negative : Bool
  significand : Nat
  exponent : Int
  narrowBelow : Bool
  deriving DecidableEq, Repr

/-- The number behind the 64 bits of a finite double. -/
def Binary.ofBits (bits : UInt64) : Binary :=
  let fraction := (bits &&& 0xFFFFFFFFFFFFF).toNat
  let field := ((bits >>> 52) &&& 0x7FF).toNat
  { negative := bits >>> 63 = 1
    significand := if field = 0 then fraction else fraction + 1 <<< 52
    exponent := if field = 0 then -1074 else (field : Int) - 1075
    narrowBelow := fraction = 0 && 1 < field }

/-! ### Comparing fractions with decimals -/

/-- A nonnegative fraction. -/
structure Ratio where
  num : Nat
  den : Nat
  deriving Repr

/-- `x · 2 ^ e`. -/
def Ratio.ofBinary (x : Nat) (e : Int) : Ratio :=
  if 0 ≤ e then ⟨x <<< e.toNat, 1⟩ else ⟨x, 1 <<< (-e).toNat⟩

/-- `c · 10 ^ p`. -/
def Ratio.ofDecimal (c : Nat) (p : Int) : Ratio :=
  if 0 ≤ p then ⟨c * Nat.pow 10 p.toNat, 1⟩ else ⟨c, Nat.pow 10 (-p).toNat⟩

/-- Whether `r < s`. -/
def Ratio.lt (r s : Ratio) : Bool := r.num * s.den < s.num * r.den

/-- The number of decimal digits of `n`, none for zero. -/
def digitCount (n : Nat) : Nat :=
  if n = 0 then 0 else (Nat.toDigits 10 n).length

/-- The power of ten of the leading digit of a positive fraction. -/
def Ratio.magnitude (r : Ratio) : Int :=
  if r.den ≤ r.num then (digitCount (r.num / r.den) : Int) - 1
  else -(digitCount ((r.den + r.num - 1) / r.num - 1) : Int)

/-- `⌊r / 10 ^ p⌋`. -/
def Ratio.scaledFloor (r : Ratio) (p : Int) : Nat :=
  if 0 ≤ p then r.num / (r.den * Nat.pow 10 p.toNat) else r.num * Nat.pow 10 (-p).toNat / r.den

/-- The distance of `r` from a decimal, as a numerator over a denominator that depends on `r` and
    `p` only. -/
def Ratio.distance (r : Ratio) (c : Nat) (p : Int) : Nat :=
  let d := Ratio.ofDecimal c p
  ((r.num * d.den : Int) - (d.num * r.den : Int)).natAbs

/-! ### The search -/

/-- The decimals that round to a number: strictly between the halfway points to its neighbours, the
    halfway points included when the significand is even. -/
structure Interval where
  low : Ratio
  high : Ratio
  closed : Bool

/-- The interval of decimals that round to `b`. -/
def Binary.interval (b : Binary) : Interval :=
  { low := Ratio.ofBinary (4 * b.significand - if b.narrowBelow then 1 else 2) (b.exponent - 2)
    high := Ratio.ofBinary (4 * b.significand + 2) (b.exponent - 2)
    closed := b.significand % 2 = 0 }

/-- Whether `c · 10 ^ p` lies in the interval. -/
def Interval.holds (i : Interval) (c : Nat) (p : Int) : Bool :=
  let d := Ratio.ofDecimal c p
  if i.closed then !d.lt i.low && !i.high.lt d else i.low.lt d && d.lt i.high

/-- The better of the two grid points around `r`: one that lies in the interval, the nearer one
    if both do, the even one if they are equally near. -/
def choose (i : Interval) (r : Ratio) (p : Int) : Option Nat :=
  let floor := r.scaledFloor p
  let below := i.holds floor p
  let above := i.holds (floor + 1) p
  if below && above then
    -- both read back, so the distance decides
    let left := r.distance floor p
    let right := r.distance (floor + 1) p
    if left < right then some floor
    else if right < left then some (floor + 1)
    else some (if floor % 2 = 0 then floor else floor + 1)
  else if below then some floor
  else if above then some (floor + 1)
  else none

/-- Try grids of more and more digits, `remaining` of them, the next one in steps of `10 ^ p`. -/
def search (i : Interval) (r : Ratio) : (remaining : Nat) → (p : Int) → Nat × Int
  | 0, p => (r.scaledFloor p, p)
  | remaining + 1, p =>
    match choose i r p with
    | some c => (c, p)
    | none => search i r remaining (p - 1)

/-- Drop the zeros at the end of `c`, at most `fuel` of them. -/
def normalize : (fuel : Nat) → Nat → Int → Nat × Int
  | 0, c, p => (c, p)
  | fuel + 1, c, p => if c ≠ 0 ∧ c % 10 = 0 then normalize fuel (c / 10) (p + 1) else (c, p)

/-- The shortest decimal `c · 10 ^ p` that rounds to a nonzero number; seventeen digits always
    suffice. -/
def Binary.shortest (b : Binary) : Nat × Int :=
  let r := Ratio.ofBinary b.significand b.exponent
  let (c, p) := search b.interval r 17 r.magnitude
  normalize 20 c p

/-! ### Layout -/

/-- How a decimal is laid out. -/
structure Style where
  /-- The least exponent of a leading digit that is written positionally. -/
  leastPositional : Int
  /-- The first exponent above those written positionally. -/
  firstScientific : Int
  /-- The mark before an exponent that is not negative. -/
  markUp : List Char
  /-- The mark before the size of a negative exponent. -/
  markDown : List Char

/-- The digits of `c · 10 ^ p` with a point in them. -/
def positional (digits : List Char) (lead : Int) : List Char :=
  if lead < 0 then
    '0' :: '.' :: List.replicate (-lead - 1).toNat '0' ++ digits
  else if digits.length ≤ lead.toNat + 1 then
    digits ++ List.replicate (lead.toNat + 1 - digits.length) '0' ++ ['.', '0']
  else
    digits.take (lead.toNat + 1) ++ '.' :: digits.drop (lead.toNat + 1)

/-- The digits of `c · 10 ^ p` with the point after the first one and an exponent mark. -/
def scientific (style : Style) (digits : List Char) (lead : Int) : List Char :=
  let head := match digits with
    | [] => []
    | [d] => [d]
    | d :: rest => d :: '.' :: rest
  head ++ (if lead < 0 then style.markDown else style.markUp) ++ Nat.toDigits 10 lead.natAbs

/-- The text of a finite double. -/
def render (style : Style) (b : Binary) : List Char :=
  let sign := if b.negative then ['-'] else []
  if b.significand = 0 then sign ++ ['0', '.', '0']
  else
    let (c, p) := b.shortest
    let digits := Nat.toDigits 10 c
    let lead := p + digits.length - 1
    sign ++ if style.leastPositional ≤ lead ∧ lead < style.firstScientific
      then positional digits lead
      else scientific style digits lead

end FlowDump.Decimal
