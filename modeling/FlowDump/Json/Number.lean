import FlowDump.Decimal.Shortest
import FlowDump.Decimal.Signed
import FlowDump.Json.Basic

/-!
# Numbers of a JSON document

Reading a numeral and writing a number.

* `Numeral` — the parts of a number as written, and `Numeral.read`, the grammar.
* `Numeral.value?` — the number it stands for.  An integer that fits 64 bits is kept exactly.  Any
  other number is gathered digit by digit into an unsigned 64-bit significand and scaled once by a
  power of ten, so the result may differ from the nearest double in its last place.
* `Number.render` — an integer in decimal, a double with the fewest digits that read back.
-/

namespace FlowDump.Json

/-! ### The grammar of numerals -/

/-- A number as written: its sign, its integer digits, its fraction digits and its exponent. -/
structure Numeral where
  negative : Bool
  whole : List Char
  fraction : Option (List Char)
  /-- Whether the exponent is negative, and its digits. -/
  exponent : Option (Bool × List Char)
  deriving Repr

namespace Numeral

/-- The digits at the front of a text, and what follows them. -/
def digits (s : List Char) : List Char × List Char :=
  (s.takeWhile Char.isDigit, s.dropWhile Char.isDigit)

/-- One digit at least. -/
def digits1? (s : List Char) : Option (List Char × List Char) :=
  match digits s with
  | ([], _) => none
  | (d :: ds, rest) => some (d :: ds, rest)

/-- The integer part: a zero alone, or digits that do not start with one. -/
def readWhole? : List Char → Option (List Char × List Char)
  | '0' :: rest => some (['0'], rest)
  | s => digits1? s

/-- A fraction, if a point follows. -/
def readFraction? : List Char → Option (Option (List Char) × List Char)
  | '.' :: rest => (digits1? rest).map fun (ds, rest) => (some ds, rest)
  | s => some (none, s)

/-- The sign of an exponent: whether it is negative. -/
def readSign : List Char → Bool × List Char
  | '+' :: rest => (false, rest)
  | '-' :: rest => (true, rest)
  | s => (false, s)

/-- An exponent, if its mark follows. -/
def readExponent? : List Char → Option (Option (Bool × List Char) × List Char)
  | c :: rest =>
    if c = 'e' ∨ c = 'E' then
      (digits1? (readSign rest).2).map fun (ds, left) => (some ((readSign rest).1, ds), left)
    else some (none, c :: rest)
  | [] => some (none, [])

/-- The numeral at the front of a text, part after part, and what follows it. -/
def read? (s : List Char) : Option (Numeral × List Char) := do
  let (negative, s) := match s with
    | '-' :: rest => (true, rest)
    | s => (false, s)
  let (whole, s) ← readWhole? s
  let (fraction, s) ← readFraction? s
  let (exponent, s) ← readExponent? s
  return ({ negative, whole, fraction, exponent }, s)

/-! ### The value of a numeral -/

/-- The largest unsigned number of 64 bits. -/
def maxNatural : Nat := (1 <<< 64) - 1

/-- The largest exponent that is counted with. -/
def maxExponent : Nat := (1 <<< 31) - 1

/-- Append digits to a significand up to the first one that no longer fits 64 bits.  Gives the
    significand and how many digits went into it. -/
def gather (significand : Nat) : List Char → Nat × Nat
  | [] => (significand, 0)
  | d :: rest =>
    let next := significand * 10 + (d.toNat - '0'.toNat)
    if next ≤ maxNatural then
      let (s, n) := gather next rest
      (s, n + 1)
    else (significand, 0)

/-- The power of ten with this exponent, for exponents up to 308. -/
def powerOfTen (n : Nat) : Float := Float.ofScientific 1 false n

/-- Scale a double by a power of ten; `none` where the result is too large.  The exponent is taken
    308 at a time while it is below -308, at most `fuel` times. -/
def scale? : (fuel : Nat) → Float → Int → Option Float
  | fuel, f, e =>
    if e.natAbs ≤ 308 then
      if 0 ≤ e then
        let g := f * powerOfTen e.natAbs
        if g.isInf then none else some g
      else some (f / powerOfTen e.natAbs)
    else if f == 0 then some f
    else if 0 ≤ e then none
    else match fuel with
      | 0 => some f
      | fuel + 1 => scale? fuel (f / powerOfTen 308) (e + 308)

/-- A double with a sign, by its encoding. -/
def signed (negative : Bool) (f : Float) : Number :=
  .double (if negative then -f else f).toBits

/-- The exponent that results from a shift and a written exponent, kept within 32 bits. -/
def clampExponent (e : Int) : Int := max (-(1 <<< 31)) (min maxExponent e)

/-- The double a significand and a shift stand for, with the written exponent. -/
def double? (negative : Bool) (significand : Nat) (shift : Int) :
    Option (Bool × List Char) → Option Number
  | none =>
    (scale? shift.natAbs significand.toUInt64.toFloat shift).map (signed negative)
  | some (down, ds) =>
    let e := Nat.ofDigitChars 10 ds 0
    if maxExponent < e then
      -- zero stays zero under any power of ten, and so does what is made too small
      if significand ≠ 0 ∧ !down then none else some (signed negative 0)
    else
      let e := clampExponent (shift + if down then -(e : Int) else e)
      (scale? e.natAbs significand.toUInt64.toFloat e).map (signed negative)

/-- The integer with this sign and size, a double if it does not fit or is a negative zero. -/
def integer (negative : Bool) (size : Nat) : Number :=
  if !negative then .integer size
  else if size = 0 ∨ 1 <<< 63 < size then signed true size.toUInt64.toFloat
  else .integer (-size)

/-- The number a numeral stands for, `none` where it is too large. -/
def value? (n : Numeral) : Option Number :=
  let (significand, kept) := gather 0 n.whole
  let dropped := n.whole.length - kept
  match n.fraction, n.exponent with
  | none, none =>
    if dropped = 0 then some (integer n.negative significand)
    else double? n.negative significand dropped none
  | fraction, exponent =>
    let (significand, places) := gather significand (fraction.getD [])
    double? n.negative significand ((dropped : Int) - places) exponent

end Numeral

/-! ### Writing numbers -/

/-- Doubles are written positionally from 0.00001 up to the largest below 10^16, with one decimal
    at least, and with an exponent otherwise. -/
def doubleStyle : Decimal.Style :=
  { leastPositional := -5, firstScientific := 16, markUp := ['e', '+'], markDown := ['e', '-'] }

/-- The text of a number. -/
def Number.render : Number → List Char
  | .integer n => Decimal.renderSigned n
  | .double bits => Decimal.render doubleStyle (Decimal.Binary.ofBits bits)

end FlowDump.Json
