/-!
# Unsigned decimals with a bound

* `Decimal.accumulate?` — the value of a run of digits, given up at the first digit that would take
  it over the bound.
* `Decimal.readDigits?` — the same for a whole text.
* `Decimal.readUnsigned?` — the same for a whole text, which may start with a plus sign.
-/

namespace FlowDump.Decimal

/-- The value of digits appended to `acc`, `none` at the first character that is no digit and at
    the first digit that would take the value over `max`. -/
def accumulate? (max : Nat) (acc : Nat) : List Char → Option Nat
  | [] => some acc
  | d :: rest =>
    if d.isDigit then
      let next := acc * 10 + (d.toNat - '0'.toNat)
      if next ≤ max then accumulate? max next rest else none
    else none

/-- The number at most `max` that a text of digits stands for.  Zeros may lead, and there has to be
    a digit. -/
def readDigits? (max : Nat) (s : List Char) : Option Nat :=
  if s = [] then none else accumulate? max 0 s

/-- What `readDigits?` reads, with a plus sign that may come first. -/
def readUnsigned? (max : Nat) (s : List Char) : Option Nat :=
  readDigits? max (match s with
    | '+' :: rest => rest
    | s => s)

/-- The largest unsigned number of 64 bits. -/
def max64 : Nat := (1 <<< 64) - 1

/-- The largest unsigned number of 32 bits. -/
def max32 : Nat := (1 <<< 32) - 1

end FlowDump.Decimal
