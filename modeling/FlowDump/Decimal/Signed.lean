import FlowDump.Decimal.Unsigned

/-!
# Signed decimals

* `Decimal.readSigned?` — the number of 64 bits that a text stands for.
* `Decimal.renderSigned` — the text of a number.
-/

namespace FlowDump.Decimal

/-- The signed number of 64 bits that a text stands for; a sign of either kind may come first. -/
def readSigned? (s : List Char) : Option Int :=
  match s with
  | '-' :: digits => (readDigits? (1 <<< 63) digits).map fun n => -(n : Int)
  | s => (readUnsigned? ((1 <<< 63) - 1) s).map fun n => (n : Int)

/-- The text of a number. -/
def renderSigned (n : Int) : List Char :=
  if n < 0 then '-' :: Nat.toDigits 10 n.natAbs else Nat.toDigits 10 n.natAbs

end FlowDump.Decimal
