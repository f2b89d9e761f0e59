/-!
# Time-ordered identifiers

* `Uuid` — an identifier of 128 bits, given by its time in milliseconds and its random part.
* `Uuid.hex` — its 32 hexadecimal digits, with the version (7) and the variant in their places.
-/

namespace FlowDump

/-- An identifier whose first 48 bits are a time in milliseconds and whose other free bits, 12 and
    62 of them, are random. -/
structure Uuid where
  millis : Nat
  randomHigh : Nat
  randomLow : Nat
  deriving DecidableEq, Repr, Inhabited

namespace Uuid

/-- `width` hexadecimal digits of a number, the most significant first. -/
def hexDigits : (width : Nat) → Nat → List Char
  | 0, _ => []
  | width + 1, n => hexDigits width (n / 16) ++ [Nat.digitChar (n % 16)]

/-- The identifier as a number of 128 bits. -/
def toNat (u : Uuid) : Nat :=
  (u.millis % (1 <<< 48)) <<< 80 + 7 <<< 76 + (u.randomHigh % (1 <<< 12)) <<< 64
    + 2 <<< 62 + u.randomLow % (1 <<< 62)

/-- The 32 digits of an identifier, by `hexDigits`, in lower case. -/
def hex (u : Uuid) : String :=
  String.ofList (hexDigits 32 u.toNat)

end Uuid

end FlowDump
