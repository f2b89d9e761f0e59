import FlowDump.Text.Utf8

/-!
# Texts byte by byte

The words of a script, the arguments of a program and what it writes are bytes that need not be
well-formed UTF-8.  They are held as characters, each of which stands for the byte of its code.

* `Octets` — texts byte by byte.
* `Octets.ofBytes`, `Octets.ofText` — the bytes, and the bytes of a text, in this form.
* `Octets.bytes`, `Octets.text` — and back.
* `Octets.isAtMost` — their order.
-/

namespace FlowDump.Rehearsal

/-- A text byte by byte: every character has a code below 256. -/
abbrev Octets := List Char

namespace Octets

/-- Bytes in this form. -/
def ofBytes (bytes : List UInt8) : Octets := bytes.map fun b => Char.ofNat b.toNat

/-- The bytes of a text in this form. -/
def ofText (s : String) : Octets := ofBytes (Utf8.encode s)

/-- The bytes that the characters stand for. -/
def bytes (o : Octets) : List UInt8 := o.map fun c => UInt8.ofNat c.toNat

/-- The text of the bytes; what is ill-formed in them is replaced. -/
def text (o : Octets) : String := Utf8.decodeLossy (bytes o)

/-- The decimal digits of a number. -/
def ofNat (n : Nat) : Octets := Nat.toDigits 10 n

/-- Whether a text stands before another or is the same, byte by byte. -/
def isAtMost : Octets → Octets → Bool
  | [], _ => true
  | _ :: _, [] => false
  | a :: as, b :: bs => a.toNat < b.toNat || (a = b && isAtMost as bs)

/-! ### Lines and words -/

/-- The lines of a text, each with its end if it has one. -/
def lines (o : Octets) : List Octets :=
  match o with
  | [] => []
  | c :: rest =>
    if c = '\n' then ['\n'] :: lines rest
    else match lines rest with
      | [] => [[c]]
      | line :: others => (c :: line) :: others

/-- A line without its end. -/
def chomp (line : Octets) : Octets :=
  if line.getLast? = some '\n' then line.dropLast else line

/-- Whether a character is one of the six ASCII blanks. -/
def isBlank (c : Char) : Bool :=
  c = ' ' || (9 ≤ c.toNat && c.toNat ≤ 13)

/-- The words of a text between its blanks. -/
def words (o : Octets) : List Octets :=
  let step (c : Char) (s : List Octets × Octets) : List Octets × Octets :=
    if isBlank c then (if s.2 = [] then s else (s.2 :: s.1, [])) else (s.1, c :: s.2)
  let (done, last) := o.foldr step ([], [])
  if last = [] then done else last :: done

/-- Whether a word is a name: letters, digits and underscores, and no digit first. -/
def isName (o : Octets) : Bool :=
  match o with
  | [] => false
  | c :: _ => !c.isDigit && o.all fun c => c.isAlphanum || c = '_'

end Octets

end FlowDump.Rehearsal
