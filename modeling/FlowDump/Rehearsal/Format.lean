import FlowDump.Rehearsal.Octets

/-!
# Formats

* `Format.escape?`, `Format.unescape` — characters that are written with a backslash.
* `Format.Layout` — how a value is laid out.
* `Format.Style` — what the complaints about values and formats say.
* `Format.print` — a format with arguments, over and over while there are any left.
-/

namespace FlowDump.Rehearsal

namespace Format

/-! ### Escapes -/

/-- The value of up to `n` digits in a base at the front of a text, with their number, and what
    follows them. -/
def digits (base : Nat) : (n count value : Nat) → Octets → Nat × Nat × Octets
  | 0, count, value, s => (count, value, s)
  | _ + 1, count, value, [] => (count, value, [])
  | n + 1, count, value, c :: s =>
    let d := if c.isDigit then c.toNat - 48
      else if 'a' ≤ c ∧ c ≤ 'f' then c.toNat - 87
      else if 'A' ≤ c ∧ c ≤ 'F' then c.toNat - 55
      else base
    if d < base then digits base n (count + 1) (value * base + d) s else (count, value, c :: s)

/-- The character of a byte. -/
def byte (n : Nat) : Char := Char.ofNat (n % 256)

/-- The character that a letter after a backslash stands for. -/
def letter? : Char → Option Char
  | 'n' => some '\n'
  | 't' => some '\t'
  | 'r' => some '\r'
  | 'a' => some '\x07'
  | 'b' => some '\x08'
  | 'f' => some '\x0c'
  | 'v' => some '\x0b'
  | '\\' => some '\\'
  | _ => none

/-- The character behind a backslash, and what follows it: a letter or up to three octal digits. -/
def escape? (s : Octets) : Option (Char × Octets) :=
  match s with
  | [] => none
  | c :: rest =>
    match letter? c with
    | some d => some (d, rest)
    | none =>
      match digits 8 3 0 0 s with
      | (0, _, _) => none
      | (_, n, rest) => some (byte n, rest)

/-- The same, with up to two digits of base sixteen after an `x` or with one more octal digit after
    a zero. -/
def longEscape? (withHex : Bool) (s : Octets) : Option (Char × Octets) :=
  match s with
  | 'x' :: rest =>
    match withHex, digits 16 2 0 0 rest with
    | true, (_ + 1, n, rest) => some (byte n, rest)
    | _, _ => none
  | '0' :: rest =>
    match digits 8 3 0 0 rest with
    | (0, _, _) => some ('\x00', rest)
    | (_, n, rest) => some (byte n, rest)
  | s => escape? s

/-- A text with its escapes replaced; `\c` ends it, as the second part tells. -/
def unescape (withHex : Bool) : (fuel : Nat) → Octets → Octets × Bool
  | 0, s => (s, false)
  | _ + 1, [] => ([], false)
  | _ + 1, '\\' :: 'c' :: _ => ([], true)
  | fuel + 1, '\\' :: rest =>
    let (c, rest) := (longEscape? withHex rest).getD ('\\', rest)
    let (o, ended) := unescape withHex fuel rest
    (c :: o, ended)
  | fuel + 1, c :: rest =>
    let (o, ended) := unescape withHex fuel rest
    (c :: o, ended)

/-! ### Layouts -/

/-- How a value is laid out. -/
structure Layout where
  left : Bool := false
  plus : Bool := false
  blank : Bool := false
  alternate : Bool := false
  zeros : Bool := false
  width : Nat := 0
  precision? : Option Nat := none
  deriving Inhabited

namespace Layout

/-- A layout with a flag. -/
def withFlag (l : Layout) : Char → Layout
  | '-' => { l with left := true }
  | '+' => { l with plus := true }
  | ' ' => { l with blank := true }
  | '#' => { l with alternate := true }
  | _ => { l with zeros := true }

/-- A layout with a width; a negative one asks for the left side. -/
def withWidth (l : Layout) (n : Int) : Layout :=
  { l with width := n.natAbs, left := l.left || n < 0 }

/-- Blanks on one side. -/
def pad (l : Layout) (o : Octets) : Octets :=
  let blanks := List.replicate (l.width - o.length) ' '
  if l.left then o ++ blanks else blanks ++ o

/-- A text. -/
def text (l : Layout) (o : Octets) : Octets :=
  l.pad (match l.precision? with
    | some n => o.take n
    | none => o)

/-- The sign of a number. -/
def sign (l : Layout) (negative : Bool) : Octets :=
  if negative then ['-'] else if l.plus then ['+'] else if l.blank then [' '] else []

/-- Digits behind a sign; zeros fill the width if the layout asks for them. -/
def signed (l : Layout) (zeros : Bool) (front digits : Octets) : Octets :=
  let filled :=
    if zeros ∧ l.zeros ∧ !l.left then
      List.replicate (l.width - front.length - digits.length) '0' ++ digits
    else digits
  l.pad (front ++ filled)

/-- A whole number in the form that a letter asks for. -/
def integer (l : Layout) (conversion : Char) (n : Int) : Octets :=
  let isSigned : Bool := conversion = 'd' || conversion = 'i'
  let value := if isSigned then n.natAbs else (n % (1 <<< 64)).toNat
  let base := match conversion with
    | 'o' => 8
    | 'x' | 'X' => 16
    | _ => 10
  let digits := if value = 0 ∧ l.precision? = some 0 then [] else Nat.toDigits base value
  let digits := if conversion = 'X' then digits.map Char.toUpper else digits
  let digits := List.replicate (l.precision?.getD 0 - digits.length) '0' ++ digits
  let digits :=
    if conversion = 'o' ∧ l.alternate ∧ digits.head? ≠ some '0' then '0' :: digits else digits
  let front := if isSigned then l.sign (n < 0) else []
  let front :=
    if base = 16 ∧ l.alternate ∧ value ≠ 0 then front ++ ['0', conversion] else front
  l.signed l.precision?.isNone front digits

end Layout

/-! ### Decimal fractions -/

/-- A number with a fraction, without its sign. -/
structure Fraction where
  negative : Bool := false
  numerator : Nat := 0
  denominator : Nat := 1
  deriving Inhabited

namespace Fraction

/-- The nearest whole number to a quotient; of two of them the even one. -/
def nearest (a b : Nat) : Nat :=
  let q := a / b
  let r := a % b
  if 2 * r < b then q else if b < 2 * r then q + 1 else q + q % 2

/-- The number after so many more digits. -/
def scaled (f : Fraction) (places : Int) : Nat :=
  if 0 ≤ places then nearest (f.numerator * Nat.pow 10 places.toNat) f.denominator
  else nearest f.numerator (f.denominator * Nat.pow 10 (-places).toNat)

/-- Digits with a point before the last `places` of them. -/
def withPoint (alternate : Bool) (places n : Nat) : Octets :=
  let all := Octets.ofNat n
  let all := List.replicate (places + 1 - all.length) '0' ++ all
  let (whole, rest) := all.splitAt (all.length - places)
  if places = 0 ∧ !alternate then whole else whole ++ '.' :: rest

/-- The power of ten of the first digit of a number; at most `fuel` steps away. -/
def exponent (f : Fraction) : (fuel : Nat) → (e : Int) → Int
  | 0, e => e
  | fuel + 1, e =>
    if f.numerator = 0 then 0
    else
      let scaleUp := f.numerator * Nat.pow 10 (-e).toNat
      let scaleDown := f.denominator * Nat.pow 10 e.toNat
      if scaleUp < scaleDown then exponent f fuel (e - 1)
      else if 10 * scaleDown ≤ scaleUp then exponent f fuel (e + 1)
      else e

/-- The digits and the exponent of a number with so many places after its first digit. -/
def scientific (f : Fraction) (places : Nat) : Nat × Int :=
  let e := f.exponent 1000 0
  let n := f.scaled (places - e)
  if n = Nat.pow 10 (places + 1) then (Nat.pow 10 places, e + 1) else (n, e)

/-- The exponent in a text. -/
def exponentText (e : Int) : Octets :=
  let digits := Octets.ofNat e.natAbs
  'e' :: (if e < 0 then '-' else '+') :: List.replicate (2 - digits.length) '0' ++ digits

/-- A fraction without the zeros at its end. -/
def withoutZeros (o : Octets) : Octets :=
  if '.' ∈ o then
    let r := o.reverse.dropWhile (· = '0')
    (if r.head? = some '.' then r.tail else r).reverse
  else o

/-- A number in the form that a letter asks for. -/
def render (f : Fraction) (l : Layout) (conversion : Char) : Octets :=
  let places := l.precision?.getD 6
  let lower := conversion.toLower
  let exponential (places : Nat) (strip : Octets → Octets) : Octets :=
    let (n, e) := f.scientific places
    strip (withPoint l.alternate places n) ++ exponentText e
  let o :=
    if lower = 'f' then withPoint l.alternate places (f.scaled places)
    else if lower = 'e' then exponential places id
    else
      let places := max places 1
      let e := (f.scientific (places - 1)).2
      let strip := if l.alternate then id else withoutZeros
      if -4 ≤ e ∧ e < places then
        let after := (places - 1 - e).toNat
        strip (withPoint l.alternate after (f.scaled after))
      else exponential (places - 1) strip
  let o := if conversion.isUpper then o.map Char.toUpper else o
  l.signed true (l.sign f.negative) o

/-- The number at the front of a text, after blanks and a sign, and what follows. -/
def read? (o : Octets) : Option (Fraction × Octets) :=
  let o := o.dropWhile Octets.isBlank
  let (negative, o) := match o with
    | '-' :: rest => (true, rest)
    | '+' :: rest => (false, rest)
    | o => (false, o)
  let whole := o.takeWhile Char.isDigit
  let o := o.drop whole.length
  let (part, o) := match o with
    | '.' :: rest =>
      let part := rest.takeWhile Char.isDigit
      if whole = [] ∧ part = [] then ([], o) else (part, rest.drop part.length)
    | o => ([], o)
  if whole = [] ∧ part = [] then none
  else
    let value := (digits 10 (whole.length + part.length) 0 0 (whole ++ part)).2.1
    let (e, o) : Int × Octets := match o with
      | 'e' :: rest | 'E' :: rest =>
        let (minus, s) := match rest with
          | '-' :: s => (true, s)
          | '+' :: s => (false, s)
          | s => (false, s)
        match digits 10 6 0 0 s with
        | (0, _, _) => (0, o)
        | (_, n, s) => (if minus then -(n : Int) else n, s)
      | o => (0, o)
    let e := e - part.length
    some
      ( { negative, numerator := value * Nat.pow 10 e.toNat,
          denominator := Nat.pow 10 (-e).toNat }, o )

end Fraction

/-! ### Printing -/

/-- What the complaints about values and formats say. -/
structure Style where
  /-- A value has to be a number. -/
  noNumber : Octets → Octets
  /-- Something follows the number. -/
  notWhole : Octets → Octets
  /-- The number is too large. -/
  tooLarge : Octets → Octets
  /-- There is no such directive. -/
  unknown : Octets → Octets
  /-- The format ends within a directive. -/
  unfinished : Octets → Octets
  /-- Digits of base sixteen may follow a backslash and an `x`, and `\c` ends the format. -/
  extended : Bool
  /-- How an argument is written so that a shell would read it back, if there is a directive for
      that. -/
  quoted? : Option (Octets → Octets) := none

/-- How far a format has been printed. -/
structure Printer where
  /-- The output, last character first. -/
  output : Octets := []
  arguments : List Octets
  /-- The complaints, last one first, each with how much had been printed before. -/
  complaints : List (Nat × Octets) := []
  /-- Why printing is given up. -/
  refusal? : Option Octets := none
  ended : Bool := false
  deriving Inhabited

namespace Printer

/-- Print a text. -/
def say (p : Printer) (o : Octets) : Printer := { p with output := o.reverse ++ p.output }

/-- Complain. -/
def complain (p : Printer) (o : Octets) : Printer :=
  { p with complaints := (p.output.length, o) :: p.complaints }

/-- The next argument, empty if there is none. -/
def next (p : Printer) : Octets × Printer :=
  (p.arguments.headD [], { p with arguments := p.arguments.tail })

/-- The number that an argument is: the code of the character after a quote, or digits in a base
    that the first of them announce. -/
def number (style : Style) (isSigned : Bool) (p : Printer) : Int × Printer :=
  let given := p.arguments != []
  let (o, p) := p.next
  let isQuote (c : Char) : Bool := c = '"' || c = '\''
  match o with
  | c :: d =>
    if isQuote c then ((d.headD '\x00').toNat, p)
    else
      let s := o.dropWhile Octets.isBlank
      let (negative, s) := match s with
        | '-' :: rest => (true, rest)
        | '+' :: rest => (false, rest)
        | s => (false, s)
      let (count, n, rest) := match s with
        | '0' :: x :: rest =>
          match (x = 'x' || x = 'X' : Bool), digits 16 rest.length 0 0 rest with
          | true, (count + 1, n, rest) => (count + 1, n, rest)
          | _, _ => digits 8 s.length 0 0 s
        | '0' :: _ => digits 8 s.length 0 0 s
        | s => digits 10 s.length 0 0 s
      let value : Int := if negative then -(n : Int) else n
      let low : Int := if isSigned then -(1 <<< 63) else -(1 <<< 64) + 1
      let high : Int := if isSigned then (1 <<< 63) - 1 else (1 <<< 64) - 1
      let clamped := max low (min high value)
      if count = 0 then (0, p.complain (style.noNumber o))
      else if rest ≠ [] then (clamped, p.complain (style.notWhole o))
      else if clamped ≠ value then
        (if isSigned then clamped else (1 <<< 64) - 1, p.complain (style.tooLarge o))
      else (value, p)
  | [] => (0, if given && style.extended then p.complain (style.noNumber o) else p)

/-- The number with a fraction that an argument is. -/
def fraction (style : Style) (p : Printer) : Fraction × Printer :=
  let (o, p) := p.next
  if o = [] then ({}, p)
  else match Fraction.read? o with
    | none => ({}, p.complain (style.noNumber o))
    | some (f, []) => (f, p)
    | some (f, _) => (f, p.complain (style.notWhole o))

/-- A width or a precision and what follows it: digits, or a star for the next argument. -/
def size (style : Style) (p : Printer) (s : Octets) : Option Int × Octets × Printer :=
  match s with
  | '*' :: rest =>
    let (n, p) := p.number style true
    (some n, rest, p)
  | s =>
    match digits 10 s.length 0 0 s with
    | (0, _, rest) => (none, rest, p)
    | (_, n, rest) => (some n, rest, p)

/-- Print a directive, from after its percent sign; also what follows it. -/
def directive (style : Style) (p : Printer) (s : Octets) : Printer × Octets :=
  let isFlag (c : Char) : Bool := c ∈ ['#', '-', '+', ' ', '0']
  let flags := s.takeWhile isFlag
  let l := flags.foldl Layout.withFlag {}
  let (width?, rest, p) := p.size style (s.drop flags.length)
  let l := match width? with
    | some n => l.withWidth n
    | none => l
  let (l, rest, p) := match rest with
    | '.' :: rest =>
      let (precision?, rest, p) := p.size style rest
      let n := precision?.getD 0
      ({ l with precision? := if n < 0 then none else some n.toNat }, rest, p)
    | rest => (l, rest, p)
  let spec := '%' :: s.take (s.length - rest.length)
  match rest with
  | [] => ({ p with refusal? := some (style.unfinished spec) }, [])
  | c :: rest =>
    if c = 's' then
      let (o, p) := p.next
      (p.say (l.text o), rest)
    else if c = 'c' then
      let (o, p) := p.next
      -- an empty argument has only its end
      (p.say ({ l with precision? := none }.text [o.headD '\x00']), rest)
    else if c = 'b' then
      let (o, p) := p.next
      let (o, ended) := unescape style.extended (o.length + 1) o
      ({ p.say (l.text o) with ended }, rest)
    else if let (some quoted, 'q') := (style.quoted?, c) then
      let (o, p) := p.next
      (p.say (l.text (quoted o)), rest)
    else if c ∈ ['d', 'i', 'o', 'u', 'x', 'X'] then
      let (n, p) := p.number style (c = 'd' || c = 'i')
      (p.say (l.integer c n), rest)
    else if c ∈ ['e', 'E', 'f', 'F', 'g', 'G'] then
      let (f, p) := p.fraction style
      (p.say (f.render l c), rest)
    else ({ p with refusal? := some (style.unknown (spec ++ [c])) }, [])

/-- Print a format once; at most `fuel` pieces of it. -/
def pass (style : Style) : (fuel : Nat) → Octets → Printer → Printer
  | 0, _, p => p
  | _ + 1, [], p => p
  | fuel + 1, s, p =>
    if p.ended ∨ p.refusal?.isSome then p
    else match s with
      | [] => p
      | '%' :: '%' :: rest => pass style fuel rest (p.say ['%'])
      | '%' :: rest =>
        let (p, rest) := p.directive style rest
        pass style fuel rest p
      | '\\' :: rest =>
        if style.extended ∧ rest.head? = some 'c' then { p with ended := true }
        else
          let escape := if style.extended then
              (match rest with
                | 'x' :: _ => longEscape? true rest
                | _ => escape? rest)
            else escape? rest
          let (c, rest) := escape.getD ('\\', rest)
          pass style fuel rest (p.say [c])
      | c :: rest => pass style fuel rest (p.say [c])

/-- Print a format over and over while it uses arguments up and there are any left; at most `fuel`
    times. -/
def run (style : Style) (format : Octets) : (fuel : Nat) → Printer → Printer
  | 0, p => p
  | fuel + 1, p =>
    let after := pass style (format.length + 1) format p
    if after.ended ∨ after.refusal?.isSome ∨ after.arguments = [] ∨
        after.arguments.length = p.arguments.length then after
    else run style format fuel after

end Printer

/-- Print a format with arguments. -/
def print (style : Style) (format : Octets) (arguments : List Octets) : Printer :=
  Printer.run style format (arguments.length + 1) { arguments }

end Format

end FlowDump.Rehearsal
