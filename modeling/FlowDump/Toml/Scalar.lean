import FlowDump.Toml.Basic

/-!
# Numbers, dates and strings of TOML

* `Toml.classify?` — the value of a word without quotes: an integer, a float, a truth value or a
  date.
* `Toml.basicBody`, `Toml.literalBody` — strings on one line, from after their opening quote.
* `Toml.multiBasicBody`, `Toml.multiLiteralBody` — strings that may run over lines.
-/

namespace FlowDump.Toml

/-! ### Digits -/

/-- A run of digits in which single underscores may stand between two of them; the digits without
    the underscores. -/
def digitRun? (isDigit : Char → Bool) : List Char → Option (List Char)
  | [] => none
  | [c] => if isDigit c then some [c] else none
  | c :: '_' :: d :: rest =>
    if isDigit c ∧ isDigit d then (digitRun? isDigit (d :: rest)).map (c :: ·) else none
  | c :: d :: rest =>
    if isDigit c then (digitRun? isDigit (d :: rest)).map (c :: ·) else none

/-- The value of a digit of any base up to sixteen. -/
def digitValue (c : Char) : Nat :=
  if '0' ≤ c ∧ c ≤ '9' then c.toNat - 48
  else if 'a' ≤ c ∧ c ≤ 'f' then c.toNat - 87
  else c.toNat - 55

/-- The number that digits of a base stand for, by `digitValue`. -/
def fromDigits (base : Nat) (ds : List Char) : Nat :=
  ds.foldl (fun n d => n * base + digitValue d) 0

/-- The digits of a base. -/
def isDigitOf (base : Nat) (c : Char) : Bool :=
  if base = 16 then c.isDigit || ('a' ≤ c && c ≤ 'f') || ('A' ≤ c && c ≤ 'F')
  else c.isDigit && digitValue c < base

/-! ### Integers and floats -/

/-- An integer that fits 64 bits. -/
def fit64 (n : Int) : Option Int :=
  if -(1 <<< 63) ≤ n ∧ n < 1 <<< 63 then some n else none

/-- The sign of a number, and what follows it. -/
def sign : List Char → Bool × List Char
  | '+' :: rest => (false, rest)
  | '-' :: rest => (true, rest)
  | s => (false, s)

/-- Decimal digits that start with no zero, unless they are a zero alone. -/
def decimalRun? (s : List Char) : Option (List Char) :=
  match s with
  | ['0'] => some ['0']
  | '0' :: _ => none
  | s => digitRun? Char.isDigit s

/-- An integer of a base that its first two characters name. -/
def basedInteger? (base : Nat) (digits : List Char) : Option Int :=
  (digitRun? (isDigitOf base) digits).bind fun ds => fit64 (fromDigits base ds)

/-- An integer: decimal by `decimalRun?`, or by `basedInteger?`, if it fits 64 bits. -/
def integer? (word : List Char) : Option Int :=
  match word with
  | '0' :: 'x' :: digits => basedInteger? 16 digits
  | '0' :: 'o' :: digits => basedInteger? 8 digits
  | '0' :: 'b' :: digits => basedInteger? 2 digits
  | word =>
    (decimalRun? (sign word).2).bind fun ds =>
      let n : Int := fromDigits 10 ds
      fit64 (if (sign word).1 then -n else n)

/-- Whether the exponent of a float is well-formed, from after its mark. -/
def isExponent (s : List Char) : Bool :=
  (digitRun? Char.isDigit (sign s).2).isSome

/-- Whether what follows the integer part of a float is well-formed. -/
def isFraction (s : List Char) : Bool :=
  let digits := s.takeWhile fun c => c ≠ 'e' && c ≠ 'E'
  (digitRun? Char.isDigit digits).isSome &&
    match s.dropWhile fun c => c ≠ 'e' && c ≠ 'E' with
    | [] => true
    | _ :: e => isExponent e

/-- Whether a word is a float, by `isFraction` and `isExponent` behind its integer part. -/
def isFloat (word : List Char) : Bool :=
  let s := (sign word).2
  let whole := s.takeWhile fun c => c ≠ '.' && c ≠ 'e' && c ≠ 'E'
  s = ['i', 'n', 'f'] || s = ['n', 'a', 'n'] ||
    ((decimalRun? whole).isSome &&
      match s.drop whole.length with
      | '.' :: rest => isFraction rest
      | _ :: rest => isExponent rest
      | [] => false)

/-! ### Dates -/

/-- The number of two digits. -/
def two? (a b : Char) : Option Nat :=
  if a.isDigit ∧ b.isDigit then some (digitValue a * 10 + digitValue b) else none

/-- The days of a month. -/
def daysIn (year month : Nat) : Nat :=
  if month = 2 then
    if year % 4 = 0 ∧ (year % 100 ≠ 0 ∨ year % 400 = 0) then 29 else 28
  else if month = 4 ∨ month = 6 ∨ month = 9 ∨ month = 11 then 30
  else 31

/-- What follows a date at the front of a word. -/
def afterDate? : List Char → Option (List Char)
  | a :: b :: c :: d :: '-' :: m :: n :: '-' :: e :: f :: rest => do
    let century ← two? a b
    let year ← two? c d
    let month ← two? m n
    let day ← two? e f
    if 1 ≤ month ∧ month ≤ 12 ∧ 1 ≤ day ∧ day ≤ daysIn (century * 100 + year) month then
      some rest
    else none
  | _ => none

/-- What follows the fraction of a second, if there is one. -/
def afterSubsecond? : List Char → Option (List Char)
  | '.' :: c :: rest => if c.isDigit then some (rest.dropWhile Char.isDigit) else none
  | '.' :: [] => none
  | s => some s

/-- What follows a time of the day at the front of a word. -/
def afterTime? : List Char → Option (List Char)
  | a :: b :: ':' :: c :: d :: ':' :: e :: f :: rest => do
    let hour ← two? a b
    let minute ← two? c d
    let second ← two? e f
    if hour ≤ 23 ∧ minute ≤ 59 ∧ second ≤ 60 then afterSubsecond? rest else none
  | _ => none

/-- Whether the end of a word is an offset from universal time, or nothing. -/
def isOffset : List Char → Bool
  | [] => true
  | ['Z'] => true
  | ['z'] => true
  | s :: a :: b :: ':' :: c :: d :: [] =>
    (s = '+' || s = '-') && (two? a b).any (· ≤ 23) && (two? c d).any (· ≤ 59)
  | _ => false

/-- Whether a word is a date, a time or both, by `afterDate?`, `afterTime?` and `isOffset`. -/
def isDatetime (word : List Char) : Bool :=
  match afterDate? word with
  | some [] => true
  | some (t :: rest) =>
    (t = 'T' || t = 't' || t = ' ') &&
      (match afterTime? rest with
      | some offset => isOffset offset
      | none => false)
  | none => afterTime? word = some []

/-- The value of a word without quotes: one of two truth values, an `integer?`, a float by
    `isFloat`, or a date or a time by `isDatetime`. -/
def classify? (word : List Char) : Option Value :=
  if word = ['t', 'r', 'u', 'e'] then some (.boolean true)
  else if word = ['f', 'a', 'l', 's', 'e'] then some (.boolean false)
  else match integer? word with
    | some n => some (.integer n)
    | none =>
      if isFloat word then some (.float (String.ofList word))
      else if isDatetime word then some (.datetime (String.ofList word))
      else none

/-! ### Characters of strings -/

/-- Whether a character may stand in a string or a comment as itself: tabs may, other controls may
    not. -/
def isPlain (c : Char) : Bool :=
  c = '\t' || (0x20 ≤ c.toNat && c.toNat ≠ 0x7F)

/-- The character behind hexadecimal digits, unless they name none. -/
def scalar? (digits : List Char) : Option Char :=
  if digits.all (isDigitOf 16) then
    let n := fromDigits 16 digits
    if n < 0xD800 ∨ (0xDFFF < n ∧ n < 0x110000) then some (Char.ofNat n) else none
  else none

/-- The character of an escape, from after its backslash, and what follows it. -/
def escape? : List Char → Option (Char × List Char)
  | 'b' :: rest => some ('\x08', rest)
  | 't' :: rest => some ('\t', rest)
  | 'n' :: rest => some ('\n', rest)
  | 'f' :: rest => some ('\x0c', rest)
  | 'r' :: rest => some ('\r', rest)
  | '"' :: rest => some ('"', rest)
  | '\\' :: rest => some ('\\', rest)
  | 'u' :: rest =>
    if rest.length < 4 then none else (scalar? (rest.take 4)).map fun c => (c, rest.drop 4)
  | 'U' :: rest =>
    if rest.length < 8 then none else (scalar? (rest.take 8)).map fun c => (c, rest.drop 8)
  | _ => none

/-- Put a character in front of a string that was read. -/
def cons (c : Char) (r : List Char × List Char) : List Char × List Char :=
  (c :: r.1, r.2)

/-! ### Strings on one line -/

/-- A string with escapes, from after its opening quote; there are at most `fuel` characters. -/
def basicBody : (fuel : Nat) → List Char → Option (List Char × List Char)
  | 0, _ => none
  | _, [] => none
  | _, '"' :: rest => some ([], rest)
  | fuel + 1, '\\' :: rest => do
    let (c, rest) ← escape? rest
    return cons c (← basicBody fuel rest)
  | fuel + 1, c :: rest => if isPlain c then (basicBody fuel rest).map (cons c) else none

/-- A string without escapes, from after its opening quote. -/
def literalBody : List Char → Option (List Char × List Char)
  | [] => none
  | c :: rest =>
    if c = '\'' then some ([], rest)
    else if isPlain c then (literalBody rest).map (cons c)
    else none

/-! ### Strings over several lines -/

/-- A string without the line end at its front. -/
def dropNewline : List Char → List Char
  | '\n' :: rest => rest
  | '\r' :: '\n' :: rest => rest
  | s => s

/-- The quotes at the end of a long string: three close it, up to two before them belong to it. -/
def closing? (quote : Char) (s : List Char) : Option (List Char × List Char) :=
  let run := (s.takeWhile (· = quote)).length
  if run < 3 then none
  else
    let n := Nat.min run 5
    some (List.replicate (n - 3) quote, s.drop n)

/-- What follows the blanks and line ends after a backslash at the end of a line; `none` unless a
    line ends there. -/
def continued? (s : List Char) : Option (List Char) :=
  match s.dropWhile fun c => c = ' ' || c = '\t' with
  | '\n' :: rest => some (skip rest)
  | '\r' :: '\n' :: rest => some (skip rest)
  | _ => none
where
  /-- What follows blanks and line ends. -/
  skip : List Char → List Char
    | '\r' :: '\n' :: rest => skip rest
    | c :: rest => if c = ' ' ∨ c = '\t' ∨ c = '\n' then skip rest else c :: rest
    | [] => []

/-- A long string with escapes, from after its opening quotes; at most `fuel` characters. -/
def multiBasicBody : (fuel : Nat) → List Char → Option (List Char × List Char)
  | 0, _ => none
  | fuel + 1, s =>
    match closing? '"' s with
    | some r => some r
    | none =>
      match s with
      | [] => none
      | '\\' :: rest =>
        match continued? rest with
        | some rest => multiBasicBody fuel rest
        | none => do
          let (c, rest) ← escape? rest
          return cons c (← multiBasicBody fuel rest)
      | '\n' :: rest => (multiBasicBody fuel rest).map (cons '\n')
      | '\r' :: '\n' :: rest => (multiBasicBody fuel rest).map (cons '\n')
      | c :: rest => if isPlain c then (multiBasicBody fuel rest).map (cons c) else none

/-- A long string without escapes, from after its opening quotes; at most `fuel` characters. -/
def multiLiteralBody : (fuel : Nat) → List Char → Option (List Char × List Char)
  | 0, _ => none
  | fuel + 1, s =>
    match closing? '\'' s with
    | some r => some r
    | none =>
      match s with
      | [] => none
      | '\n' :: rest => (multiLiteralBody fuel rest).map (cons '\n')
      | '\r' :: '\n' :: rest => (multiLiteralBody fuel rest).map (cons '\n')
      | c :: rest => if isPlain c then (multiLiteralBody fuel rest).map (cons c) else none

/-- A string of any form, from its opening quotes on. -/
def string? : List Char → Option (String × List Char)
  | '"' :: '"' :: '"' :: rest =>
    (multiBasicBody (rest.length + 1) (dropNewline rest)).map fun (s, r) => (String.ofList s, r)
  | '"' :: rest => (basicBody (rest.length + 1) rest).map fun (s, r) => (String.ofList s, r)
  | '\'' :: '\'' :: '\'' :: rest =>
    (multiLiteralBody (rest.length + 1) (dropNewline rest)).map fun (s, r) => (String.ofList s, r)
  | '\'' :: rest => (literalBody rest).map fun (s, r) => (String.ofList s, r)
  | _ => none

/-- A string that names an entry: one on a single line. -/
def quotedName? : List Char → Option (String × List Char)
  | '"' :: rest => (basicBody (rest.length + 1) rest).map fun (s, r) => (String.ofList s, r)
  | '\'' :: rest => (literalBody rest).map fun (s, r) => (String.ofList s, r)
  | _ => none

end FlowDump.Toml
