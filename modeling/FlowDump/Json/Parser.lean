import FlowDump.Json.Number
import FlowDump.Text.Hex

/-!
# Reading JSON

A strict reader: one value, blanks around it, nothing else.

* `Json.parse` — the value of a text, nested at most `limit` deep.
* `Json.value` — the value at the front of a text and what follows it.
* `Json.stringBody` — the characters of a quoted string, from after its opening quote.

Recursion goes down with the nesting limit; the items of one array or object are read by `items`,
which is given as many steps as there are characters left.
-/

namespace FlowDump.Json

/-! ### Blanks and literals -/

/-- The characters that may stand between tokens. -/
def isBlank (c : Char) : Bool :=
  c = ' ' || c = '\t' || c = '\n' || c = '\r'

/-- A text without the blanks at its front. -/
def skipBlank (s : List Char) : List Char :=
  s.dropWhile isBlank

/-- What follows a given word at the front of a text. -/
def afterWord? : (word : List Char) → List Char → Option (List Char)
  | [], s => some s
  | _ :: _, [] => none
  | w :: word, c :: s => if w = c then afterWord? word s else none

/-! ### Strings -/

/-- The number behind four hexadecimal digits. -/
def codeUnit? (a b c d : Char) : Option Nat :=
  Text.hexNumber? [a, b, c, d]

/-- The character that a one-letter escape stands for. -/
def escaped? : Char → Option Char
  | '"' => some '"'
  | '\\' => some '\\'
  | '/' => some '/'
  | 'b' => some '\x08'
  | 'f' => some '\x0c'
  | 'n' => some '\n'
  | 'r' => some '\r'
  | 't' => some '\t'
  | _ => none

/-- The characters of a string from after its opening quote, and what follows its closing one.
    Control characters have to be escaped, and a surrogate has to be one of a pair. -/
def stringBody : List Char → Option (List Char × List Char)
  | [] => none
  | '"' :: rest => some ([], rest)
  | '\\' :: 'u' :: a :: b :: c :: d :: rest =>
    match codeUnit? a b c d with
    | none => none
    | some unit =>
      -- the second half of a pair cannot come first
      if 0xDC00 ≤ unit ∧ unit ≤ 0xDFFF then none
      else if 0xD800 ≤ unit ∧ unit ≤ 0xDBFF then
        match rest with
        | '\\' :: 'u' :: a' :: b' :: c' :: d' :: rest' =>
          match codeUnit? a' b' c' d' with
          | none => none
          | some low =>
            if 0xDC00 ≤ low ∧ low ≤ 0xDFFF then
              (stringBody rest').map fun (s, r) =>
                (Char.ofNat (0x10000 + (unit - 0xD800) * 0x400 + (low - 0xDC00)) :: s, r)
            else none
        | _ => none
      else (stringBody rest).map fun (s, r) => (Char.ofNat unit :: s, r)
  | '\\' :: e :: rest =>
    match escaped? e with
    | none => none
    | some c => (stringBody rest).map fun (s, r) => (c :: s, r)
  | c :: rest =>
    if c = '\\' ∨ c.toNat < 0x20 then none
    else (stringBody rest).map fun (s, r) => (c :: s, r)

/-! ### Values -/

/-- A value that holds no other: a literal, a `Numeral` or a string. -/
def scalar : List Char → Option (Json × List Char)
  | '"' :: rest => (stringBody rest).map fun (s, r) => (.string (String.ofList s), r)
  | 't' :: rest => (afterWord? ['r', 'u', 'e'] rest).map fun r => (.bool true, r)
  | 'f' :: rest => (afterWord? ['a', 'l', 's', 'e'] rest).map fun r => (.bool false, r)
  | 'n' :: rest => (afterWord? ['u', 'l', 'l'] rest).map fun r => (.null, r)
  | s => do
    let (numeral, r) ← Numeral.read? s
    let n ← numeral.value?
    return (.number n, r)

/-- One item or more with commas between them, up to the closing mark. -/
def items {α : Type} (item : List Char → Option (α × List Char)) (close : Char) :
    (steps : Nat) → List Char → Option (List α × List Char)
  | 0, _ => none
  | steps + 1, s =>
    match item s with
    | none => none
    | some (x, r) =>
      match skipBlank r with
      | [] => none
      | c :: r =>
        if c = close then some ([x], r)
        else if c = ',' then (items item close steps r).map fun (xs, r) => (x :: xs, r)
        else none

/-- The `items` up to the closing mark, from after the opening one; there may be none. -/
def bracketed {α : Type} (item : List Char → Option (α × List Char)) (close : Char)
    (s : List Char) : Option (List α × List Char) :=
  match skipBlank s with
  | [] => none
  | c :: r => if c = close then some ([], r) else items item close (c :: r).length (c :: r)

/-- A member of an object: a name, a colon and a value. -/
def member (value : List Char → Option (Json × List Char)) (s : List Char) :
    Option ((String × Json) × List Char) :=
  match skipBlank s with
  | '"' :: r =>
    match stringBody r with
    | none => none
    | some (name, r) =>
      match skipBlank r with
      | ':' :: r => (value r).map fun (v, r) => ((String.ofList name, v), r)
      | _ => none
  | _ => none

/-- The value at the front of a text and what follows it; arrays and objects may be nested `limit`
    deep. -/
def value : (limit : Nat) → List Char → Option (Json × List Char)
  | 0, s => scalar (skipBlank s)
  | limit + 1, s =>
    match skipBlank s with
    | '[' :: r => (bracketed (value limit) ']' r).map fun (xs, r) => (.array xs, r)
    | '{' :: r => (bracketed (member (value limit)) '}' r).map fun (ms, r) => (ofMembers ms, r)
    | r => scalar r

/-- The deepest nesting that a document may have. -/
def nestingLimit : Nat := 127

/-- The `value` of a whole text, with blanks around it. -/
def parse (s : List Char) (limit : Nat := nestingLimit) : Option Json :=
  match value limit s with
  | some (v, r) => if skipBlank r = [] then some v else none
  | none => none

end FlowDump.Json
