import FlowDump.Rehearsal.Toolbox.Writing

/-!
# Conditions as a program

* `Condition.reading` — whether a condition of some words holds, read from the left.
* `Toolbox.test`, `Toolbox.bracket` — end well if a condition holds.
-/

namespace FlowDump.Rehearsal.Toolbox

namespace Condition

/-! ### Operators -/

/-- The operators between two operands. -/
def binaries : List String :=
  ["=", "!=", "==", "-nt", "-ot", "-ef", "-eq", "-ne", "-lt", "-le", "-gt", "-ge"]

/-- The letters of the operators before an operand. -/
def unaries : List Char := "bcdefgGhkLnNOprsStuwxz".toList

/-- Whether a word is an operator between two operands. -/
def isBinary (o : Octets) : Bool := binaries.any fun b => b.toList = o

/-- End for a condition that is not well formed. -/
def refuse {α : Type} (message : Octets) : Work α := Work.refuse message 2

/-- The whole number that a word is. -/
def whole (o : Octets) : Work Int := do
  let bare := o.dropWhile Octets.isBlank
  let (negative, digits) := match bare with
    | '-' :: rest => (true, rest)
    | '+' :: rest => (false, rest)
    | rest => (false, rest)
  let front := digits.takeWhile Char.isDigit
  if front = [] ∨ !((digits.drop front.length).all Octets.isBlank) then
    refuse ("invalid integer ".toList ++ quoted o)
  let n : Int := ((Format.digits 10 front.length 0 0 front).2.1 : Nat)
  return if negative then -n else n

/-- Whether a condition on one operand holds. -/
def unary (letter : Char) (o : Octets) : Work Bool := do
  match letter with
  | 'n' => return o ≠ []
  | 'z' => return o = []
  | 't' =>
    let _ ← whole o
    return false
  | c => return (← get).system.holds c (Octets.text o)

/-- Whether a condition on two operands holds. -/
def binary (a operator b : Octets) : Work Bool := do
  match String.ofList operator with
  | "=" | "==" => return a = b
  | "!=" => return a ≠ b
  | "-ef" => return (← get).system.isSamePlace (Octets.text a) (Octets.text b)
  | "-nt" =>
    let s := (← get).system
    return s.holds 'e' (Octets.text a) && !s.holds 'e' (Octets.text b)
  | "-ot" =>
    let s := (← get).system
    return s.holds 'e' (Octets.text b) && !s.holds 'e' (Octets.text a)
  | operator =>
    let m ← whole a
    let n ← whole b
    match operator with
    | "-eq" => return m = n
    | "-ne" => return m ≠ n
    | "-lt" => return m < n
    | "-le" => return m ≤ n
    | "-gt" => return n < m
    | _ => return n ≤ m

/-! ### Reading -/

/-- Reading a condition: the words that are left, and the one before them. -/
abbrev Reading := StateT (Octets × List Octets) Work

/-- Complain that something is missing after the last word. -/
def missing {α : Type} : Reading α := do
  let (before, words) ← get
  refuse ("missing argument after ".toList ++ quoted (words.getLast?.getD before))

/-- Take the next word. -/
def take : Reading Octets := do
  let (_, words) ← get
  match words with
  | [] => missing
  | word :: rest =>
    set (word, rest)
    return word

/-- Whether one word holds. -/
def one : Reading Bool := do return (← take) ≠ []

/-- Whether the operator before an operand holds. -/
def withOperator : Reading Bool := do
  match ← take with
  | ['-', c] =>
    if c ∈ unaries then
      let operand ← take
      unary c operand
    else refuse (quoted ['-', c] ++ ": unary operator expected".toList)
  | o => refuse (quoted o ++ ": unary operator expected".toList)

/-- Whether the operator between two operands holds. -/
def between : Reading Bool := do
  let a ← take
  let operator ← take
  let b ← take
  binary a operator b

/-- Whether two words hold. -/
def two : Reading Bool := do
  match (← get).2 with
  | ['!'] :: _ =>
    let _ ← take
    return !(← one)
  | ['-', _] :: _ => withOperator
  | _ => missing

mutual

/-- Whether a condition of so many words holds; the usual forms of up to four words come first. -/
def reading : (fuel : Nat) → (count : Nat) → Reading Bool
  | 0, _ => missing
  | fuel + 1, count => do
    let (_, words) ← get
    match count, words with
    | 0, _ => return false
    | 1, _ => one
    | 2, _ => two
    | 3, a :: operator :: b :: _ =>
      if isBinary operator then between
      else if a = ['!'] then
        let _ ← take
        return !(← two)
      else if a = ['('] ∧ b = [')'] then
        let _ ← take
        let holds ← one
        let _ ← take
        return holds
      else if operator = ['-', 'a'] ∨ operator = ['-', 'o'] then either fuel
      else refuse (quoted operator ++ ": binary operator expected".toList)
    | 4, a :: _ :: _ :: d :: _ =>
      if a = ['!'] then
        let _ ← take
        return !(← reading fuel 3)
      else if a = ['('] ∧ d = [')'] then
        let _ ← take
        let holds ← two
        let _ ← take
        return holds
      else either fuel
    | _, _ => either fuel

/-- Whether one of several conditions holds. -/
def either : (fuel : Nat) → Reading Bool
  | 0 => missing
  | fuel + 1 => do
    let a ← both fuel
    match (← get).2 with
    | ['-', 'o'] :: _ =>
      let _ ← take
      let b ← either fuel
      return a || b
    | _ => return a

/-- Whether several conditions hold. -/
def both : (fuel : Nat) → Reading Bool
  | 0 => missing
  | fuel + 1 => do
    let a ← term fuel
    match (← get).2 with
    | ['-', 'a'] :: _ =>
      let _ ← take
      let b ← both fuel
      return a && b
    | _ => return a

/-- Whether a single condition holds. -/
def term : (fuel : Nat) → Reading Bool
  | 0 => missing
  | fuel + 1 => do
    let (_, words) ← get
    match words with
    | [] => missing
    | ['!'] :: _ =>
      let _ ← take
      return !(← term fuel)
    | ['('] :: rest =>
      let _ ← take
      if rest = [] then missing
      let inside := (rest.tail.takeWhile (· ≠ [')'])).length + 1
      let count := if 4 ≤ inside ∨ rest.length < inside then rest.length else inside
      let holds ← reading fuel count
      match (← get).2 with
      | [')'] :: _ =>
        let _ ← take
        return holds
      | [] => refuse ("')' expected".toList)
      | o :: _ => refuse ("')' expected, found ".toList ++ o)
    | ['-', 'l'] :: text :: operator :: _ :: _ =>
      if isBinary operator then
        let _ ← take
        let _ ← take
        let operator ← take
        binary (Octets.ofNat text.length) operator (← take)
      else withOperator
    | a :: operator :: _ :: _ =>
      if isBinary operator then between
      else match a with
        | ['-', _] => withOperator
        | _ => one
    | ['-', _] :: _ => withOperator
    | _ => one

end

/-- Whether a condition holds. -/
def holds (words : List Octets) : Work Bool := do
  let (holds, _, rest) ← (reading (4 * words.length + 8) words.length).run ([], words)
  match rest with
  | [] => return holds
  | o :: _ => refuse ("extra argument ".toList ++ quoted o)

end Condition

/-- End well if a condition holds. -/
def test : Work UInt8 := do
  return if ← Condition.holds (← read).arguments then 0 else 1

/-- The same between brackets. -/
def bracket : Work UInt8 := do
  let words := (← read).arguments
  if words = ["--help".toList] ∨ words = ["--version".toList] then return 0
  if words.getLast? ≠ some [']'] then Condition.refuse "missing ']'".toList
  return if ← Condition.holds words.dropLast then 0 else 1

end FlowDump.Rehearsal.Toolbox
