import FlowDump.Rehearsal.Shell.State

/-!
# Conditions

* `Condition.Sign` — what a word of a condition is.
* `Condition.holds` — whether a condition on texts, numbers and files holds.
-/

namespace FlowDump.Rehearsal.Shell

namespace Condition

/-! ### Signs -/

/-- What a word of a condition is. -/
inductive Sign where
  | finish
  | operand
  /-- An operator before its operand. -/
  | unary
  /-- An operator between its operands. -/
  | binary
  | not
  | and
  | or
  | left
  | right
  deriving DecidableEq, Repr, Inhabited

/-- The operators. -/
def operators : List (String × Sign) :=
  [ ("-r", .unary), ("-w", .unary), ("-x", .unary), ("-e", .unary), ("-f", .unary),
    ("-d", .unary), ("-c", .unary), ("-b", .unary), ("-p", .unary), ("-u", .unary),
    ("-g", .unary), ("-k", .unary), ("-s", .unary), ("-t", .unary), ("-z", .unary),
    ("-n", .unary), ("-h", .unary), ("-O", .unary), ("-G", .unary), ("-L", .unary),
    ("-S", .unary), ("=", .binary), ("!=", .binary), ("<", .binary), (">", .binary),
    ("-eq", .binary), ("-ne", .binary), ("-ge", .binary), ("-gt", .binary), ("-le", .binary),
    ("-lt", .binary), ("-nt", .binary), ("-ot", .binary), ("-ef", .binary), ("!", .not),
    ("-a", .and), ("-o", .or), ("(", .left), (")", .right) ]

/-- The operator that a word is. -/
def operator? (o : Octets) : Option Sign :=
  (operators.find? fun p => p.1.toList = o).map (·.2)

/-- What the word at a place is.  An operator before its operand is an operand itself where it
    stands last, or between an operator and its other operand. -/
def sign (words : List Octets) (i : Nat) : Sign :=
  let isOperand : Bool := match words[i + 1]?, words[i + 2]? with
    | none, _ => true
    | some _, none => false
    | some next, some _ => operator? next = some .binary
  match words[i]? with
  | none => .finish
  | some o =>
    match operator? o with
    | none => .operand
    | some .unary => match isOperand with
      | true => .operand
      | false => .unary
    | some .left => if words[i + 1]? = none then .operand else .left
    | some s => s

/-! ### Values -/

/-- Complain about a condition. -/
def refuse {α : Type} (place message : Octets) : Act α :=
  Act.refuse (if place = [] then message else place ++ ": ".toList ++ message)

/-- Whether a condition on one operand holds. -/
def unary (operator o : Octets) : Act Bool := do
  match operator with
  | ['-', 'z'] => return o = []
  | ['-', 'n'] => return o ≠ []
  | ['-', 't'] =>
    let _ ← Act.number o
    return false
  | ['-', c] => return (← get).system.holds c (Octets.text o)
  | _ => return false

/-- Whether a condition on two operands holds. -/
def binary (operator a b : Octets) : Act Bool := do
  let compare (holds : Int → Int → Bool) : Act Bool := do
    let m ← Act.number a
    let n ← Act.number b
    return holds m n
  match String.ofList operator with
  | "=" => return a = b
  | "!=" => return a ≠ b
  | "<" => return a < b
  | ">" => return b < a
  | "-eq" => compare fun m n => m = n
  | "-ne" => compare fun m n => m ≠ n
  | "-ge" => compare fun m n => n ≤ m
  | "-gt" => compare fun m n => n < m
  | "-le" => compare fun m n => m ≤ n
  | "-lt" => compare fun m n => m < n
  | "-ef" => return (← get).system.isSamePlace (Octets.text a) (Octets.text b)
  | _ => return false

mutual

/-- Whether one of several conditions holds, and the place of its last word. -/
def either (words : List Octets) : (fuel : Nat) → (before : Bool) → (i : Nat) →
    Act (Bool × Nat)
  | 0, before, i => return (before, i)
  | fuel + 1, before, i => do
    let (b, i) ← both words fuel true i
    let b := before || b
    if sign words (i + 1) = .or then either words fuel b (i + 2) else return (b, i)

/-- Whether several conditions hold. -/
def both (words : List Octets) : (fuel : Nat) → (before : Bool) → (i : Nat) → Act (Bool × Nat)
  | 0, before, i => return (before, i)
  | fuel + 1, before, i => do
    let (b, i) ← negated words fuel i
    let b := before && b
    if sign words (i + 1) = .and then both words fuel b (i + 2) else return (b, i)

/-- Whether a condition holds that may be negated. -/
def negated (words : List Octets) : (fuel : Nat) → (i : Nat) → Act (Bool × Nat)
  | 0, i => return (false, i)
  | fuel + 1, i => do
    if sign words i ≠ .not then primary words fuel i
    else if sign words (i + 1) = .finish then return (true, i)
    else
      let (b, i) ← negated words fuel (i + 1)
      return (!b, i)

/-- Whether a single condition holds. -/
def primary (words : List Octets) : (fuel : Nat) → (i : Nat) → Act (Bool × Nat)
  | 0, i => return (false, i)
  | fuel + 1, i => do
    let word (i : Nat) : Octets := words[i]?.getD []
    match sign words i with
    | .finish => return (false, i)
    | .left =>
      if sign words (i + 1) = .right then return (false, i + 1)
      else
        let (b, i) ← either words fuel false (i + 1)
        if sign words (i + 1) ≠ .right then refuse [] "closing paren expected".toList
        return (b, i + 1)
    | .unary =>
      match words[i + 1]? with
      | none => refuse (word i) "argument expected".toList
      | some o => return (← unary (word i) o, i + 1)
    | _ => operand words i

/-- Whether a condition holds that starts with an operand. -/
def operand (words : List Octets) (i : Nat) : Act (Bool × Nat) := do
  let word (i : Nat) : Octets := words[i]?.getD []
  if sign words (i + 1) = .binary then
    match words[i + 2]? with
    | none => refuse (word (i + 1)) "argument expected".toList
    | some b => return (← binary (word (i + 1)) (word i) b, i + 2)
  else return (word i ≠ [], i)

end

/-- Whether a condition of some words holds, from one on. -/
def evaluate (words : List Octets) (asOperand : Bool) : Act Bool := do
  let (b, i) ←
    if asOperand then do
      let (b, i) ← operand words 0
      -- what follows joins on as after any other condition
      match sign words (i + 1) with
      | .and => do
        let (c, i) ← both words (words.length + 1) b (i + 2)
        if sign words (i + 1) = .or then either words (words.length + 1) c (i + 2)
        else pure (c, i)
      | .or => either words (words.length + 1) b (i + 2)
      | _ => pure (b, i)
    else either words (4 * words.length + 4) false 0
  if i + 1 < words.length then refuse (words[i]?.getD []) "unexpected operator".toList
  return b

/-- Whether a condition holds, or does not hold if it is `negated`; the usual forms of three and
    four words come first.  A sign of negation before another one counts for nothing in them. -/
def holdsWithin : (fuel : Nat) → (negated : Bool) → (words : List Octets) → Act Bool
  | 0, _, _ => return false
  | fuel + 1, negated, words => do
    let isBinary (o : Octets) : Bool := operator? o = some .binary
    let isUsual : Bool := match words with
      | [_, operator, _] => !isBinary operator
      | [_, _, _, _] => true
      | _ => false
    if words = [] then return false
    else if isUsual ∧ words.head? = some ['('] ∧ words.getLast? = some [')'] then
      return (← evaluate words.tail.dropLast false) != negated
    else if isUsual ∧ words.head? = some ['!'] then holdsWithin fuel true words.tail
    else
      let asOperand : Bool := match words with
        | [_, operator, _] => isBinary operator
        | _ => false
      return (← evaluate words asOperand) != negated

/-- Whether a condition holds. -/
def holds (words : List Octets) : Act Bool := holdsWithin (words.length + 1) false words

end Condition

end FlowDump.Rehearsal.Shell
