import FlowDump.Rehearsal.Shell.State

/-!
# Arithmetic of the shell

Numbers have 64 bits and go round.  A part of an expression whose value does not count is read, but
nothing is looked up or assigned in it.

* `Arithmetic.Sign`, `Arithmetic.signs` — an expression as numbers, names and operators.
* `Arithmetic.evaluate` — the value of an expression.
-/

namespace FlowDump.Rehearsal.Shell

namespace Arithmetic

/-! ### Signs -/

/-- What an expression is made of. -/
inductive Sign where
  | number (n : Int)
  | name (o : Octets)
  | operator (o : String)
  /-- A character that means nothing. -/
  | unknown
  deriving DecidableEq, Repr, Inhabited

/-- The operators, longer ones first. -/
def operators : List String :=
  [ "<<=", ">>=", "<<", ">>", "<=", ">=", "==", "!=", "&&", "||", "+=", "-=", "*=", "/=", "%=",
    "&=", "^=", "|=", "<", ">", "=", "!", "&", "|", "+", "-", "*", "/", "%", "^", "~", "?", ":",
    "(", ")" ]

/-- A number that goes round. -/
def wrap (n : Int) : Int := Int.bmod n (1 <<< 64)

/-- The nearest number within the bounds. -/
def clamp (n : Int) : Int := max (-(1 <<< 63)) (min ((1 <<< 63) - 1) n)

/-- The signs of an expression; at most `fuel` of them. -/
def signs : (fuel : Nat) → Octets → List Sign
  | 0, _ => []
  | _ + 1, [] => []
  | fuel + 1, c :: rest =>
    let s := c :: rest
    if c = ' ' ∨ c = '\t' ∨ c = '\n' then signs fuel rest
    else if c.isDigit then
      match Act.leadingNumber? none s with
      | some (n, rest) => .number (clamp n) :: signs fuel rest
      | none => [.unknown]
    else if c.isAlpha ∨ c = '_' then
      let name := s.takeWhile fun c => c.isAlphanum || c = '_'
      .name name :: signs fuel (s.drop name.length)
    else match operators.findSome? fun o => (o.toList.isPrefixOf? s).map (o, ·) with
      | some (o, rest) => .operator o :: signs fuel rest
      | none => [.unknown]

/-! ### Values -/

/-- The operators between two operands, with their ranks; those of a lower rank bind their operands
    first. -/
def ranks : List (String × Nat) :=
  [ ("*", 0), ("/", 0), ("%", 0), ("+", 1), ("-", 1), ("<<", 2), (">>", 2), ("<", 3), ("<=", 3),
    (">", 3), (">=", 3), ("==", 4), ("!=", 4), ("&", 5), ("^", 6), ("|", 7) ]

/-- The rank of an operator between two operands. -/
def rank? : List Sign → Option (String × Nat)
  | .operator o :: _ => ranks.find? fun r => r.1 = o
  | _ => none

/-- The number of a truth value. -/
def truth (b : Bool) : Int := if b then 1 else 0

/-- The bits of a number. -/
def bits (n : Int) : BitVec 64 := BitVec.ofInt 64 n

/-- The value of an operator; none where it divides by zero. -/
def result? (operator : String) (a b : Int) : Option Int :=
  match operator with
  | "*" => some (wrap (a * b))
  | "/" => if b = 0 then none else some (wrap (a.tdiv b))
  | "%" => if b = 0 then none else some (a.tmod b)
  | "+" => some (wrap (a + b))
  | "-" => some (wrap (a - b))
  | "<<" => some (bits a <<< ((bits b).toNat % 64)).toInt
  | ">>" => some ((bits a).sshiftRight ((bits b).toNat % 64)).toInt
  | "<" => some (truth (a < b))
  | "<=" => some (truth (a ≤ b))
  | ">" => some (truth (b < a))
  | ">=" => some (truth (b ≤ a))
  | "==" => some (truth (a = b))
  | "!=" => some (truth (a ≠ b))
  | "&" => some (bits a &&& bits b).toInt
  | "^" => some (bits a ^^^ bits b).toInt
  | _ => some (bits a ||| bits b).toInt

/-- The operator that an assignment applies, if it is one: the empty one only assigns. -/
def assigned? (operator : String) : Option String :=
  if operator ∈ ["=", "<<=", ">>=", "+=", "-=", "*=", "/=", "%=", "&=", "^=", "|="] then
    some (String.ofList operator.toList.dropLast)
  else none

/-- The text of a number. -/
def render (n : Int) : Octets :=
  if n < 0 then '-' :: Octets.ofNat n.natAbs else Octets.ofNat n.natAbs

/-- Complain about an expression. -/
def refuse {α : Type} (text : Octets) (complaint : String) : Act α :=
  Act.refuse (("arithmetic expression: " ++ complaint ++ ": \"").toList ++ text ++ ['"'])

/-- The value of a variable. -/
def value (name : Octets) : Act Int := do
  let o := ((← get).lookup? name).getD []
  if o.all Octets.isBlank then return 0
  match Act.number? none o with
  | some n => return n
  | none => Act.refuse ("Illegal number: ".toList ++ o)

/-- The value of an operator in an expression. -/
def apply (text : Octets) (operator : String) (a b : Int) : Act Int :=
  match result? operator a b with
  | some n => return n
  | none => refuse text "division by zero"

mutual

/-- An assignment, or a value: its value and what follows.  Without `counts` nothing is looked
    up. -/
def assignment (text : Octets) : (fuel : Nat) → (counts : Bool) → List Sign →
    Act (Int × List Sign)
  | 0, _, _ => refuse text "too long"
  | fuel + 1, counts, s =>
    match s with
    | .name name :: .operator o :: rest =>
      match assigned? o with
      | some operator => do
        let (n, rest) ← assignment text fuel counts rest
        if !counts then return (n, rest)
        let n ← if operator = "" then pure n else apply text operator (← value name) n
        Act.assign name (render n)
        return (n, rest)
      | none => choice text fuel counts s
    | s => choice text fuel counts s

/-- One of two values, as a third one says. -/
def choice (text : Octets) : (fuel : Nat) → (counts : Bool) → List Sign → Act (Int × List Sign)
  | 0, _, _ => refuse text "too long"
  | fuel + 1, counts, s => do
    let (a, rest) ← either text fuel counts s
    match rest with
    | .operator "?" :: rest =>
      let (b, rest) ← assignment text fuel (counts && a ≠ 0) rest
      match rest with
      | .operator ":" :: rest =>
        let (c, rest) ← choice text fuel (counts && a = 0) rest
        return (if a ≠ 0 then b else c, rest)
      | _ => refuse text "expecting ':'"
    | rest => return (a, rest)

/-- Whether one of several values is not zero. -/
def either (text : Octets) : (fuel : Nat) → (counts : Bool) → List Sign → Act (Int × List Sign)
  | 0, _, _ => refuse text "too long"
  | fuel + 1, counts, s => do
    let (a, rest) ← both text fuel counts s
    match rest with
    | .operator "||" :: rest =>
      let (b, rest) ← either text fuel (counts && a = 0) rest
      return (truth (a ≠ 0 || b ≠ 0), rest)
    | rest => return (a, rest)

/-- Whether several values are not zero. -/
def both (text : Octets) : (fuel : Nat) → (counts : Bool) → List Sign → Act (Int × List Sign)
  | 0, _, _ => refuse text "too long"
  | fuel + 1, counts, s => do
    let (a, rest) ← operand text fuel counts s
    let (a, rest) ← binary text fuel counts 8 a rest
    match rest with
    | .operator "&&" :: rest =>
      let (b, rest) ← both text fuel (counts && a ≠ 0) rest
      return (truth (a ≠ 0 && b ≠ 0), rest)
    | rest => return (a, rest)

/-- The value of operators below a rank, from after the first operand. -/
def binary (text : Octets) : (fuel : Nat) → (counts : Bool) → (limit : Nat) → Int → List Sign →
    Act (Int × List Sign)
  | 0, _, _, _, _ => refuse text "too long"
  | fuel + 1, counts, limit, a, s => do
    match rank? s with
    | none => return (a, s)
    | some (operator, rank) =>
      if limit ≤ rank then return (a, s)
      else
        let (b, rest) ← operand text fuel counts s.tail
        -- operators that bind their operands first
        let (b, rest) ← binary text fuel counts rank b rest
        let a ← if counts then apply text operator a b else pure b
        binary text fuel counts limit a rest

/-- A value without operators between operands. -/
def operand (text : Octets) : (fuel : Nat) → (counts : Bool) → List Sign → Act (Int × List Sign)
  | 0, _, _ => refuse text "too long"
  | fuel + 1, counts, s =>
    match s with
    | .operator "(" :: rest => do
      let (n, rest) ← assignment text fuel counts rest
      match rest with
      | .operator ")" :: rest => return (n, rest)
      | _ => refuse text "expecting ')'"
    | .number n :: rest => return (n, rest)
    | .name name :: rest => do return (← if counts then value name else pure 0, rest)
    | .operator "+" :: rest => operand text fuel counts rest
    | .operator "-" :: rest => do
      let (n, rest) ← operand text fuel counts rest
      return (wrap (-n), rest)
    | .operator "!" :: rest => do
      let (n, rest) ← operand text fuel counts rest
      return (truth (n = 0), rest)
    | .operator "~" :: rest => do
      let (n, rest) ← operand text fuel counts rest
      return (-n - 1, rest)
    | _ => refuse text "expecting primary"

end

/-- The value of an expression. -/
def evaluate (text : Octets) : Act Int := do
  let s := signs (text.length + 1) text
  let (n, rest) ← assignment text (16 * (s.length + 2)) true s
  if rest = [] then return n
  refuse text "expecting EOF"

end Arithmetic

end FlowDump.Rehearsal.Shell
