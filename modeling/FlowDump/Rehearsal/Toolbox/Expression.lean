import FlowDump.Rehearsal.Format
import FlowDump.Rehearsal.Regex
import FlowDump.Rehearsal.Toolbox.Options

/-!
# Expressions as a program

* `Expression.reading` — the value of an expression, read from the left.
* `Toolbox.expr` — write the value of an expression.
-/

namespace FlowDump.Rehearsal.Toolbox

namespace Expression

/-! ### Values -/

/-- The whole number that a text is. -/
def whole? (o : Octets) : Option Int :=
  let (negative, digits) := match o with
    | '-' :: digits => (true, digits)
    | digits => (false, digits)
  if digits ≠ [] ∧ digits.all Char.isDigit then
    let n : Int := ((Format.digits 10 digits.length 0 0 digits).2.1 : Nat)
    some (if negative then -n else n)
  else none

/-- Whether a value counts as nothing: it is empty, or a number that is zero. -/
def isNothing (o : Octets) : Bool :=
  let digits := if o.head? = some '-' then o.drop 1 else o
  o = [] || (digits ≠ [] && digits.all (· = '0'))

/-- The text of a number. -/
def ofInt (n : Int) : Octets := Decimal.renderSigned n

/-- The text of a truth value. -/
def ofBool (b : Bool) : Octets := if b then ['1'] else ['0']

/-- End for an expression that has no value. -/
def refuse {α : Type} (message : Octets) : Work α := Work.refuse message 2

/-- What an expression matches at the start of a text: the first group, or how long it is. -/
def matched (text pattern : Octets) : Work Octets := do
  match Regex.parse false pattern with
  | .error e => refuse e.toList
  | .ok r =>
    let place? := r.matchAt? false text.toArray 0
    let hasGroup := r.groupCount ≠ 0
    match place? with
    | none => return if hasGroup then [] else ['0']
    | some p =>
      if hasGroup then
        return match p.group? 1 with
          | some (first, last) => (text.take last).drop first
          | none => []
      else return Octets.ofNat p.index

/-- The value of two operands with an operator between them that computes. -/
def computed (operator : Char) (a b : Octets) : Work Octets := do
  match whole? a, whole? b with
  | some m, some n =>
    if (operator = '/' ∨ operator = '%') ∧ n = 0 then refuse "division by zero".toList
    return ofInt (match operator with
      | '+' => m + n
      | '-' => m - n
      | '*' => m * n
      | '/' => m.tdiv n
      | _ => m.tmod n)
  | _, _ => refuse "non-integer argument".toList

/-- The value of two operands with an operator between them that compares. -/
def compared (operator : String) (a b : Octets) : Octets :=
  let ordering := match whole? a, whole? b with
    | some m, some n => compare m n
    | _, _ => compare (a.map Char.toNat) (b.map Char.toNat)
  ofBool (match operator with
    | "<" => ordering = .lt
    | "<=" => ordering ≠ .gt
    | "=" | "==" => ordering = .eq
    | "!=" => ordering ≠ .eq
    | ">=" => ordering ≠ .lt
    | _ => ordering = .gt)

/-! ### Reading -/

/-- Reading an expression: the word before, and the words that are left. -/
abbrev Reading := StateT (Octets × List Octets) Work

/-- Take the next word. -/
def take : Reading Octets := do
  let (before, words) ← get
  match words with
  | [] => refuse ("syntax error: missing argument after ".toList ++ quoted before)
  | word :: rest =>
    set (word, rest)
    return word

/-- Take the next word if it is one of some. -/
def takeIf (choices : List String) : Reading (Option String) := do
  let (_, words) ← get
  match words with
  | [] => return none
  | word :: rest =>
    match choices.find? fun c => c.toList = word with
    | some c =>
      set (word, rest)
      return some c
    | none => return none

/-- The operators that join operands, those that bind least first. -/
def levels : List (List String) :=
  [["|"], ["&"], ["<", "<=", "=", "==", "!=", ">=", ">"], ["+", "-"], ["*", "/", "%"], [":"]]

/-- The value of two operands with an operator between them. -/
def joined (operator : String) (a b : Octets) : Work Octets :=
  match operator with
  | "|" => return if !isNothing a then a else if isNothing b then ['0'] else b
  | "&" => return if isNothing a ∨ isNothing b then ['0'] else a
  | ":" => matched a b
  | "+" | "-" | "*" | "/" | "%" => computed (operator.toList.headD '+') a b
  | operator => return compared operator a b

mutual

/-- The value of an expression whose operators are of some levels. -/
def reading : (fuel : Nat) → (levels : List (List String)) → Reading Octets
  | 0, _ => refuse "syntax error".toList
  | fuel + 1, [] => operand fuel
  | fuel + 1, choices :: rest => do
    let first ← reading fuel rest
    more fuel choices rest first

/-- The value of what stands before, and of the operands that follow it. -/
def more : (fuel : Nat) → (choices : List String) → (rest : List (List String)) → Octets →
    Reading Octets
  | 0, _, _, _ => refuse "syntax error".toList
  | fuel + 1, choices, rest, first => do
    match ← takeIf choices with
    | none => return first
    | some operator =>
      let second ← reading fuel rest
      more fuel choices rest (← joined operator first second)

/-- The value of an operand: a word, a function with its operands, or an expression in
    parentheses. -/
def operand : (fuel : Nat) → Reading Octets
  | 0 => refuse "syntax error".toList
  | fuel + 1 => do
    match String.ofList (← take) with
    | "(" =>
      let value ← reading fuel levels
      let (before, words) ← get
      match words with
      | [')'] :: rest =>
        set ([')'], rest)
        return value
      | [] => refuse ("syntax error: expecting ')' after ".toList ++ quoted before)
      | word :: _ => refuse ("syntax error: expecting ')' instead of ".toList ++ quoted word)
    | ")" => refuse "syntax error: unexpected ')'".toList
    | "+" => take
    | "length" =>
      let text ← operand fuel
      return Octets.ofNat text.length
    | "match" =>
      let text ← operand fuel
      matched text (← operand fuel)
    | "index" =>
      let text ← operand fuel
      let set ← operand fuel
      let i := text.findIdx (· ∈ set)
      return Octets.ofNat (if i < text.length then i + 1 else 0)
    | "substr" =>
      let text ← operand fuel
      let first? := whole? (← operand fuel)
      let count? := whole? (← operand fuel)
      match first?, count? with
      | some first, some count =>
        return if first < 1 then [] else (text.drop (first.toNat - 1)).take count.toNat
      | _, _ => return []
    | word => return word.toList

end

end Expression

/-- Write the value of an expression; the code tells whether it is nothing. -/
def expr : Work UInt8 := do
  let words := (← read).arguments
  let isAbout : Bool := match words with
    | [word] => word = "--help".toList || word = "--version".toList
    | _ => false
  if isAbout then return 0
  let words := if words.head? = some "--".toList then words.tail else words
  if words = [] then Work.misused "missing operand".toList 2
  let (value, _, rest) ←
    (Expression.reading (16 * words.length + 32) Expression.levels).run ([], words)
  match rest with
  | [] =>
    Work.say (value ++ ['\n'])
    return if Expression.isNothing value then 1 else 0
  | word :: _ =>
    Expression.refuse ("syntax error: unexpected argument ".toList ++ quoted word)

end FlowDump.Rehearsal.Toolbox
