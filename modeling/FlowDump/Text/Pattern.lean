import FlowDump.Text.Alphanumeric
import FlowDump.Text.Blank
import FlowDump.Text.Hex

/-!
# Regular expressions

An expression is usable if it is well-formed, is not nested too deeply, and asks for nothing that
needs tables of characters: the classes of digits, blanks and word characters, their boundaries and
letters of either case are there for ASCII only, in parts of an expression that turn Unicode off.

* `Pattern.Options` — what the options of an expression turn on and off.
* `Pattern.Reader` — how far an expression has been read.
* `Pattern.readSet?`, `Pattern.readGroup?` — the parts of an expression, with their depths.
* `Text.isPattern` — whether a text is a usable expression.
-/

namespace FlowDump.Text

namespace Pattern

/-! ### Options -/

/-- What the options of an expression turn on and off, as far as it decides what is usable. -/
structure Options where
  /-- Letters of either case are the same. -/
  anyCase : Bool := false
  /-- Blanks and remarks between the parts count for nothing. -/
  spaced : Bool := false
  /-- The expression is about characters and not about bytes. -/
  unicode : Bool := true
  deriving DecidableEq, Repr, Inhabited

/-- The letters of all options. -/
def optionLetters : List Char := ['i', 'm', 's', 'U', 'u', 'R', 'x']

/-- Turn an option on or off. -/
def Options.set (o : Options) (on : Bool) : Char → Options
  | 'i' => { o with anyCase := on }
  | 'u' => { o with unicode := on }
  | 'x' => { o with spaced := on }
  | _ => o

/-- Read options up to the mark that ends them, which is left.  No letter may come twice, a minus
    sign stands before those that are turned off, and something has to follow it. -/
def readOptions? (o : Options) (seen : List Char) : List Char → Option (Options × List Char)
  | [] => none
  | '-' :: c :: rest =>
    if '-' ∈ seen ∨ c = ':' ∨ c = ')' then none else readOptions? o ('-' :: seen) (c :: rest)
  | c :: rest =>
    if c = ':' ∨ c = ')' then some (o, c :: rest)
    else if c ∈ optionLetters ∧ c ∉ seen then
      readOptions? (o.set (!('-' ∈ seen)) c) (c :: seen) rest
    else none

/-! ### Blanks and remarks -/

/-- A text from its first character on that counts; at most `fuel` remarks. -/
def skip (o : Options) : (fuel : Nat) → List Char → List Char
  | 0, s => s
  | fuel + 1, s =>
    if !o.spaced then s
    else match s.dropWhile isSpace with
      | '#' :: rest => skip o fuel ((rest.dropWhile (· ≠ '\n')).drop 1)
      | s => s

/-- A text from its first character on that counts. -/
def Options.skip (o : Options) (s : List Char) : List Char := Pattern.skip o (s.length + 1) s

/-- The character that follows a minus sign in a set, from after the sign, as far as it decides
    whether the sign stands between two ends: the first one behind blanks, but only the mark of the
    first remark is passed over. -/
def Options.peek? (o : Options) (s : List Char) : Option Char :=
  if !o.spaced then s.head?
  else
    let next := match s.dropWhile isSpace with
      | '#' :: rest => rest.dropWhile isSpace
      | s => s
    (next ++ s).head?

/-! ### Escapes -/

/-- What a backslash and the characters after it stand for. -/
inductive Escape where
  /-- A character; as a byte if it is written by two hexadecimal digits. -/
  | character (c : Char) (byte : Bool)
  /-- A class of characters, or what is not in it. -/
  | characters (negated : Bool)
  /-- A place between characters. -/
  | place (atWord : Bool)
  deriving DecidableEq, Repr

/-- The characters that may have a backslash before them and then stand for themselves. -/
def isEscapable (c : Char) : Bool :=
  c.toNat < 0x80 && !c.isAlphanum && c ≠ '<' && c ≠ '>'

/-- The character with a code point, if it is one. -/
def character? (n : Nat) : Option Char :=
  if h : n.isValidChar then some (Char.ofNatAux n h) else none

/-- Read so many hexadecimal digits. -/
def readHex? (o : Options) : (digits value : Nat) → List Char → Option (Nat × List Char)
  | 0, value, s => some (value, s)
  | digits + 1, value, c :: rest =>
    match hexValue? c with
    | some d => readHex? o digits (value * 16 + d) (o.skip rest)
    | none => none
  | _ + 1, _, [] => none

/-- A character by so many hexadecimal digits. -/
def readCode? (o : Options) (digits : Nat) (s : List Char) : Option (Escape × List Char) := do
  let (n, rest) ← readHex? o digits 0 (o.skip s)
  let c ← character? n
  return (.character c (digits = 2), rest)

/-- Read an escape, from after its backslash. -/
def readEscape? (o : Options) : List Char → Option (Escape × List Char)
  | [] => none
  | c :: rest =>
    if isEscapable c ∨ c ∈ ['a', 'f', 't', 'n', 'r', 'v'] then some (.character c false, rest)
    else match c with
      | 'x' => readCode? o 2 rest
      | 'u' => readCode? o 4 rest
      | 'U' => readCode? o 8 rest
      | 'A' => some (.place false, rest)
      | 'z' => some (.place false, rest)
      | _ =>
        if c ∈ ['d', 's', 'w'] then some (.characters false, rest)
        else if c ∈ ['D', 'S', 'W'] then some (.characters true, rest)
        else if c ∈ ['b', 'B', '<', '>'] then some (.place true, rest)
        else none

/-- Whether a character can be asked for: letters of either case need tables. -/
def allowsCharacter (o : Options) (c : Char) (byte : Bool) : Bool :=
  if o.unicode then !o.anyCase else !(byte && 0x80 ≤ c.toNat)

/-- Whether a class can be asked for. -/
def allowsClass (o : Options) (negated : Bool) : Bool := !o.unicode && !negated

/-- Whether an escape can be used among the parts of an expression. -/
def Escape.isAllowed (o : Options) : Escape → Bool
  | .character c byte => allowsCharacter o c byte
  | .characters negated => allowsClass o negated
  | .place atWord => !(atWord && o.unicode)

/-! ### Sets -/

/-- Read a character or an escape in a set. -/
def readMember? (o : Options) : List Char → Option (Escape × List Char)
  | [] => none
  | '\\' :: rest => readEscape? o rest
  | c :: rest => some (.character c false, rest)

/-- Whether a character can be in a set: without Unicode only ASCII can. -/
def allowsMember (o : Options) (c : Char) : Bool :=
  if o.unicode then !o.anyCase else c.toNat < 0x80

/-- Whether an escape can be used in a set. -/
def Escape.isMember (o : Options) : Escape → Bool
  | .character c _ => allowsMember o c
  | .characters negated => allowsClass o negated
  | .place _ => false

/-- Whether an escape is the lower end of a range that ends at another one. -/
def Escape.isBelow (o : Options) : Escape → Escape → Bool
  | .character a _, .character b _ => allowsMember o a && allowsMember o b && a ≤ b
  | _, _ => false

/-- Read one member of a set, or a range. -/
def readRange? (o : Options) (s : List Char) : Option (List Char) := do
  let (first, rest) ← readMember? o s
  match o.skip rest with
  | [] => none
  | '-' :: after =>
    if o.peek? after = some ']' ∨ o.peek? after = some '-' then
      if first.isMember o then some ('-' :: after) else none
    else
      let (last, rest) ← readMember? o (o.skip after)
      if first.isBelow o last then some rest else none
  | rest => if first.isMember o then some rest else none

/-- The names of the classes that a set may name between colons. -/
def classNames : List String :=
  [ "alnum", "alpha", "ascii", "blank", "cntrl", "digit", "graph", "lower", "print", "punct",
    "space", "upper", "word", "xdigit" ]

/-- Read a class by its name, from after the bracket in front of the first colon: whether what is
    not in it is meant, and what follows. -/
def readNamed? : List Char → Option (Bool × List Char)
  | ':' :: rest =>
    let (negated, rest) := match rest with
      | '^' :: rest => (true, rest)
      | rest => (false, rest)
    match rest.dropWhile (· ≠ ':') with
    | ':' :: ']' :: after =>
      if String.ofList (rest.takeWhile (· ≠ ':')) ∈ classNames then some (negated, after)
      else none
    | _ => none
  | _ => none

/-- The members of a set that have been read since its last operator, and the operand before it. -/
structure Members where
  count : Nat := 0
  deepest : Nat := 0
  /-- The depth of what stands before the operator. -/
  left? : Option Nat := none
  deriving Repr, Inhabited

namespace Members

/-- Another member. -/
def add (m : Members) (depth : Nat) : Members :=
  { m with count := m.count + 1, deepest := max m.deepest depth }

/-- How deeply a set is nested: several members are one level, and so is an operator. -/
def depth (m : Members) : Nat :=
  let right := if m.count ≤ 1 then m.deepest else m.deepest + 1
  match m.left? with
  | none => right
  | some left => max left right + 1

end Members

/-- The marks at the front of a set that stand for themselves: minus signs, and else a bracket. -/
def readFront? (o : Options) : (fuel : Nat) → Members → List Char → Option (Members × List Char)
  | 0, _, _ => none
  | fuel + 1, m, s =>
    match s with
    | [] => none
    | '-' :: rest =>
      if allowsMember o '-' then readFront? o fuel (m.add 0) (o.skip rest) else none
    | ']' :: rest =>
      if m.count ≠ 0 then some (m, s)
      else if allowsMember o ']' ∧ o.skip rest ≠ [] then some (m.add 0, o.skip rest)
      else none
    | _ => some (m, s)

/-- Read a set, from after its bracket: how deeply it is nested, and what follows; at most `fuel`
    steps.  Without Unicode nothing may be negated, as that would leave ASCII. -/
def readSet? (o : Options) : (fuel : Nat) → List Char → Option (Nat × List Char)
  | 0, _ => none
  | fuel + 1, s => do
    let (negated, s) := match o.skip s with
      | '^' :: rest => (true, o.skip rest)
      | s => (false, s)
    if negated ∧ !o.unicode then none
    else
      let (m, s) ← readFront? o (s.length + 1) {} s
      readMembers? fuel m s
where
  /-- Read the members of a set up to its end. -/
  readMembers? : (fuel : Nat) → Members → List Char → Option (Nat × List Char)
    | 0, _, _ => none
    | fuel + 1, m, s =>
      match o.skip s with
      | [] => none
      | ']' :: rest => some (m.depth + 1, rest)
      | '&' :: '&' :: rest => readMembers? fuel { left? := some m.depth } rest
      | '-' :: '-' :: rest => readMembers? fuel { left? := some m.depth } rest
      | '~' :: '~' :: rest => readMembers? fuel { left? := some m.depth } rest
      | '[' :: rest =>
        match readNamed? rest with
        | some (negated, rest) =>
          if (if o.unicode then !o.anyCase else !negated) then readMembers? fuel (m.add 0) rest
          else none
        | none =>
          match readSet? o fuel rest with
          | some (depth, rest) => readMembers? fuel (m.add depth) rest
          | none => none
      | s =>
        match readRange? o s with
        | some rest => readMembers? fuel (m.add 0) rest
        | none => none

/-! ### Groups -/

/-- How far an expression has been read. -/
structure Reader where
  rest : List Char
  options : Options := {}
  /-- The names that groups have so far. -/
  names : List (List Char) := []
  deriving Repr, Inhabited

/-- The parts of a branch of a group, and the branches before it. -/
structure Branch where
  count : Nat := 0
  /-- The depth of the last part. -/
  last : Nat := 0
  /-- The depth of the deepest part before the last one. -/
  others : Nat := 0
  /-- Whether the last part can be repeated. -/
  repeatable : Bool := false
  /-- The depth of the deepest branch before this one. -/
  earlier? : Option Nat := none
  deriving Repr, Inhabited

namespace Branch

/-- Another part. -/
def add (b : Branch) (depth : Nat) (repeatable : Bool := true) : Branch :=
  { b with count := b.count + 1, last := depth, others := max b.others b.last, repeatable }

/-- Repeat the last part. -/
def repeated (b : Branch) : Branch := { b with last := b.last + 1 }

/-- How deeply the branch is nested: several parts are one level. -/
def depth (b : Branch) : Nat :=
  if b.count ≤ 1 then b.last else max b.others b.last + 1

/-- How deeply all branches are nested: several branches are one level. -/
def total (b : Branch) : Nat :=
  match b.earlier? with
  | none => b.depth
  | some earlier => max earlier b.depth + 1

/-- The next branch. -/
def next (b : Branch) : Branch := { earlier? := some (max (b.earlier?.getD 0) b.depth) }

end Branch

/-- Whether a character may stand in the name of a group. -/
def isNameCharacter (isFirst : Bool) (c : Char) : Bool :=
  c = '_' || (if isFirst then isLetter c else c ∈ ['.', '[', ']'] || isAlphanumeric c)

/-- Read the name of a group, from after the mark that opens it. -/
def readName? (r : Reader) (s : List Char) : Option Reader :=
  let name := s.takeWhile (· ≠ '>')
  match s.dropWhile (· ≠ '>'), name with
  | _ :: rest, first :: others =>
    if isNameCharacter true first ∧ others.all (isNameCharacter false) ∧ name ∉ r.names then
      some { r with rest, names := name :: r.names }
    else none
  | _, _ => none

/-- What a bracket opens. -/
inductive Opening where
  /-- A group, with the reader at its first part. -/
  | group (r : Reader)
  /-- Options for what follows, with the reader behind them. -/
  | options (r : Reader)

/-- Read what opens a group, from after its bracket. -/
def readOpening? (r : Reader) (s : List Char) : Option Opening :=
  match r.options.skip s with
  | '?' :: 'P' :: '<' :: rest => (readName? r rest).map .group
  | '?' :: '<' :: rest => (readName? r rest).map .group
  | '?' :: rest =>
    match readOptions? r.options [] rest with
    | some (options, ':' :: after) => some (.group { r with rest := after, options })
    | some (options, ')' :: after) =>
      -- no option at all is a repetition of nothing
      if rest.head? = some ')' then none else some (.options { r with rest := after, options })
    | _ => none
  | rest => some (.group { r with rest })

/-- Read the branches of a group up to the bracket that closes it, or to the end: how deeply they
    are nested, and the reader there; at most `fuel` steps. -/
def readGroup? : (fuel : Nat) → Reader → Branch → Option (Nat × Reader)
  | 0, _, _ => none
  | fuel + 1, r, b =>
    match r.options.skip r.rest with
    | [] => some (b.total, { r with rest := [] })
    | ')' :: rest => some (b.total, { r with rest := ')' :: rest })
    | '|' :: rest => readGroup? fuel { r with rest } b.next
    | '(' :: rest =>
      match readOpening? r rest with
      | some (.options r) => readGroup? fuel r (b.add 0 false)
      | some (.group inner) =>
        match readGroup? fuel inner {} with
        | some (depth, { rest := ')' :: rest, names, .. }) =>
          readGroup? fuel { r with rest, names } (b.add (depth + 1))
        | _ => none
      | none => none
    | '[' :: rest =>
      match readSet? r.options (2 * rest.length + 2) rest with
      | some (depth, rest) => readGroup? fuel { r with rest } (b.add depth)
      | none => none
    | '\\' :: rest =>
      match readEscape? r.options rest with
      | some (e, rest) =>
        if e.isAllowed r.options then readGroup? fuel { r with rest } (b.add 0) else none
      | none => none
    -- a count of repetitions would have to be closed by a brace
    | '\x7b' :: _ => none
    | c :: rest =>
      if c ∈ ['*', '+', '?'] then
        if b.repeatable then
          let rest := if rest.head? = some '?' then rest.tail else rest
          readGroup? fuel { r with rest } b.repeated
        else none
      else if c = '^' ∨ c = '$' then readGroup? fuel { r with rest } (b.add 0)
      else if c = '.' then
        if r.options.unicode then readGroup? fuel { r with rest } (b.add 0) else none
      else if allowsCharacter r.options c false then readGroup? fuel { r with rest } (b.add 0)
      else none

/-- How deeply an expression may be nested. -/
def maxDepth : Nat := 250

end Pattern

/-- Whether a text is a usable regular expression.  It may hold no closing brace, as no value of a
    log filter does. -/
def isPattern (s : List Char) : Bool :=
  match Pattern.readGroup? (s.length + 1) { rest := s } {} with
  | some (depth, r) => r.rest = [] && depth ≤ Pattern.maxDepth
  | none => false

end FlowDump.Text
