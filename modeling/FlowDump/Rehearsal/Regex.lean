import FlowDump.Rehearsal.Shell.Glob

/-!
# Regular expressions

Expressions over bytes in the two notations of the system: in the plain one brackets, braces and
bars mean something only behind a backslash, in the extended one they do so without it.

* `Regex` — expressions.
* `Regex.parse` — the expression that a text is, or why it is none.
* `Regex.find?` — the first place where an expression is found, and the longest text there.
-/

namespace FlowDump.Rehearsal

open Shell (Glob.Member)

/-- Expressions. -/
inductive Regex where
  | empty
  | one (c : Char)
  | any
  | oneOf (negated : Bool) (members : List Glob.Member)
  /-- The start and the end of the text. -/
  | start
  | finish
  /-- The start and the end of a word, or either of them, or neither. -/
  | wordStart
  | wordEnd
  | edge (holds : Bool)
  | group (n : Nat) (r : Regex)
  /-- The text of a group once more. -/
  | back (n : Nat)
  | both (a b : Regex)
  | either (a b : Regex)
  | repeated (r : Regex) (least : Nat) (most? : Option Nat)
  deriving Inhabited

namespace Regex

/-! ### Matching -/

/-- A place in a text, with the groups on the way there: their numbers, starts and ends. -/
structure Place where
  index : Nat
  groups : List (Nat × Nat × Nat) := []
  deriving DecidableEq, Repr, Inhabited

/-- The start and the end of a group; of several the last one. -/
def Place.group? (p : Place) (n : Nat) : Option (Nat × Nat) :=
  (p.groups.find? fun g => g.1 = n).map (·.2)

/-- Whether a character stands in words. -/
def isInWord (c : Char) : Bool := c.isAlphanum || c = '_'

/-- Whether two characters are the same, in letters of either case if `fold` says so. -/
def same (fold : Bool) (a b : Char) : Bool :=
  a = b || (fold && a.toLower = b.toLower)

/-- Places without those at which another one stands before them. -/
def firstPlaces (places : List Place) : List Place :=
  (places.foldl (fun kept p => if kept.any (·.index = p.index) then kept else p :: kept) []).reverse

/-- The places at which an expression may end that starts at a place, preferred ones first; at most
    `fuel` repetitions are tried. -/
def ends (fold : Bool) (text : Array Char) (fuel : Nat) (r : Regex) (p : Place) : List Place :=
  let inWordBefore : Bool := p.index ≠ 0 && (text[p.index - 1]?.any isInWord)
  let inWordAfter : Bool := text[p.index]?.any isInWord
  let next : Place := { p with index := p.index + 1 }
  match r with
  | empty => [p]
  | one c => if text[p.index]?.any (same fold c) then [next] else []
  | any => if p.index < text.size then [next] else []
  | oneOf negated members =>
    let holds (c : Char) : Bool := members.any fun m =>
      m.holds c || (fold && (m.holds c.toLower || m.holds c.toUpper))
    if text[p.index]?.any fun c => holds c != negated then [next] else []
  | start => if p.index = 0 then [p] else []
  | finish => if p.index = text.size then [p] else []
  | wordStart => if inWordAfter && !inWordBefore then [p] else []
  | wordEnd => if inWordBefore && !inWordAfter then [p] else []
  | edge holds => if (inWordBefore != inWordAfter) = holds then [p] else []
  | group n r =>
    (ends fold text fuel r p).map fun q =>
      { q with groups := (n, p.index, q.index) :: q.groups.filter fun g => g.1 ≠ n }
  | back n =>
    match p.group? n with
    | none => []
    | some (first, last) =>
      let part := text.extract first last
      let there := text.extract p.index (p.index + part.size)
      if there.size = part.size ∧ (part.toList.zip there.toList).all fun c => same fold c.1 c.2 then
        [{ p with index := p.index + part.size }]
      else []
  | both a b => firstPlaces ((ends fold text fuel a p).flatMap (ends fold text fuel b))
  | either a b => firstPlaces (ends fold text fuel a p ++ ends fold text fuel b p)
  | repeated r least most? =>
    let step (q : Place) : List Place := ends fold text fuel r q
    let rec turns : (fuel count : Nat) → (from' done : List Place) → List Place
      | 0, _, _, done => done
      | fuel + 1, count, from', done =>
        -- the places reached with one more repetition come first
        if most?.any (· ≤ count) then done
        else
          let reached := firstPlaces (from'.flatMap step)
          let fresh := if count < least then reached
            else reached.filter fun q => !done.any (·.index = q.index)
          if fresh = [] then (if count < least then [] else done)
          else
            let count := count + 1
            turns fuel count fresh (if least ≤ count then fresh ++ done else done)
    turns (fuel + least + 1) 0 [p] (if least = 0 then [p] else [])

/-- The first place from an index on where an expression is found, and the longest text there. -/
def find? (fold : Bool) (r : Regex) (text : Array Char) (first : Nat) : Option (Nat × Place) :=
  let longest (found : List Place) : Option Place :=
    found.foldl
      (fun best q => match best with
        | some b => if b.index < q.index then some q else some b
        | none => some q)
      none
  (List.range (text.size + 1 - first)).findSome? fun i =>
    let i := first + i
    (longest (ends fold text text.size r { index := i })).map (i, ·)

/-- The same in a text that has to be of the form of the expression from an index on. -/
def matchAt? (fold : Bool) (r : Regex) (text : Array Char) (index : Nat) : Option Place :=
  (ends fold text text.size r { index }).foldl
    (fun best q => match best with
      | some b => if b.index < q.index then some q else some b
      | none => some q)
    none

/-- The greatest number of a group. -/
def groupCount : Regex → Nat
  | group n r => max n r.groupCount
  | both a b | either a b => max a.groupCount b.groupCount
  | repeated r _ _ => r.groupCount
  | _ => 0

/-! ### Reading -/

/-- How far an expression has been read. -/
structure Reader where
  extended : Bool
  rest : Octets
  /-- The groups so far, and those that are closed. -/
  groups : Nat := 0
  closed : List Nat := []

/-- Reading a part of an expression. -/
abbrev Read := StateT Reader (Except String)

/-- The members of a set up to its closing bracket; at most `fuel` of them. -/
def members : (fuel : Nat) → (isFirst : Bool) → Octets →
    Except String (List Glob.Member × Octets)
  | 0, _, _ => throw "Invalid regular expression"
  | _ + 1, _, [] => throw "Invalid regular expression"
  | fuel + 1, isFirst, c :: rest => do
    if c = ']' ∧ !isFirst then return ([], rest)
    else match c, rest with
      | '[', ':' :: s =>
        let name := s.takeWhile Char.isAlpha
        match s.drop name.length with
        | ':' :: ']' :: rest =>
          let (ms, rest) ← members fuel false rest
          return (.named name :: ms, rest)
        | _ => throw "Invalid regular expression"
      | c, '-' :: last :: after =>
        if last = ']' then
          let (ms, rest) ← members fuel false rest
          return (.range c c :: ms, rest)
        else if last < c then throw "Invalid range end"
        else
          let (ms, rest) ← members fuel false after
          return (.range c last :: ms, rest)
      | c, rest =>
        let (ms, rest) ← members fuel false rest
        return (.range c c :: ms, rest)

/-- The digits at the front of a text. -/
def leadingNumber? (o : Octets) : Option Nat × Octets :=
  let digits := o.takeWhile Char.isDigit
  (if digits = [] then none else some (digits.foldl (fun n c => n * 10 + (c.toNat - 48)) 0),
    o.drop digits.length)

/-- The bounds of a repetition, from after the opening brace on. -/
def bounds? (extended : Bool) (o : Octets) : Option ((Nat × Option Nat) × Octets) :=
  let (least?, rest) := leadingNumber? o
  let (most?, rest) : Option (Option Nat) × Octets := match rest with
    | ',' :: rest =>
      let (most?, rest) := leadingNumber? rest
      (some most?, rest)
    | rest => (least?.map some, rest)
  match most? with
  | none => none
  | some most? =>
    let closed? := match extended, rest with
      | true, '\x7d' :: rest => some rest
      | false, '\\' :: '\x7d' :: rest => some rest
      | _, _ => none
    closed?.map fun rest => ((least?.getD 0, most?), rest)

/-- What a letter behind a backslash stands for, in either notation. -/
def escape? (c : Char) : Option Regex :=
  let word : List Glob.Member := [.named "alnum".toList, .range '_' '_']
  match c with
  | 'w' => some (.oneOf false word)
  | 'W' => some (.oneOf true word)
  | 's' => some (.oneOf false [.named "space".toList])
  | 'S' => some (.oneOf true [.named "space".toList])
  | '<' => some .wordStart
  | '>' => some .wordEnd
  | 'b' => some (.edge true)
  | 'B' => some (.edge false)
  | '\x60' => some .start
  | '\'' => some .finish
  | 'n' => some (.one '\n')
  | 't' => some (.one '\t')
  | _ => none

/-- An expression after the repetitions that follow it; at most `fuel` of them. -/
def postfixes : (fuel : Nat) → Regex → Read Regex
  | 0, r => return r
  | fuel + 1, r => do
    let s ← get
    let go (least : Nat) (most? : Option Nat) (rest : Octets) : Read Regex := do
      set { s with rest }
      postfixes fuel (.repeated r least most?)
    match s.extended, s.rest with
    | _, '*' :: rest => go 0 none rest
    | true, '+' :: rest => go 1 none rest
    | true, '?' :: rest => go 0 (some 1) rest
    | false, '\\' :: '+' :: rest => go 1 none rest
    | false, '\\' :: '?' :: rest => go 0 (some 1) rest
    | true, '\x7b' :: rest =>
      match bounds? true rest with
      | some ((least, most?), rest) => go least most? rest
      | none => return r
    | false, '\\' :: '\x7b' :: rest =>
      match bounds? false rest with
      | some ((least, most?), rest) => go least most? rest
      | none => throw "Unmatched \\\x7b"
    | _, _ => return r

mutual

/-- Expressions one of which is found. -/
def alternatives : (fuel : Nat) → (depth : Nat) → Read Regex
  | 0, _ => throw "Regular expression too big"
  | fuel + 1, depth => do
    let first ← sequence fuel depth true .empty
    let s ← get
    let bar? : Option Octets := match s.extended, s.rest with
      | true, '|' :: rest => some rest
      | false, '\\' :: '|' :: rest => some rest
      | _, _ => none
    match bar? with
    | some rest =>
      set { s with rest }
      return .either first (← alternatives fuel depth)
    | none => return first

/-- Expressions one after the other, after some that have been read. -/
def sequence : (fuel : Nat) → (depth : Nat) → (isFirst : Bool) → Regex → Read Regex
  | 0, _, _, _ => throw "Regular expression too big"
  | fuel + 1, depth, isFirst, before => do
    let s ← get
    let closes : Bool := match s.extended, s.rest with
      | _, [] => true
      | true, '|' :: _ => true
      | true, ')' :: _ => 0 < depth
      | false, '\\' :: '|' :: _ => true
      | false, '\\' :: ')' :: _ => true
      | _, _ => false
    if closes then return before
    let r ← atom fuel depth isFirst
    let isStart : Bool := match r with
      | .start => true
      | _ => false
    let r ← if isStart && !s.extended then pure r else postfixes (fuel + 1) r
    sequence fuel depth (isStart && !s.extended) (.both before r)

/-- A single expression. -/
def atom : (fuel : Nat) → (depth : Nat) → (isFirst : Bool) → Read Regex
  | 0, _, _ => throw "Regular expression too big"
  | fuel + 1, depth, isFirst => do
    let s ← get
    let go (r : Regex) (rest : Octets) : Read Regex := do
      set { s with rest }
      return r
    let grouped (rest : Octets) : Read Regex := do
      let n := s.groups + 1
      set { s with rest, groups := n }
      let r ← alternatives fuel (depth + 1)
      let s ← get
      let rest? : Option Octets := match s.extended, s.rest with
        | true, ')' :: rest => some rest
        | false, '\\' :: ')' :: rest => some rest
        | _, _ => none
      match rest? with
      | some rest =>
        set { s with rest, closed := n :: s.closed }
        return .group n r
      | none => throw "Unmatched ( or \\("
    match s.rest with
    | [] => return .empty
    | '\\' :: [] => throw "Trailing backslash"
    | '\\' :: c :: rest =>
      if c = '(' ∧ !s.extended then grouped rest
      else if c.isDigit ∧ c ≠ '0' then
        let n := c.toNat - 48
        if n ∈ s.closed then go (.back n) rest else throw "Invalid back reference"
      else go ((escape? c).getD (.one c)) rest
    | '[' :: rest =>
      let (negated, rest) := match rest with
        | '^' :: rest => (true, rest)
        | rest => (false, rest)
      let (ms, rest) ← members (rest.length + 1) true rest
      go (.oneOf negated ms) rest
    | '.' :: rest => go .any rest
    | '(' :: rest => if s.extended then grouped rest else go (.one '(') rest
    | ')' :: rest =>
      if s.extended then throw "Unmatched ) or \\)" else go (.one ')') rest
    | '^' :: rest => if s.extended ∨ isFirst then go .start rest else go (.one '^') rest
    | '$' :: rest =>
      let isLast : Bool := match rest with
        | [] => true
        | '\\' :: ')' :: _ | '\\' :: '|' :: _ => true
        | _ => false
      if s.extended ∨ isLast then go .finish rest else go (.one '$') rest
    | c :: rest => go (.one c) rest

end

/-- The expression that a text is, or why it is none. -/
def parse (extended : Bool) (o : Octets) : Except String Regex := do
  let (r, s) ← (alternatives (2 * o.length + 4) 0).run { extended, rest := o }
  if s.rest ≠ [] then throw "Unmatched ) or \\)"
  return r

/-- The expression that stands for a text. -/
def literal (o : Octets) : Regex := o.foldl (fun r c => .both r (.one c)) .empty

end Regex

end FlowDump.Rehearsal
