import FlowDump.Rehearsal.Regex
import FlowDump.Rehearsal.Toolbox.Columns

/-!
# Scripts for the editor of lines

* `Edit.Command` — a command with the lines that it is for.
* `Edit.Script.read` — the commands of a script, or the place of what is wrong with it.
-/

namespace FlowDump.Rehearsal.Toolbox

namespace Edit

/-! ### Commands -/

/-- An expression with the way in which it is looked for; without one it is the last one that was
    used. -/
structure Pattern where
  regex? : Option Regex
  fold : Bool := false
  deriving Inhabited

/-- A line by its number or by what is in it. -/
inductive Address where
  | line (n : Nat)
  | last
  | holds (p : Pattern)
  /-- A line and those that follow it at a distance. -/
  | every (first step : Nat)
  deriving Inhabited

/-- Where a range of lines ends. -/
inductive Finish where
  | address (a : Address)
  /-- So many lines later. -/
  | later (n : Nat)
  /-- At the next line whose number is a multiple. -/
  | multiple (n : Nat)
  deriving Inhabited

/-- A part of what is put in place of a match. -/
inductive Piece where
  | text (o : Octets)
  | group (n : Nat)
  /-- The letters that follow are of a case: `U`, `L`, `u` or `l`; `E` ends that. -/
  | case (letter : Char)
  deriving Inhabited

/-- What is put in place of matches. -/
structure Substitution where
  pattern : Pattern
  pieces : List Piece
  all : Bool := false
  /-- The first match that is replaced. -/
  first : Nat := 1
  prints : Bool := false
  file? : Option Octets := none
  deriving Inhabited

/-- What a command does. -/
inductive Action where
  /-- The commands up to one with a certain number are done only for these lines. -/
  | block (after : Nat)
  | finish
  | label (name : Octets)
  | substitute (s : Substitution)
  | exchange (source target : Octets)
  | append (o : Octets)
  | insert (o : Octets)
  | change (o : Octets)
  /-- Go on at a label, or at the end; always, or if something was replaced or was not. -/
  | jump (when? : Option Bool) (name : Octets)
  | readFile (path : Octets)
  | writeFile (path : Octets)
  /-- End with a code, after writing the line if it is not silent. -/
  | quit (silent : Bool) (code : Nat)
  /-- A command of one letter and nothing else. -/
  | plain (letter : Char)
  deriving Inhabited

/-- A command with the lines that it is for. -/
structure Command where
  first? : Option Address := none
  finish? : Option Finish := none
  /-- It is for all other lines. -/
  negated : Bool := false
  action : Action
  deriving Inhabited

/-! ### Reading -/

/-- How far a script has been read. -/
structure Reader where
  rest : Octets
  /-- How many characters have been read. -/
  count : Nat := 0
  line : Nat := 1
  extended : Bool := false
  deriving Inhabited

/-- Reading a script; what is wrong comes with the place and the line. -/
abbrev Reading := StateT Reader (Except (Nat × Nat × Octets))

/-- Give up. -/
def bad {α : Type} (message : Octets) : Reading α := do
  let r ← get
  throw (r.count, r.line, message)

/-- The next character. -/
def next? : Reading (Option Char) := do
  let r ← get
  match r.rest with
  | [] => return none
  | c :: rest =>
    set { r with rest, count := r.count + 1, line := if c = '\n' then r.line + 1 else r.line }
    return some c

/-- Go back before a character. -/
def back (c : Char) : Reading Unit :=
  modify fun r =>
    { r with
      rest := c :: r.rest, count := r.count - 1
      line := if c = '\n' then r.line - 1 else r.line }

/-- Read characters of a kind. -/
def readWhile (p : Char → Bool) : Reading Octets := do
  let r ← get
  let taken := r.rest.takeWhile p
  set { r with
    rest := r.rest.drop taken.length, count := r.count + taken.length
    line := r.line + taken.count '\n' }
  return taken

/-- Pass over blanks. -/
def passBlanks : Reading Unit := do
  let _ ← readWhile fun c => c = ' ' || c = '\t'

/-- The next character that is no blank. -/
def nextShown? : Reading (Option Char) := do
  passBlanks
  next?

/-- The number that starts with a digit. -/
def number (first : Char) : Reading Nat := do
  let digits := first :: (← readWhile Char.isDigit)
  return (Format.digits 10 digits.length 0 0 digits).2.1

/-- The text up to a mark; `none` if it is not there.  In an expression a bracket hides the mark. -/
def upTo (mark : Char) (isRegex : Bool) : (fuel : Nat) → (done : Octets) →
    Reading (Option Octets)
  | 0, _ => return none
  | fuel + 1, done => do
    match ← next? with
    | none => return none
    | some c =>
      if c = mark then return some done.reverse
      else if c = '\n' ∧ isRegex then
        back c
        return none
      else if c = '\\' then
        match ← next? with
        | none => return none
        | some d =>
          if d = mark then
            upTo mark isRegex fuel
              (if !isRegex ∧ d = '&' then d :: '\\' :: done else d :: done)
          else if d = 'n' ∧ isRegex then upTo mark isRegex fuel ('\n' :: done)
          else if d = '\n' ∧ isRegex then upTo mark isRegex fuel (d :: done)
          else upTo mark isRegex fuel (d :: '\\' :: done)
      else if c = '[' ∧ isRegex then
        let negation ← readWhile (· = '^')
        let first ← readWhile (· = ']')
        let inside ← readWhile fun d => d ≠ ']' && d ≠ '\n'
        match ← next? with
        | some ']' =>
          let all := c :: negation ++ first ++ inside ++ [']']
          upTo mark isRegex fuel (all.reverse ++ done)
        | some d =>
          back d
          return none
        | none => return none
      else upTo mark isRegex fuel (c :: done)

/-- The expression between two marks with the letters that follow it. -/
def pattern (text : Octets) (fold : Bool) : Reading Pattern := do
  let extended := (← get).extended
  if text = [] then return { regex? := none, fold }
  else if extended ∧ text.head?.any (· ∈ ['*', '+', '?']) then
    bad "Invalid preceding regular expression".toList
  else match Regex.parse extended text with
    | .ok r => return { regex? := some r, fold }
    | .error e => bad e.toList

/-- The expression of an address, from after its first mark on. -/
def addressPattern (mark : Char) : Reading Pattern := do
  match ← upTo mark true ((← get).rest.length + 1) [] with
  | none => bad "unterminated address regex".toList
  | some text =>
    let letters ← readWhile fun c => c = 'I' || c = 'M'
    pattern text ('I' ∈ letters)

/-- The address that starts with a character. -/
def address? (c : Char) : Reading (Option Address) := do
  if c = '/' then return some (.holds (← addressPattern '/'))
  else if c = '\\' then
    match ← next? with
    | some mark => return some (.holds (← addressPattern mark))
    | none => bad "unexpected `,'".toList
  else if c.isDigit then
    let n ← number c
    passBlanks
    match (← get).rest with
    | '~' :: d :: _ =>
      if d.isDigit then
        let _ ← next?
        let _ ← next?
        return some (.every n (← number d))
      else return some (.line n)
    | _ => return some (.line n)
  else if c = '$' then return some .last
  else return none

/-- Where a range ends, from its first character on. -/
def finish? (c : Char) : Reading (Option Finish) := do
  if c = '+' ∨ c = '~' then
    match ← next? with
    | some d =>
      if d.isDigit then
        let n ← number d
        return some (if c = '+' then .later n else .multiple n)
      else bad "expected number".toList
    | none => return none
  else return (← address? c).map .address

/-- Read the end of a command. -/
def endOfCommand : Reading Unit := do
  match ← nextShown? with
  | none | some '\n' | some ';' => return
  | some c =>
    if c = '\x7d' ∨ c = '#' then back c
    else bad "extra characters after command".toList

/-- The word that names a label. -/
def labelName (stops : Octets) : Reading Octets := do
  passBlanks
  let name ← readWhile fun c => !Octets.isBlank c && c ∉ stops
  return name

/-- The name of a file, up to the end of the line. -/
def fileName : Reading Octets := do
  passBlanks
  let name ← readWhile (· ≠ '\n')
  let _ ← next?
  if name = [] then bad "missing filename in r/R/w/W commands".toList
  return name

/-- A text up to the end of a line that is not behind a backslash; at most `fuel` characters. -/
def textLines : (fuel : Nat) → Reading Octets
  | 0 => return []
  | fuel + 1 => do
    match ← next? with
    | none => return ['\n']
    | some '\n' => return ['\n']
    | some '\\' =>
      match ← next? with
      | none => return ['\n']
      | some c => return c :: (← textLines fuel)
    | some c => return c :: (← textLines fuel)

/-- The text of a command that writes it. -/
def commandText : Reading Octets := do
  match ← nextShown? with
  | none => bad "expected \\ after `a', `c' or `i'".toList
  | some '\\' =>
    let r ← get
    let blanks := r.rest.takeWhile fun c => c = ' ' || c = '\t'
    match r.rest.drop blanks.length with
    | '\n' :: _ =>
      passBlanks
      let _ ← next?
    | _ => pure ()
    if (← get).rest = [] then bad "expected \\ after `a', `c' or `i'".toList
    textLines ((← get).rest.length + 1)
  | some c =>
    back c
    textLines ((← get).rest.length + 1)

/-- The pieces of what is put in place of matches. -/
def pieces : Octets → (text : Octets) → List Piece
  | [], text => if text = [] then [] else [.text text.reverse]
  | '\\' :: c :: rest, text =>
    let flush : List Piece := if text = [] then [] else [.text text.reverse]
    if c.isDigit then flush ++ .group (c.toNat - 48) :: pieces rest []
    else if c ∈ "ULulE".toList then flush ++ .case c :: pieces rest []
    else if c = '\n' ∨ c = '&' ∨ c = '\\' then pieces rest (c :: text)
    else pieces rest (((Format.letter? c).getD c) :: text)
  | '&' :: rest, text =>
    (if text = [] then [] else [.text text.reverse]) ++ .group 0 :: pieces rest []
  | c :: rest, text => pieces rest (c :: text)

/-- The options behind a substitution. -/
def substitutionFlags : (fuel : Nat) → (fold numbered : Bool) → Substitution →
    Reading (Bool × Substitution)
  | 0, fold, _, s => return (fold, s)
  | fuel + 1, fold, numbered, s => do
    match ← nextShown? with
    | none | some '\n' | some ';' => return (fold, s)
    | some c =>
      if c = '\x7d' ∨ c = '#' then
        back c
        return (fold, s)
      else if c = 'i' ∨ c = 'I' then substitutionFlags fuel true numbered s
      else if c = 'm' ∨ c = 'M' ∨ c = 'e' then substitutionFlags fuel fold numbered s
      else if c = 'g' then
        if s.all then bad "multiple `g' options to `s' command".toList
        substitutionFlags fuel fold numbered { s with all := true }
      else if c = 'p' then
        if s.prints then bad "multiple `p' options to `s' command".toList
        substitutionFlags fuel fold numbered { s with prints := true }
      else if c.isDigit then
        if numbered then bad "multiple number options to `s' command".toList
        let n ← number c
        if n = 0 then bad "number option to `s' command may not be zero".toList
        substitutionFlags fuel fold true { s with first := n }
      else if c = 'w' then return (fold, { s with file? := some (← fileName) })
      else bad "unknown option to `s'".toList

/-- The greatest number of a group among some pieces. -/
def greatestGroup (pieces : List Piece) : Nat :=
  (pieces.map fun
    | .group n => n
    | _ => 0).foldl max 0

/-- The substitution from after its letter on. -/
def substitution : Reading Substitution := do
  let missing {α : Type} : Reading α := bad "unterminated `s' command".toList
  match ← next? with
  | none => missing
  | some mark =>
    let length := (← get).rest.length + 1
    match ← upTo mark true length [] with
    | none => missing
    | some text =>
      match ← upTo mark false length [] with
      | none => missing
      | some target =>
        let pieces := pieces target []
        let (fold, s) ← substitutionFlags length false false
          { pattern := { regex? := none }, pieces }
        let p ← pattern text fold
        match p.regex? with
        | some r =>
          if r.groupCount < greatestGroup pieces then
            bad ("invalid reference \\".toList ++ Octets.ofNat (greatestGroup pieces) ++
              " on `s' command's RHS".toList)
        | none => pure ()
        return { s with pattern := p }

/-- The characters of a text in which a backslash quotes. -/
def bareText : Octets → Octets
  | [] => []
  | '\\' :: c :: rest => (if c = 'n' then '\n' else c) :: bareText rest
  | c :: rest => c :: bareText rest

/-- The exchange of characters from after its letter on. -/
def exchange : Reading Action := do
  let missing {α : Type} : Reading α := bad "unterminated `y' command".toList
  match ← next? with
  | none => missing
  | some mark =>
    let length := (← get).rest.length + 1
    match ← upTo mark false length [] with
    | none => missing
    | some source =>
      match ← upTo mark false length [] with
      | none => missing
      | some target =>
        let (source, target) := (bareText source, bareText target)
        if source.length ≠ target.length then
          bad "strings for `y' command are different lengths".toList
        endOfCommand
        return .exchange source target

/-- The number that may follow a command. -/
def code : Reading Nat := do
  match ← nextShown? with
  | none => return 0
  | some c =>
    if c.isDigit then number c
    else
      back c
      return 0

/-- What the letter of a command asks for. -/
def action (letter : Char) (count : Nat) : Reading Action := do
  if letter = 's' then return .substitute (← substitution)
  else if letter = 'y' then exchange
  else if letter = 'a' then return .append (← commandText)
  else if letter = 'i' then return .insert (← commandText)
  else if letter = 'c' then return .change (← commandText)
  else if letter = ':' then
    if count ≠ 0 then bad ": doesn't want any addresses".toList
    let name ← labelName [';']
    if name = [] then bad "\":\" lacks a label".toList
    return .label name
  else if letter = 'b' ∨ letter = 't' ∨ letter = 'T' then
    let name ← labelName [';', '\x7d']
    return .jump (if letter = 'b' then none else some (letter = 't')) name
  else if letter = 'q' ∨ letter = 'Q' then
    if 1 < count then bad "command only uses one address".toList
    let n ← code
    endOfCommand
    return .quit (letter = 'Q') n
  else if letter = 'r' then return .readFile (← fileName)
  else if letter = 'w' then return .writeFile (← fileName)
  else if letter = 'l' then
    let _ ← code
    endOfCommand
    return .plain letter
  else if letter = 'v' then
    let _ ← labelName [';']
    return .plain letter
  else if letter ∈ "=dDFgGhHnNpPxz".toList then
    endOfCommand
    return .plain letter
  else bad ("unknown command: `".toList ++ [letter, '\''])

/-- The addresses of a command from its first character on, and the letter of the command. -/
def addresses (c : Char) : Reading (Option Address × Option Finish × Bool × Char) := do
  if c = '+' ∨ c = '~' then
    let _ ← next?
    bad "invalid usage of +N or ~N as first address".toList
  let first? ← address? c
  let missing {α : Type} : Reading α := bad "missing command".toList
  let c? ← if first?.isSome then nextShown? else pure (some c)
  let (finish?, c?) ← match first?.isSome, c? with
    | true, some ',' => do
      match ← nextShown? with
      | none => bad "unexpected `,'".toList
      | some d =>
        match ← finish? d with
        | none => bad "unexpected `,'".toList
        | some f => pure (some f, ← nextShown?)
    | _, c? => pure (none, c?)
  let isZero : Bool := match first? with
    | some (.line 0) => true
    | _ => false
  let endsInMatch : Bool := match finish? with
    | some (.address (.holds _)) => true
    | _ => false
  if isZero && !endsInMatch then bad "invalid usage of line address 0".toList
  match c? with
  | none => missing
  | some '!' =>
    let rec shown : (fuel : Nat) → Reading Char
      | 0 => missing
      | fuel + 1 => do
        match ← nextShown? with
        | none => missing
        | some '!' => bad "multiple `!'s".toList
        | some d => if Octets.isBlank d then shown fuel else return d
    return (first?, finish?, true, ← shown ((← get).rest.length + 1))
  | some c => return (first?, finish?, false, c)

/-- The commands of a script, after those that were read, with the numbers of the blocks that are
    open; at most `fuel` of them. -/
def commands : (fuel : Nat) → Array Command → (opened : List Nat) →
    Reading (Array Command × List Nat)
  | 0, done, opened => return (done, opened)
  | fuel + 1, done, opened => do
    let _ ← readWhile fun c => Octets.isBlank c || c = ';'
    match ← next? with
    | none => return (done, opened)
    | some '#' =>
      let _ ← readWhile (· ≠ '\n')
      commands fuel done opened
    | some c =>
      let (first?, finish?, negated, letter) ← addresses c
      let count := first?.toList.length + finish?.toList.length
      if letter = '#' ∧ count ≠ 0 then bad "comments don't accept any addresses".toList
      if letter = '\x7b' then
        let command := { first?, finish?, negated, action := .block 0 }
        commands fuel (done.push command) (done.size :: opened)
      else if letter = '\x7d' then
        match opened with
        | [] => bad "unexpected `\x7d'".toList
        | start :: opened =>
          if count ≠ 0 then bad "\x7d doesn't want any addresses".toList
          let close (c : Command) : Command := { c with action := .block (done.size + 1) }
          endOfCommand
          commands fuel ((done.modify start close).push { action := .finish }) opened
      else
        let action ← action letter count
        commands fuel (done.push { first?, finish?, negated, action }) opened

/-- The commands of several scripts one after the other, each with its name.  What is wrong comes
    with the name and the place. -/
def Script.read (extended : Bool) (scripts : List (Octets × Bool × Octets)) :
    Except Octets (Array Command) :=
  let place (name : Octets) (isFile : Bool) (count line : Nat) : Octets :=
    if isFile then "file ".toList ++ name ++ " line ".toList ++ Octets.ofNat line ++ ": ".toList
    else name ++ ", char ".toList ++ Octets.ofNat count ++ ": ".toList
  let rec go (last : Octets) : List (Octets × Bool × Octets) → Array Command → List Nat →
      Except Octets (Array Command)
    | [], done, [] => .ok done
    | [], _, _ :: _ => .error (last ++ ", char 0: unmatched `\x7b'".toList)
    | (name, isFile, text) :: rest, done, opened =>
      match (commands (text.length + 2) done opened).run { rest := text, extended } with
      | .ok ((done, opened), _) => go name rest done opened
      | .error (count, line, message) => .error (place name isFile count line ++ message)
  go [] scripts #[] []

end Edit

end FlowDump.Rehearsal.Toolbox
