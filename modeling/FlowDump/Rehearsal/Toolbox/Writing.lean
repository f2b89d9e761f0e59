import FlowDump.Rehearsal.Format
import FlowDump.Rehearsal.Toolbox.Options

/-!
# Programs that write texts

* `Toolbox.echo`, `Toolbox.printf` — the arguments, and a format with the arguments in it.
* `Toolbox.basename`, `Toolbox.dirname` — the parts of a path.
* `Toolbox.pwd`, `Toolbox.printenv` — the directory and the environment.
* `Toolbox.seq`, `Toolbox.yes` — numbers, and the same line over and over.
-/

namespace FlowDump.Rehearsal.Toolbox

/-- Words with blanks between them. -/
def spaced (words : List Octets) : Octets := (words.intersperse [' ']).flatten

/-- Refuse operands that are too many. -/
def extra {α : Type} (o : Octets) (code : UInt8 := 1) : Work α :=
  Work.misused ("extra operand ".toList ++ quoted o) code

/-! ### Texts -/

/-- The options in front of the words for `echo`: letters `n`, `e` and `E` behind a dash. -/
def echoOptions : List Octets → Octets × List Octets
  | ('-' :: c :: cs) :: rest =>
    if (c :: cs).all (· ∈ ['n', 'e', 'E']) then
      let (letters, rest) := echoOptions rest
      (c :: cs ++ letters, rest)
    else ([], ('-' :: c :: cs) :: rest)
  | words => ([], words)

/-- Write the arguments with blanks between them. -/
def echo : Work UInt8 := do
  let words := (← read).arguments
  if words = ["--help".toList] ∨ words = ["--version".toList] then return 0
  let (letters, words) := echoOptions words
  let text := spaced words
  let escapes := (letters.filter (· ≠ 'n')).getLast? = some 'e'
  let (o, ended) := if escapes then Format.unescape true (text.length + 1) text else (text, false)
  Work.say (if 'n' ∈ letters ∨ ended then o else o ++ ['\n'])
  return 0

/-- What is said about values and formats. -/
def formatStyle : Format.Style :=
  { noNumber := fun o => quoted o ++ ": expected a numeric value".toList
    notWhole := fun o => quoted o ++ ": value not completely converted".toList
    tooLarge := fun o => quoted o ++ ": Numerical result out of range".toList
    unknown := fun o => o ++ ": invalid conversion specification".toList
    unfinished := fun o => o ++ ": invalid conversion specification".toList
    extended := true
    quoted? := some quotedIfNeeded }

/-- Write a format. -/
def printf : Work UInt8 := do
  let words := (← read).arguments
  if words = ["--help".toList] ∨ words = ["--version".toList] then return 0
  let words := if words.head? = some "--".toList then words.tail else words
  match words with
  | [] => Work.misused "missing operand".toList
  | format :: arguments =>
    let p := Format.print formatStyle format arguments
    let output := p.output.reverse
    let mut done := 0
    -- what was printed before a complaint is written before it
    for (n, c) in p.complaints.reverse do
      Work.say ((output.take n).drop done)
      Work.complain c
      done := n
    Work.say (output.drop done)
    match p.refusal?, p.arguments with
    | some refusal, _ => Work.refuse refusal
    | none, o :: _ =>
      if !p.ended then
        Work.complain
          ("warning: ignoring excess arguments, starting with ".toList ++ quoted o)
    | none, [] => pure ()
    return if p.complaints = [] then 0 else 1

/-! ### Paths -/

/-- A text without the slashes at its end. -/
def withoutSlashes (o : Octets) : Octets := (o.reverse.dropWhile (· = '/')).reverse

/-- The last part of a path. -/
def lastPart (path : Octets) : Octets :=
  match withoutSlashes path with
  | [] => path.take 1
  | o => (o.reverse.takeWhile (· ≠ '/')).reverse

/-- A path without its last part. -/
def parentPart (path : Octets) : Octets :=
  let o := (withoutSlashes path).reverse.dropWhile (· ≠ '/')
  match withoutSlashes o.reverse with
  | [] => if path.head? = some '/' then ['/'] else ['.']
  | o => o

/-- Write the last parts of paths, without an ending. -/
def basename : Work UInt8 := do
  let o ← Options.read
    { switches := flags "az" ++ [{ letters := "s", names := ["suffix"], arity := .one }]
      mixed := false }
  let (paths, ending) ← match o.operands, (o.has "a" || o.has "s" : Bool) with
    | [], _ => Work.misused "missing operand".toList
    | paths, true => pure (paths, (o.value? "s").getD [])
    | [path], false => pure ([path], [])
    | [path, ending], false => pure ([path], ending)
    | _ :: _ :: more :: _, false => extra more
  for path in paths do
    let part := lastPart path
    let ends := ending ≠ [] ∧ part ≠ ending ∧ ending.isSuffixOf part ∧ part ≠ ['/']
    Work.say ((if ends then part.take (part.length - ending.length) else part) ++ ['\n'])
  return 0

/-- Write the paths of what is above some paths. -/
def dirname : Work UInt8 := do
  let o ← Options.read { switches := flags "z" }
  if o.operands = [] then Work.misused "missing operand".toList
  for path in o.operands do Work.say (parentPart path ++ ['\n'])
  return 0

/-! ### Surroundings -/

/-- Write the directory. -/
def pwd : Work UInt8 := do
  let o ← Options.read
    { switches := [{ letters := "L", names := ["logical"] },
        { letters := "P", names := ["physical"] }] }
  if o.operands ≠ [] then Work.complain "ignoring non-option arguments".toList
  Work.say (System.pathOf (← Work.files).here ++ ['\n'])
  return 0

/-- Write an environment. -/
def writeEnvironment (environment : List (Octets × Octets)) : Work Unit := do
  for (name, value) in environment do Work.say (name ++ '=' :: value ++ ['\n'])

/-- Write the values of variables, or all of the environment. -/
def printenv : Work UInt8 := do
  let o ← Options.read { switches := flags "0", mixed := false, code := 2 }
  let environment := (← MonadReader.read).environment
  if o.operands = [] then
    writeEnvironment environment
    return 0
  Work.forEach o.operands fun name => do
    match environment.find? fun v => v.1 = name with
    | some (_, value) =>
      Work.say (value ++ ['\n'])
      return 0
    | none => return 1

/-! ### Lines -/

/-- A number as it was written: its value so many places after the point, and these places. -/
structure Written where
  digits : Int
  places : Nat
  deriving Inhabited

/-- The number that a text is. -/
def Written.read? (o : Octets) : Option Written :=
  let (negative, o) := match o with
    | '-' :: rest => (true, rest)
    | '+' :: rest => (false, rest)
    | o => (false, o)
  let whole := o.takeWhile Char.isDigit
  let after? := match o.drop whole.length with
    | [] => some []
    | '.' :: rest => if rest.all Char.isDigit then some rest else none
    | _ => none
  match after? with
  | none => none
  | some part =>
    if whole = [] ∧ part = [] then none
    else
      let all := whole ++ part
      let n : Int := ((Format.digits 10 all.length 0 0 all).2.1 : Nat)
      some { digits := if negative then -n else n, places := part.length }

/-- The value with more places. -/
def Written.scaled (w : Written) (places : Nat) : Int := w.digits * Nat.pow 10 (places - w.places)

/-- A number so many places after the point, with zeros in front up to a width. -/
def fixed (places width : Nat) (n : Int) : Octets :=
  let digits := Format.Fraction.withPoint false places n.natAbs
  let sign : Octets := if n < 0 then ['-'] else []
  sign ++ List.replicate (width - sign.length - digits.length) '0' ++ digits

/-- Write the numbers from one to another. -/
def seq : Work UInt8 := do
  let o ← Options.read
    { switches := [{ letters := "s", names := ["separator"], arity := .one },
        { letters := "f", names := ["format"], arity := .one },
        { letters := "w", names := ["equal-width"] }]
      mixed := false, numbers := true }
  let number (word : Octets) : Work Written := do
    match Written.read? word with
    | some w => return w
    | none => Work.misused ("invalid floating point argument: ".toList ++ quoted word)
  let one : Written := ⟨1, 0⟩
  let (first, step, last) ← match o.operands with
    | [] => Work.misused "missing operand".toList
    | [last] => pure (one, one, ← number last)
    | [first, last] =>
      let first ← number first
      pure (first, one, ← number last)
    | [first, step, last] =>
      let first ← number first
      let w ← number step
      if w.digits = 0 then
        Work.misused ("invalid Zero increment value: ".toList ++ quoted step)
      pure (first, w, ← number last)
    | _ :: _ :: _ :: more :: _ => extra more
  let places := max first.places step.places
  let scale := max places last.places
  let (a, d, b) := (first.scaled scale, step.scaled scale, last.scaled scale)
  let count : Nat := if 0 < d then (b - a + d).fdiv d |>.toNat else (a - b - d).fdiv (-d) |>.toNat
  let shown (width : Nat) (n : Int) : Octets :=
    fixed places width (n.tdiv (Nat.pow 10 (scale - places)))
  let width := if o.has "w" then max (shown 0 a).length (shown 0 b).length else 0
  let lines := (List.range count).map fun (i : Nat) => shown width (a + d * i)
  let separator := (o.value? "s").getD ['\n']
  if lines ≠ [] then Work.say ((lines.intersperse separator).flatten ++ ['\n'])
  return 0

/-- How many lines are written where there would be no end. -/
def endless : Nat := 4096

/-- Write the same line over and over. -/
def yes : Work UInt8 := do
  let words := (← read).arguments
  let line := (if words = [] then ['y'] else spaced words) ++ ['\n']
  Work.say (List.replicate endless line).flatten
  return 0

end FlowDump.Rehearsal.Toolbox
