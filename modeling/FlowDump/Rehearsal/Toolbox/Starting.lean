import FlowDump.Rehearsal.Shell.Builtin.Basic
import FlowDump.Rehearsal.Toolbox.Listing
import FlowDump.Rehearsal.Toolbox.Files

/-!
# Programs that start other programs

* `Toolbox.sleep` — let time pass.
* `Toolbox.timeout` — a program that is sent a signal if it takes too long.
* `Toolbox.env`, `Toolbox.nice`, `Toolbox.nohup`, `Toolbox.setsid` — a program in other
  surroundings.
* `Toolbox.xargs` — a program with arguments from the input.
-/

namespace FlowDump.Rehearsal.Toolbox

/-! ### Starts -/

/-- Start one of the programs at some paths; a file that may not be run is passed over, and
    the shell runs one that is no program. -/
def startOne (launch : Launch) (call : Call) : List Octets → SystemError →
    Work (Except SystemError Exit)
  | [], e => return .error e
  | path :: paths, e => do
    let bench ← get
    let (result, system) := launch.orScript path call bench.system
    set { bench with system }
    match result with
    | .ok exit => return .ok exit
    | .error f =>
      if f = .notFound ∨ f = .notADirectory then startOne launch call paths e
      else if f = .permissionDenied then startOne launch call paths f
      else return .error f

/-- Start a program with some words. -/
def start (launch : Launch) (call : Call) (words : List Octets) :
    Work (Except SystemError Exit) :=
  let call := { call with name := words.headD [], arguments := words.tail }
  if call.name = [] then return .error .notFound
  else startOne launch call (candidates call.environment call.name) .notFound

/-- The code for a program that cannot be started. -/
def startCode (e : SystemError) : UInt8 := if e = .notFound then 127 else 126

/-- Become a program with some words, or say why it cannot be. -/
def become (launch : Launch) (call : Call) (words : List Octets)
    (complaint : Octets → Octets) : Work UInt8 := do
  match ← start launch call words with
  | .ok exit => throw exit
  | .error e => failing (about (complaint (words.headD [])) e) (startCode e)

/-! ### Time -/

/-- The milliseconds of a time with a letter for its unit. -/
def millis? (o : Octets) : Option Nat :=
  match o.head? with
  | some c =>
    if c = '-' ∨ Octets.isBlank c then none
    else match Format.Fraction.read? o with
      | none => none
      | some (f, rest) =>
        let unit? := match rest with
          | [] | ['s'] => some 1
          | ['m'] => some 60
          | ['h'] => some 3600
          | ['d'] => some 86400
          | _ => none
        unit?.map fun unit =>
          (f.numerator * 1000 * unit + f.denominator - 1) / f.denominator
  | none => none

/-- The milliseconds of a time, or the end for what is none. -/
def millis (code : UInt8) (o : Octets) : Work Nat := do
  match millis? o with
  | some n => return n
  | none => Work.misused ("invalid time interval ".toList ++ quoted o) code

/-- Let time pass. -/
def sleep : Work UInt8 := do
  let o ← Options.read { switches := [] }
  if o.operands = [] then Work.misused "missing operand".toList
  let mut sum := 0
  let mut bad := false
  for word in o.operands do
    match millis? word with
    | some n => sum := sum + n
    | none =>
      Work.complain ("invalid time interval ".toList ++ quoted word)
      bad := true
  if bad then
    Work.hint
    return 1
  let bench ← get
  let (signal?, system) := bench.system.sleep sum
  set { bench with system }
  match signal? with
  | some signal =>
    if signal.number ∈ (← MonadReader.read).ignored ∧ signal.number ≠ 9 then return 0
    else throw (.signal signal)
  | none => return 0

/-- The signal that a word names, with or without the letters in front of all names. -/
def signal? (o : Octets) : Option Signal :=
  let bare := if "SIG".toList.isPrefixOf (o.map Char.toUpper) then o.drop 3 else o
  (Shell.Builtin.signal? 1 bare).map Signal.mk

/-- Run a program that is sent a signal if it takes too long. -/
def timeout (launch : Launch) : Work UInt8 := do
  let o ← Options.read
    { switches :=
        [ { letters := "f", names := ["foreground"] },
          { letters := "p", names := ["preserve-status"] },
          { letters := "k", names := ["kill-after"], arity := .one },
          { letters := "s", names := ["signal"], arity := .one },
          { letters := "v", names := ["verbose"] } ]
      mixed := false, code := 125 }
  let signal ← match o.value? "s" with
    | none => pure Signal.terminate
    | some word => match signal? word with
      | some signal => pure signal
      | none => Work.misused (quoted word ++ ": invalid signal".toList) 125
  match o.value? "k" with
  | some word =>
    let _ ← millis 125 word
  | none => pure ()
  match o.operands with
  | [] | [_] =>
    Work.hint
    return 125
  | time :: words =>
    let n ← millis 125 time
    let before := (← get).system
    let (number, system) := before.start
    let deadline : Deadline := { time := before.slept + n, first := number, signal }
    let isFirst : Bool := n ≠ 0 && before.deadline?.all fun d => deadline.time < d.time
    let deadline? := if isFirst then some deadline else before.deadline?
    alter fun _ => { system with deadline? }
    let call := { (← MonadReader.read) with number, caller := (← MonadReader.read).number }
    let result ← start launch call words
    let expired := isFirst && (← get).system.deadline?.isNone
    alter fun s =>
      { s.stop number with deadline? := if isFirst then before.deadline? else s.deadline? }
    match result with
    | .error e =>
      failing (about ("failed to run command ".toList ++ quoted (words.headD [])) e) (startCode e)
    | .ok exit =>
      if expired then
        if signal.number = 9 then throw (.signal signal)
        if !o.has "p" then return 124
        return match exit with
          | .code n => n
          | .signal s => UInt8.ofNat (128 + s.number)
      else throw exit

/-! ### Surroundings -/

/-- An environment with a variable. -/
def withVariable (environment : List (Octets × Octets)) (name value : Octets) :
    List (Octets × Octets) :=
  Members.insert name value environment

/-- Run a program in another environment, or write the environment. -/
def env (launch : Launch) : Work UInt8 := do
  let o ← Options.read
    { switches :=
        [ { letters := "i", names := ["ignore-environment"] },
          { letters := "0", names := ["null"] },
          { letters := "u", names := ["unset"], arity := .one },
          { letters := "C", names := ["chdir"], arity := .one },
          { letters := "S", names := ["split-string"], arity := .one },
          { letters := "v", names := ["debug"] } ]
      mixed := false, code := 125 }
  let call ← MonadReader.read
  let (isBare, words) := match o.operands with
    | ['-'] :: words => (true, words)
    | words => (o.has "i", words)
  let words := (o.values "S").flatMap Octets.words ++ words
  let unset := o.values "u"
  let environment := if isBare then [] else call.environment.filter fun v => !unset.contains v.1
  let assignments := words.takeWhile ('=' ∈ ·)
  let environment := assignments.foldl
    (fun vars word =>
      let name := word.takeWhile (· ≠ '=')
      withVariable vars name (word.drop (name.length + 1)))
    environment
  match o.value? "C" with
  | some path =>
    match ← Work.look path, ← Work.place path with
    | .ok .directory, .ok l => alter fun s => { s with files := { s.files with here := l } }
    | .ok _, _ =>
      Work.refuse (about ("cannot change directory to ".toList ++ quoted path) .notADirectory) 125
    | .error e, _ =>
      Work.refuse (about ("cannot change directory to ".toList ++ quoted path) e) 125
  | none => pure ()
  match words.drop assignments.length with
  | [] =>
    for (name, value) in environment do
      Work.say (name ++ '=' :: value ++ [if o.has "0" then '\x00' else '\n'])
    return 0
  | words =>
    let code ← become launch { call with environment } words quoted
    if code = 127 ∧ ' ' ∈ words.headD [] then
      Work.complain "use -[v]S to pass options in shebang lines".toList
    return code

/-- Run a program with another share of the time. -/
def nice (launch : Launch) : Work UInt8 := do
  let call ← read
  -- a number may stand behind the dash alone
  let arguments := match call.arguments with
    | ('-' :: c :: cs) :: rest =>
      if c.isDigit ∨ (c = '-' ∧ cs.head?.any Char.isDigit) then "-n".toList :: (c :: cs) :: rest
      else call.arguments
    | all => all
  let o ← withReader (fun call => { call with arguments }) (Options.read
    { switches := [{ letters := "n", names := ["adjustment"], arity := .one }]
      mixed := false, code := 125 })
  match o.value? "n" with
  | some word =>
    if (Decimal.readSigned? word).isNone then
      Work.refuse ("invalid adjustment ".toList ++ quoted word) 125
    if o.operands = [] then Work.misused "a command must be given with an adjustment".toList 125
  | none => pure ()
  if o.operands = [] then
    Work.say "0\n".toList
    return 0
  become launch call o.operands quoted

/-- Run a program that does not end when the terminal is gone. -/
def nohup (launch : Launch) : Work UInt8 := do
  let o ← Options.read { switches := [], mixed := false, code := 125 }
  if o.operands = [] then Work.misused "missing operand".toList 125
  let call ← MonadReader.read
  become launch { call with ignored := 1 :: call.ignored } o.operands
    fun name => "failed to run command ".toList ++ quoted name

/-- Run a program on its own. -/
def setsid (launch : Launch) : Work UInt8 := do
  let o ← Options.read
    { switches :=
        [ { letters := "c", names := ["ctty"] }, { letters := "f", names := ["fork"] },
          { letters := "w", names := ["wait"] } ]
      mixed := false }
  if o.operands = [] then Work.misused "no command specified".toList
  become launch (← MonadReader.read) o.operands fun name => "failed to execute ".toList ++ name

/-! ### Arguments -/

/-- How the words of an input are read. -/
inductive Quoting where
  | loose
  /-- Between quotes of one kind. -/
  | within (quote : Char)

/-- The words of an input between blanks, which may be quoted; the word under way is `none` between
    two words.  What is not closed is told. -/
def inputWords : Octets → Quoting → (word? : Option Octets) → Except Char (List Octets)
  | [], .loose, word? => .ok word?.toList
  | [], .within quote, _ => .error quote
  | c :: rest, .within quote, word? =>
    if c = quote then inputWords rest .loose (some (word?.getD []))
    else if c = '\n' then .error quote
    else inputWords rest (.within quote) (some (word?.getD [] ++ [c]))
  | '\\' :: c :: rest, .loose, word? => inputWords rest .loose (some (word?.getD [] ++ [c]))
  | c :: rest, .loose, word? => do
    if c = '\'' ∨ c = '"' then inputWords rest (.within c) word?
    else if Octets.isBlank c then return word?.toList ++ (← inputWords rest .loose none)
    else inputWords rest .loose (some (word?.getD [] ++ [c]))

/-- A text with another one in place of a mark. -/
def replaceAll (mark value : Octets) : (fuel : Nat) → Octets → Octets
  | 0, o => o
  | _ + 1, [] => []
  | fuel + 1, c :: rest =>
    if mark.isPrefixOf (c :: rest) ∧ mark ≠ [] then
      value ++ replaceAll mark value fuel ((c :: rest).drop mark.length)
    else c :: replaceAll mark value fuel rest

/-- A list in parts of at most `n`; at most `fuel` parts. -/
def inParts {α : Type} (n : Nat) : (fuel : Nat) → List α → List (List α)
  | 0, _ => []
  | _ + 1, [] => []
  | fuel + 1, l => l.take n :: inParts n fuel (l.drop n)

/-- Run a program with arguments from the input. -/
def xargs (launch : Launch) : Work UInt8 := do
  let o ← Options.read
    { switches :=
        [ { letters := "0", names := ["null"] },
          { letters := "d", names := ["delimiter"], arity := .one },
          { letters := "I", arity := .one },
          { letters := "i", names := ["replace"], arity := .maybe },
          { letters := "L", arity := .one },
          { letters := "l", names := ["max-lines"], arity := .maybe },
          { letters := "n", names := ["max-args"], arity := .one },
          { letters := "r", names := ["no-run-if-empty"] },
          { letters := "P", names := ["max-procs"], arity := .one },
          { letters := "s", names := ["max-chars"], arity := .one },
          { letters := "E", arity := .one }, { letters := "e", arity := .maybe },
          { letters := "a", names := ["arg-file"], arity := .one },
          { letters := "t", names := ["verbose"] }, { letters := "x", names := ["exit"] },
          { letters := "p", names := ["interactive"] } ]
      mixed := false }
  let number (key : String) : Work (Option Nat) := do
    match o.value? key with
    | none => return none
    | some word =>
      match Decimal.readDigits? (1 <<< 31) word with
      | some n => return some n
      | none => Work.misused ("invalid number \"".toList ++ word ++ "\" for -".toList ++
          key.toList ++ " option".toList)
  let most? ← number "n"
  let lines? ← number "L"
  let text ← match ← Work.contents ((o.value? "a").getD ['-']) with
    | .ok text => pure text
    | .error _ => pure []
  let mark? := (o.value? "I").or (if o.has "i" then some "\x7b\x7d".toList else none)
  let lines := ((Octets.lines text).map Octets.chomp).filter fun line => !line.all Octets.isBlank
  let delimiter? := if o.has "0" then some '\x00'
    else (o.value? "d").map fun d => (Format.unescape false (d.length + 1) d).1.headD '\n'
  let words ← match delimiter?, mark? with
    | some delimiter, _ =>
      let parts := text.splitOn delimiter
      pure (if parts.getLast? = some [] then parts.dropLast else parts)
    | none, some _ => pure (lines.map fun line => line.dropWhile Octets.isBlank)
    | none, none =>
      match inputWords text .loose none with
      | .ok words => pure words
      | .error quote =>
        let kind := if quote = '\'' then "single" else "double"
        Work.refuse ("unmatched ".toList ++ kind.toList ++
          " quote; by default quotes are special to xargs unless you use the -0 option".toList)
  let command := if o.operands = [] then ["echo".toList] else o.operands
  let parts := match lines?, most? with
    | some n, _ => (inParts (max n 1) (lines.length + 1) lines).map fun (part : List Octets) =>
        part.flatMap Octets.words
    | none, some n => inParts (max n 1) (words.length + 1) words
    | none, none => if words = [] then [] else [words]
  let commands := match mark? with
    | some mark => words.map fun value =>
        command.map fun (part : Octets) => replaceAll mark value part.length part
    | none =>
      let parts := if parts = [] ∧ !o.has "r" then [[]] else parts
      parts.map fun part => command ++ part
  let before := (← get).system
  let (silence, system) := before.add { channel := .sink }
  alter fun _ => system
  let call ← MonadReader.read
  let mut code : UInt8 := 0
  for words in commands do
    if o.has "t" then Work.warn (spaced words ++ ['\n'])
    let (number, system) := (← get).system.start
    alter fun _ => system
    let descriptors := (0, silence) :: call.descriptors.filter fun d => d.1 ≠ 0
    let result ← start launch { call with number, caller := call.number, descriptors } words
    alter fun s => s.stop number
    let name := words.headD []
    match result with
    | .error e => return ← failing (about name e) (startCode e)
    | .ok (.signal s) =>
      return ← failing (name ++ ": terminated by signal ".toList ++ Octets.ofNat s.number) 125
    | .ok (.code n) =>
      if n = 255 then
        return ← failing (name ++ ": exited with status 255; aborting".toList) 124
      else if n ≠ 0 then code := 123
  return code

end FlowDump.Rehearsal.Toolbox
