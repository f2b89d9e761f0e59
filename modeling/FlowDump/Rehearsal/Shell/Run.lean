import FlowDump.Rehearsal.Shell.Builtin.Surroundings
import FlowDump.Rehearsal.Shell.Builtin.Writing
import FlowDump.Rehearsal.Shell.Condition
import FlowDump.Rehearsal.Shell.Descriptors
import FlowDump.Rehearsal.Shell.Reading
import FlowDump.Rehearsal.Shell.Search

/-!
# Running scripts

* `Run.command` — run a command.
* `Run.text` — run the commands of a text, line after line.
* `Shell.run` — run a shell as a program.

Programs are started by `launch`.  Where a command is the last thing that a shell does (`final`), it
takes the place of the shell; where its status is looked at (`tested`), a failure does not end the
script.  Everything is given `fuel`, of which each nested command and each turn of a loop takes one.
-/

namespace FlowDump.Rehearsal.Shell

namespace Run

/-! ### The status -/

/-- Set the status. -/
def setStatus (n : Nat) : Act Unit := modify fun s => { s with status := n }

/-- Note the line of the present command. -/
def setLine (n : Nat) : Act Unit := modify fun s => { s with line := n }

/-- Whether what follows is passed over. -/
def isSkipping : Act Bool := do return (← get).skip ≠ .none

/-- Whether anything is done at a signal or at the end. -/
def hasTraps (s : State) : Bool := s.traps.any fun t => t.2 ≠ []

/-- What happens to a signal that ends a program, in words. -/
def signalTexts : List (Nat × String) :=
  [ (1, "Hangup"), (2, "Interrupt"), (3, "Quit"), (4, "Illegal instruction"),
    (5, "Trace/breakpoint trap"), (6, "Aborted"), (7, "Bus error"),
    (8, "Floating point exception"), (9, "Killed"), (10, "User defined signal 1"),
    (11, "Segmentation fault"), (12, "User defined signal 2"), (13, "Broken pipe"),
    (14, "Alarm clock"), (15, "Terminated"), (16, "Stack fault"), (24, "CPU time limit exceeded"),
    (25, "File size limit exceeded"), (26, "Virtual timer expired"),
    (27, "Profiling timer expired"), (29, "I/O possible"), (30, "Power failure"),
    (31, "Bad system call") ]

/-- The words for a signal that has ended a program. -/
def signalText (n : Nat) : Octets :=
  match signalTexts.find? fun t => t.1 = n with
  | some (_, text) => text.toList
  | none =>
    if Builtin.firstFree ≤ n then "Real-time signal ".toList ++ Octets.ofNat (n - Builtin.firstFree)
    else "Unknown signal ".toList ++ Octets.ofNat n

/-- The status of a program that has ended; a signal other than an interrupt or a broken pipe is
    told, unless the shell itself got one in the meantime that ends it. -/
def report (e : Exit) : Act Nat := do
  let s ← get
  let isFatal (p : Nat × Signal) : Bool :=
    p.1 = s.process && (Builtin.takes? s p.2.number).isNone
  if let some (_, signal) := s.system.pending.find? isFatal then throw (.killed signal)
  match e with
  | .code n => return n.toNat
  | .signal s =>
    if s.number ≠ 2 ∧ s.number ≠ 13 then Act.warn (signalText s.number ++ ['\n'])
    return 128 + s.number

/-- End in the way a program has ended that took the place of the shell. -/
def endAs {α : Type} (e : Exit) : Act α := do
  modify fun s => { s with traps := [] }
  match e with
  | .code n =>
    setStatus n.toNat
    throw .ended
  | .signal s => throw (.killed s)

/-! ### Loops -/

/-- What a loop does after its condition or its body. -/
inductive Turn where
  | onward
  | next
  | out
  deriving DecidableEq, Repr

/-- What the present loop does, and what is left for those around it. -/
def turn : Act Turn := do
  match (← get).skip with
  | .none => return .onward
  | .return _ => return .out
  | .break n =>
    modify fun s => { s with skip := if n ≤ 1 then .none else .break (n - 1) }
    return .out
  | .continue n =>
    if n ≤ 1 then
      modify fun s => { s with skip := .none }
      return .next
    else
      modify fun s => { s with skip := .continue (n - 1) }
      return .out

/-- Leave loops, or go on in one of them. -/
def leaveLoops (skip : Nat → Skip) (words : List Octets) : Act Nat := do
  let n ← match words with
    | [] => pure 1
    | word :: _ => do
      let n ← Act.count word
      if n = 0 then Act.refuse ("Illegal number: ".toList ++ word)
      pure n
  let n := min n (← get).loops
  if 0 < n then modify fun s => { s with skip := skip n }
  return 0

/-- Return with a status. -/
def returning (words : List Octets) : Act Nat := do
  match words with
  | [] =>
    modify fun s => { s with skip := .return false }
    return (← get).status
  | word :: _ =>
    let n ← Act.count word
    modify fun s => { s with skip := .return true }
    return n

/-- End the script. -/
def exiting (words : List Octets) : Act Nat := do
  match words with
  | [] => modify fun s => { s with status := s.saved?.getD s.status }
  | word :: _ => setStatus (← Act.count word)
  throw .ended

/-! ### Words -/

/-- The fields of words, up to the first words that have any; also the words that follow. -/
def firstFields (outputOf : Command → Act Octets) : List Word → Act (List Octets × List Word)
  | [] => return ([], [])
  | w :: rest => do
    match ← Expansion.fields outputOf w with
    | [] => firstFields outputOf rest
    | fields => return (fields, rest)

/-- The fields of all words; those that are assignments are not split if `assigns` says so. -/
def allFields (outputOf : Command → Act Octets) (assigns : Bool) :
    List Word → Act (List Octets)
  | [] => return []
  | w :: rest => do
    let fields ← match if assigns then w.assignment? else none with
      | some (name, value) => do
        let o ← Expansion.assigned outputOf value
        pure [name ++ '=' :: o]
      | none => Expansion.fields outputOf w
    return fields ++ (← allFields outputOf assigns rest)

/-- What the words of a simple command call. -/
structure Choice where
  arguments : List Octets := []
  /-- The words that have not been expanded yet. -/
  rest : List Word := []
  found? : Option Search.Found := none
  /-- Whether the first command of the shell among the words is a special one. -/
  special? : Option Bool := none
  functions : Bool := true
  path : Octets
  deriving Inhabited

/-- The words after the command that passes over functions, without its options; none if it does
    something else.  All words come first, and the search path last. -/
def afterCommand (outputOf : Command → Act Octets) : (fuel : Nat) → (before words : List Octets) →
    List Word → (path : Octets) →
    Act (List Octets × List Word × Option (List Octets × Octets))
  | 0, before, words, rest, _ => return (before ++ words, rest, none)
  | fuel + 1, before, words, rest, path => do
    let (words, rest) ← if words = [] then firstFields outputOf rest else pure (words, rest)
    match words with
    | [] => return (before, rest, none)
    | word :: others =>
      match word with
      | ['-', '-'] =>
        let (others, rest) ← if others = [] then firstFields outputOf rest else pure (others, rest)
        let all := before ++ word :: others
        return (all, rest, if others = [] then none else some (others, path))
      | '-' :: c :: cs =>
        if (c :: cs).all (· = 'p') then
          afterCommand outputOf fuel (before ++ [word]) others rest Search.usualPath.toList
        else return (before ++ words, rest, none)
      | _ => return (before ++ words, rest, some (words, path))

/-- What some words call. -/
def choose (outputOf : Command → Act Octets) : (fuel : Nat) → (arguments : List Octets) → Choice →
    Act Choice
  | 0, _, c => return c
  | fuel + 1, arguments, c => do
    match arguments with
    | [] => return c
    | name :: others =>
      let found := Search.find (← get) name c.functions c.path
      let c := { c with arguments, found? := some found }
      match found with
      | .builtin kind =>
        let c := { c with special? := c.special?.or (some kind.isSpecial) }
        if name ≠ "command".toList then return c
        match ← afterCommand outputOf (fuel + 1) [] others c.rest c.path with
        | (all, rest, none) => return { c with arguments := name :: all, rest }
        | (_, rest, some (words, path)) =>
          choose outputOf fuel words { c with rest, path, functions := false }
      | _ => return c

/-! ### Programs -/

/-- How many bytes of a file tell whether it is a script. -/
def scriptFront : Nat := 128

/-- Whether a file may be a script: there are no control characters in its first line but for those
    of layout. -/
def mayBeScript (s : System) (path : Octets) : Bool :=
  match s.files.find (Octets.text path) with
  | .ok (.file bytes) =>
    let line := (Octets.ofBytes (bytes.take scriptFront)).takeWhile (· ≠ '\n')
    line.all fun c =>
      let n := c.toNat
      (9 ≤ n && n ≤ 15) || n = 27 || (32 ≤ n && n ≠ 127)
  | _ => false

/-- Start one of the programs at some paths in the shell's surroundings. -/
def start (launch : Launch) (call : Call) : List Octets → (e : SystemError) →
    Act (Except SystemError Exit)
  | [], e => return .error e
  | path :: paths, e => do
    let s ← get
    let launch : Launch := if mayBeScript s.system path then launch.orScript else launch
    let (result, system) := launch path call s.system
    set { s with system }
    match result with
    | .ok exit => return .ok exit
    | .error f => start launch call paths (if f = .notFound ∨ f = .notADirectory then e else f)

/-- Run a program with some words, as the shell itself or apart from it. -/
def program (launch : Launch) (final : Bool) (paths words : List Octets) : Act Nat := do
  let s ← get
  let instead : Bool := final && !hasTraps s
  let (number, system) := if instead then (s.process, s.system) else s.system.start
  set { s with system }
  let call : Call :=
    { name := words.headD [], arguments := words.tail, environment := s.environment
      descriptors := s.descriptors, number
      caller := if instead then s.callerNumber else s.process
      ignored := (s.traps.filter fun t => t.2 = []).map (·.1) }
  let result ← start launch call paths .notFound
  modify fun after =>
    let files := { after.system.files with here := s.system.files.here }
    let system := { after.system with files }
    { after with system := if instead then system else system.stop number }
  match result with
  | .error e =>
    Act.complain (words.headD [] ++ ": ".toList ++ Search.reason e)
    return Search.status e
  | .ok exit => if instead then endAs exit else report exit

/-! ### Parts of a shell -/

/-- The descriptors are brought back afterwards, unless they are to be `kept` where all went well.
    -/
def withDescriptors {α : Type} (kept : Bool) (act : Act α) : Act α := do
  let before := (← get).descriptors
  let result ← Act.attempt act
  match result with
  | .ok a =>
    if !kept then modify fun s => { s with descriptors := before }
    return a
  | .error h =>
    modify fun s => { s with descriptors := before }
    throw h

/-- What a part of the shell that runs on its own starts with. -/
def apart (s : State) : State :=
  { s with
    traps := s.traps.filter fun t => t.2 = []
    caught := [], skip := .none, loops := 0, jobs := [], saved? := none }

/-- Bring back everything but the system after a part of the shell that ran on its own. -/
def rejoin (before : State) (number : Nat) (after : State) : State :=
  let files := { after.system.files with here := before.system.files.here }
  { before with system := { after.system with files }.stop number }

/-- The text in the trace of a command. -/
def trace (assignments : List (Octets × Octets)) (words : List Octets) : Octets :=
  let parts := assignments.map (fun a => a.1 ++ '=' :: a.2) ++ words
  (parts.intersperse [' ']).flatten

/-- Write the trace of a command to what the error output stood for before. -/
def writeTrace (channel? : Option Nat) (o : Octets) : Act Unit := do
  let s ← get
  match channel? with
  | some n =>
    match s.system.write n (Octets.bytes (s.lookup "PS4" ++ o ++ ['\n'])) with
    | .ok system => set { s with system }
    | .error _ => pure ()
  | none => pure ()

/-- A function or a file that was returned from has ended. -/
def returned : Act Unit :=
  modify fun s => match s.skip with
    | .return _ => { s with skip := .none }
    | _ => s

variable (launch : Launch)

/-- Say what a name stands for, if that is asked for. -/
def describing (arguments : List Octets) : Act Nat := do
  let (options, words) ← Builtin.options "pvV" arguments
  let has (c : Char) : Bool := options.any fun o => o.1 = c
  let s ← get
  let path := if has 'p' then Search.usualPath.toList else s.lookup "PATH"
  match words with
  | [] => return 0
  | name :: _ =>
    if has 'v' ∨ has 'V' then Search.describe name path (has 'V') else return 0

/-- Look programs up. -/
def hash (arguments : List Octets) : Act Nat := do
  let (_, words) ← Builtin.options "r" arguments
  let s ← get
  let mut status := 0
  for name in words do
    match Search.find s name true (s.lookup "PATH") with
    | .missing e =>
      Act.complain (name ++ ": ".toList ++ Search.reason e)
      status := 1
    | _ => pure ()
  return status

/-- Run a program in place of the shell; without one nothing is done. -/
def exec (arguments : List Octets) : Act Nat := do
  match arguments with
  | [] => return 0
  | name :: _ =>
    let s ← get
    let paths : Except SystemError (List Octets) :=
      if '/' ∈ name then .ok [name] else Search.files s (Search.directories (s.lookup "PATH")) name
    match paths with
    | .error e =>
      Act.complain (name ++ ": ".toList ++ Search.reason e)
      setStatus (Search.status e)
      throw .ended
    | .ok paths =>
      let call : Call :=
        { name, arguments := arguments.tail, environment := s.environment
          descriptors := s.descriptors, number := s.process, caller := s.callerNumber
          ignored := (s.traps.filter fun t => t.2 = []).map (·.1) }
      match ← start launch call paths .notFound with
      | .error e =>
        Act.complain (name ++ ": ".toList ++ Search.reason e)
        setStatus (Search.status e)
        throw .ended
      | .ok exit => endAs exit

mutual

/-- Run a command; the answer is its status. -/
def command : (fuel : Nat) → (final tested : Bool) → Command → Act Nat
  | 0, _, _, _ => throw .spent
  | fuel + 1, final, tested, c => do
    if !(← get).has 'n' then
      attend fuel
      let isChecked ← perform fuel final tested c
      attend fuel
      let s ← get
      if isChecked && !tested && s.has 'e' && s.status ≠ 0 then throw .ended
    if final then throw .ended
    return (← get).status

/-- Run a command and set the status; the answer tells whether a failure of it may end the
    script. -/
def perform : (fuel : Nat) → (final tested : Bool) → Command → Act Bool
  | 0, _, _, _ => throw .spent
  | fuel + 1, final, tested, c => do
    match c with
    | .nothing => return false
    | .simple line assignments words redirections =>
      setLine line
      setStatus (← simple fuel final tested assignments words redirections)
      return true
    | .redirected line body redirections =>
      setLine line
      let targets ← redirections.mapM (Descriptors.target (outputOf fuel))
      let done ← withDescriptors false do
        if ← Descriptors.openAll targets then
          let _ ← command fuel false tested body
          return true
        else return false
      if !done then setStatus 2
      return !done
    | .subshell line body redirections =>
      setLine line
      let targets ← redirections.mapM (Descriptors.target (outputOf fuel))
      let run : Act Nat := do
        if !(← Descriptors.openAll targets) then throw .failed
        command fuel true tested body
      let s ← get
      if final ∧ !hasTraps s then
        set { s with skip := .none, loops := 0, jobs := [], saved? := none }
        let _ ← run
        return true
      else
        setStatus (← report (← alone fuel s.system.nextNumber run))
        return true
    | .background line body redirections =>
      setLine line
      let targets ← redirections.mapM (Descriptors.target (outputOf fuel))
      background fuel targets body
      setStatus 0
      return true
    | .pipeline parts =>
      setStatus (← pipeline fuel tested none 0 parts)
      return true
    | .negated body =>
      let status ← command fuel false true body
      setStatus (if status = 0 then 1 else 0)
      return false
    | .sequence first second =>
      let _ ← command fuel false tested first
      if !(← isSkipping) then let _ ← command fuel final tested second
      return false
    | .both first second =>
      let status ← command fuel false true first
      if status = 0 ∧ !(← isSkipping) then let _ ← command fuel final tested second
      return false
    | .either first second =>
      let status ← command fuel false true first
      if status ≠ 0 ∧ !(← isSkipping) then let _ ← command fuel final tested second
      return false
    | .choice condition body otherwise =>
      let status ← command fuel false true condition
      if !(← isSkipping) then
        if status = 0 then let _ ← command fuel final tested body
        else match otherwise with
          | .nothing => setStatus 0
          | c => let _ ← command fuel final tested c
      return false
    | .loop untilTrue condition body =>
      modify fun s => { s with loops := s.loops + 1 }
      let status ← loop fuel untilTrue tested condition body 0
      modify fun s => { s with loops := s.loops - 1, status }
      return false
    | .each line name words body =>
      setLine line
      let values ← allFields (outputOf fuel) false words
      modify fun s => { s with loops := s.loops + 1 }
      let status ← each fuel tested name body values 0
      modify fun s => { s with loops := s.loops - 1, status }
      return false
    | .select line word cases =>
      setLine line
      let o ← Expansion.text (outputOf fuel) word
      setStatus (← select fuel final tested o cases)
      return false
    | .define line name body =>
      modify fun s =>
        { s with
          functions := (name, line, body) :: s.functions.filter fun f => f.1 ≠ name
          status := 0 }
      return false

/-- Run a loop; the status is that of the last turn. -/
def loop : (fuel : Nat) → (untilTrue tested : Bool) → (condition body : Command) →
    (status : Nat) → Act Nat
  | 0, _, _, _, _, _ => throw .spent
  | fuel + 1, untilTrue, tested, condition, body, status => do
    let n ← command fuel false true condition
    let returns : Bool := match (← get).skip with
      | .return _ => true
      | _ => false
    match ← turn with
    | .out => return if returns then n else status
    | .next => loop fuel untilTrue tested condition body status
    | .onward =>
      if (n = 0) = untilTrue then return status
      let status ← command fuel false tested body
      if (← turn) = .out then return status
      loop fuel untilTrue tested condition body status

/-- Run a command for each of some values. -/
def each : (fuel : Nat) → (tested : Bool) → (name : Octets) → Command → List Octets →
    (status : Nat) → Act Nat
  | 0, _, _, _, _, _ => throw .spent
  | _ + 1, _, _, _, [], status => return status
  | fuel + 1, tested, name, body, value :: values, _ => do
    Act.assign name value
    let status ← command fuel false tested body
    if (← turn) = .out then return status
    each fuel tested name body values status

/-- Run the first case with a pattern that fits. -/
def select : (fuel : Nat) → (final tested : Bool) → Octets → List (List Word × Command) →
    Act Nat
  | 0, _, _, _, _ => throw .spent
  | _ + 1, _, _, _, [] => return 0
  | fuel + 1, final, tested, o, (patterns, body) :: cases => do
    if ← fits fuel o patterns then
      match body with
      | .nothing => return 0
      | body => command fuel final tested body
    else select fuel final tested o cases

/-- Whether a text fits one of some patterns. -/
def fits : (fuel : Nat) → Octets → List Word → Act Bool
  | 0, _, _ => throw .spent
  | _ + 1, _, [] => return false
  | fuel + 1, o, w :: rest => do
    if Glob.fits (← Expansion.pattern (outputOf fuel) w) o then return true
    fits fuel o rest

/-- Run the parts of a pipeline one after the other, each of which reads what the one before it has
    written.  So many parts came before them. -/
def pipeline : (fuel : Nat) → (tested : Bool) → (input? : Option Nat) → (before : Nat) →
    List Command → Act Nat
  | 0, _, _, _, _ => throw .spent
  | _ + 1, _, _, _, [] => return 0
  | fuel + 1, tested, input?, before, part :: rest => do
    let s ← get
    let (output, system) := s.system.add { channel := .memory [] }
    set { s with system }
    let exit ← alone fuel system.nextNumber do
      modify fun s =>
        let s := match input? with
          | some n => s.setDescriptor 0 (some n)
          | none => s
        if rest = [] then s else s.setDescriptor 1 (some output)
      command fuel true tested part
    let later ← pipeline fuel tested (some output) (before + 1) rest
    -- the ends are told once all parts have ended
    let status ← report exit
    return if rest = [] then status else later

/-- The output of a command. -/
def outputOf : (fuel : Nat) → Command → Act Octets
  | 0, _ => throw .spent
  | fuel + 1, c => do
    let s ← get
    let (output, system) := s.system.add { channel := .memory [] }
    set { s with system }
    let exit ← alone fuel system.nextNumber do
      modify fun s => s.setDescriptor 1 (some output)
      command fuel true false c
    let status ← report exit
    modify fun s => { s with outputStatus := status }
    let o := (Octets.ofBytes ((← get).system.kept output)).filter (· ≠ '\x00')
    return (o.reverse.dropWhile (· = '\n')).reverse

/-- Run something on its own, under a number. -/
def alone : (fuel : Nat) → (number : Nat) → Act Nat → Act Exit
  | 0, _, _ => throw .spent
  | fuel + 1, number, body => do
    let before ← get
    let system :=
      { before.system with
        nextNumber := max before.system.nextNumber (number + 1)
        living := number :: before.system.living }
    set { apart before with system, process := number }
    let exit ← finish fuel body
    modify (rejoin before number)
    return exit

/-- Run something to its end, with what is done there. -/
def finish : (fuel : Nat) → Act Nat → Act Exit
  | 0, _ => throw .spent
  | fuel + 1, body => do
    match ← Act.attempt body with
    | .error (.killed signal) => return .signal signal
    | _ =>
      let s ← get
      let code (n : Nat) : Exit := .code (UInt8.ofNat n)
      match s.traps.find? fun t => t.1 = 0 with
      | none =>
        waitForAll fuel
        return code s.status
      | some (_, action) =>
        set { s with
          traps := s.traps.filter (fun t => t.1 ≠ 0), saved? := some s.status, skip := .none }
        let result ← Act.attempt (text fuel false false { rest := action } 0)
        waitForAll fuel
        match result with
        | .error (.killed signal) => return .signal signal
        | .error _ => return code (← get).status
        | .ok _ => return code s.status

/-- Start a command in the background.  It is run at once, but where it waits for something, it is
    not run before that time has come. -/
def background : (fuel : Nat) → List Target → Command → Act Unit
  | 0, _, _ => throw .spent
  | fuel + 1, targets, body => do
    let before ← get
    let number := before.system.nextNumber
    let job : Job := { number, command := body, targets }
    let exit ← runJob fuel job
    let after ← get
    if after.system.slept = before.system.slept then
      set { after with jobs := after.jobs ++ [{ job with exit? := some exit }] }
    else
      let system := { before.system with nextNumber := number + 1 }
      set { before with
        system, jobs := before.jobs ++ [{ job with time := after.system.slept }] }
    modify fun s => { s with lastJob? := some number }

/-- Run a command in the background to its end. -/
def runJob : (fuel : Nat) → Job → Act Exit
  | 0, _ => throw .spent
  | fuel + 1, job =>
    alone fuel job.number do
      let s ← get
      let (n, system) := s.system.add { channel := .sink }
      set ({ s with system }.setDescriptor 0 (some n))
      if !(← Descriptors.openAll job.targets) then throw .failed
      command fuel true false job.command

/-- Run the commands in the background whose time has come, the earliest one first. -/
def runDue : (fuel : Nat) → (time : Nat) → Act Unit
  | 0, _ => throw .spent
  | fuel + 1, time => do
    let s ← get
    let due := s.jobs.filter fun j => j.exit? = none ∧ j.time ≤ time
    let earlier (best : Option Job) (j : Job) : Option Job := match best with
      | some b => if j.time < b.time then some j else some b
      | none => some j
    match due.foldl earlier none with
    | none => return
    | some job =>
      let exit ← runJob fuel job
      modify fun after =>
        let jobs := s.jobs.map fun j =>
          if j.number = job.number then { j with exit? := some exit } else j
        { after with
          jobs, system := { after.system with slept := max s.system.slept job.time } }
      runDue fuel time

/-- Wait for all commands in the background. -/
def waitForAll : (fuel : Nat) → Act Unit
  | 0 => throw .spent
  | fuel + 1 => do
    let s ← get
    runDue fuel (s.jobs.foldl (fun time j => max time j.time) 0)

/-- Wait for some commands in the background; the status is that of the last one. -/
def waitFor : (fuel : Nat) → List Octets → (status : Nat) → Act Nat
  | 0, _, _ => throw .spent
  | _ + 1, [], status => return status
  | fuel + 1, word :: words, _ => do
    match word with
    | '%' :: _ => Act.refuse ("No such job: ".toList ++ word)
    | _ =>
      let n ← Act.count word
      match (← get).jobs.find? fun j => j.number = n with
      | none => waitFor fuel words 127
      | some job =>
        if job.exit? = none then runDue fuel job.time
        let done? := ((← get).jobs.find? fun j => j.number = n).bind (·.exit?)
        let status ← report (done?.getD (.code 0))
        waitFor fuel words status

/-- Look at the signals that have come, and do what there is to be done at them and at this time. -/
def attend : (fuel : Nat) → Act Unit
  | 0 => throw .spent
  | fuel + 1 => do
    let s ← get
    if s.jobs.any fun j => j.exit? = none ∧ j.time ≤ s.system.slept then
      runDue fuel s.system.slept
    let s ← get
    if s.system.pending ≠ [] then
      let (mine, others) := s.system.pending.partition fun p => p.1 = s.process
      set { s with system := { s.system with pending := others } }
      for (_, signal) in mine do
        match Builtin.takes? (← get) signal.number with
        | some s => set s
        | none => throw (.killed signal)
    if (← get).caught ≠ [] then trapped fuel

/-- Do what is done at the signals that were caught. -/
def trapped : (fuel : Nat) → Act Unit
  | 0 => throw .spent
  | fuel + 1 => do
    let s ← get
    match s.caught.min? with
    | none => return
    | some n =>
      if s.skip = .none then
        let status := s.saved?.getD s.status
        set { s with caught := s.caught.filter (· ≠ n), saved? := some status }
        let action := ((s.traps.find? fun t => t.1 = n).map (·.2)).getD []
        let _ ← text fuel false false { rest := action } 0
        modify fun after =>
          { after with
            saved? := s.saved?
            status := if after.skip = .return true then after.status else status }
        trapped fuel

/-- Run the commands of a text, line after line, from where a reader stands.  The status is that of
    the last command, or the one that is given if there is none. -/
def text : (fuel : Nat) → (final tested : Bool) → Reader → (status : Nat) → Act Nat
  | 0, _, _, _, _ => throw .spent
  | fuel + 1, final, tested, reader, status => do
    let s ← get
    let reader :=
      { reader with aliases := s.aliases, documents := [], nextDocument := s.nextDocument }
    match Read.line?.run reader with
    | .error fault =>
      setLine fault.line
      Act.refuse ("Syntax error: " ++ fault.message).toList
    | .ok (none, _) => return status
    | .ok (some c, reader) =>
      set { s with
        documents := reader.documents ++ s.documents, nextDocument := reader.nextDocument }
      let isLast := reader.again && reader.last = .finish
      let n ← command fuel (final && isLast) tested c
      let status := match c with
        | .nothing => status
        | _ => n
      if ← isSkipping then return status
      text fuel final tested reader status

/-- Run a simple command. -/
def simple : (fuel : Nat) → (final tested : Bool) → List (Octets × Word) → List Word →
    List Redirection → Act Nat
  | 0, _, _, _, _, _ => throw .spent
  | fuel + 1, final, tested, assignments, words, redirections => do
    modify fun s => { s with outputStatus := 0 }
    let path := (← get).lookup "PATH"
    let (fields, rest) ← firstFields (outputOf fuel) words
    let c ← choose (outputOf fuel) (fuel + 1) fields { path, rest }
    let assigns : Bool := match c.found? with
      | some (.builtin kind) => kind.assigns
      | _ => false
    let arguments := c.arguments ++ (← allFields (outputOf fuel) assigns c.rest)
    let isExec : Bool := match c.found? with
      | some (.builtin _) => arguments.head? = some "exec".toList
      | _ => false
    let targets ← redirections.mapM (Descriptors.target (outputOf fuel))
    let errors? := (← get).descriptor? 2
    withDescriptors isExec do
      if !(← Descriptors.openAll targets) then
        if c.special? = some true then throw .failed
        return 2
      let isLocal : Bool := c.found?.isSome && c.special? ≠ some true
      let run : Act Nat := do
        let values ← assignAll fuel isLocal (isExec && 1 < arguments.length) assignments
        if (← get).has 'x' then writeTrace errors? (trace values arguments)
        call fuel final tested c arguments
      if isLocal then Act.withFrame run else run

/-- Carry assignments out, and give the values back. -/
def assignAll : (fuel : Nat) → (isLocal exported : Bool) → List (Octets × Word) →
    Act (List (Octets × Octets))
  | 0, _, _, _ => throw .spent
  | _ + 1, _, _, [] => return []
  | fuel + 1, isLocal, exported, (name, w) :: rest => do
    let o ← Expansion.assigned (outputOf fuel) w
    if isLocal then Act.hide name
    Act.assign name o (isLocal || exported)
    return (name, o) :: (← assignAll fuel isLocal exported rest)

/-- Run what some words call. -/
def call : (fuel : Nat) → (final tested : Bool) → Choice → (arguments : List Octets) → Act Nat
  | 0, _, _, _, _ => throw .spent
  | fuel + 1, final, tested, c, arguments => do
    match c.found? with
    | none => return (← get).outputStatus
    | some (.missing e) =>
      Act.complain (arguments.headD [] ++ ": ".toList ++ Search.reason e)
      return 127
    | some (.program paths) => program launch final paths arguments
    | some (.function line body) => function fuel tested line body arguments.tail
    | some (.builtin _) =>
      let name := arguments.headD []
      let isSpecial : Bool := c.special? = some true
      modify fun s => { s with outputFailed := false }
      let restore (before s : State) : State := { s with command? := before.command? }
      let run : Act Nat := do
        modify fun s => { s with command? := some name }
        let status ← builtin fuel tested name arguments.tail
        if (← get).outputFailed then
          Act.complain (name ++ ": I/O error".toList)
          return status ||| 1
        return status
      match ← Act.attempt (Act.restoring restore run) with
      | .ok status => return status
      | .error h =>
        if h = .failed ∧ !isSpecial then return (← get).status
        throw h

/-- Run a function. -/
def function : (fuel : Nat) → (tested : Bool) → (line : Nat) → Command → List Octets → Act Nat
  | 0, _, _, _, _ => throw .spent
  | fuel + 1, tested, line, body, arguments => do
    let restore (before s : State) : State :=
      { s with
        parameters := before.parameters, loops := before.loops
        functionLine? := before.functionLine?, optionPosition := before.optionPosition
        optionOffset? := before.optionOffset? }
    Act.restoring restore do
      modify fun s =>
        { s with
          parameters := arguments, loops := 0, functionLine? := some line
          optionPosition := 1, optionOffset? := none }
      let _ ← command fuel false tested body
    returned
    return (← get).status

/-- Run a command that is part of the shell. -/
def builtin : (fuel : Nat) → (tested : Bool) → (name : Octets) → List Octets → Act Nat
  | 0, _, _, _ => throw .spent
  | fuel + 1, tested, name, arguments => do
    match String.ofList name with
    | "." =>
      let (_, words) ← Builtin.options "" arguments
      match words with
      | [] => return 0
      | path :: _ => file fuel path
    | "break" => leaveLoops .break arguments
    | "continue" => leaveLoops .continue arguments
    | "eval" =>
      if arguments = [] then return 0
      text fuel false tested { rest := (arguments.intersperse [' ']).flatten } 0
    | "exec" => exec launch arguments
    | "exit" => exiting arguments
    | "return" => returning arguments
    | "export" => Builtin.exporting arguments
    | "readonly" => Builtin.constant arguments
    | "local" => Builtin.local arguments
    | "unset" => Builtin.unset arguments
    | "set" => Builtin.settings arguments
    | "shift" => Builtin.shift arguments
    | "times" => Builtin.times
    | "trap" => Builtin.trap arguments
    | "alias" => Builtin.aliasing arguments
    | "unalias" => Builtin.unalias arguments
    | "cd" | "chdir" => Builtin.cd arguments
    | "command" => describing arguments
    | "echo" => Builtin.echo arguments
    | "false" => return 1
    | "getopts" => Builtin.getopts arguments
    | "hash" => hash arguments
    | "kill" => Builtin.kill arguments
    | "printf" => Builtin.printf arguments
    | "pwd" => Builtin.pwd arguments
    | "read" => Builtin.read arguments
    | "test" => return if ← Condition.holds arguments then 0 else 1
    | "[" =>
      if (arguments.getLast?.bind (·.head?)) ≠ some ']' then Act.refuse "missing ]".toList
      return if ← Condition.holds arguments.dropLast then 0 else 1
    | "type" => Search.describeAll ((← get).lookup "PATH") arguments
    | "ulimit" => Builtin.ulimit arguments
    | "umask" => Builtin.umask arguments
    | "wait" =>
      let (_, words) ← Builtin.options "" arguments
      if words = [] then
        waitForAll fuel
        return 0
      waitFor fuel words 0
    | _ => return 0

/-- Run the commands in a file. -/
def file : (fuel : Nat) → (path : Octets) → Act Nat
  | 0, _ => throw .spent
  | fuel + 1, path => do
    let s ← get
    let path ←
      if '/' ∈ path then pure path
      else match Search.files s (Search.directories (s.lookup "PATH")) path with
        | .ok (found :: _) => pure found
        | _ => Act.refuse (path ++ ": not found".toList)
    match s.system.openToRead (Octets.text path) with
    | .error e =>
      Act.refuse ("cannot open ".toList ++ path ++ ": ".toList ++
        Descriptors.reason "No such file" e)
    | .ok o =>
      let (n, system) := s.system.add o
      set { s with system, command? := some path }
      let status ← text fuel false false { rest := Octets.ofBytes (system.unread n) } 0
      returned
      return status

end

end Run

end FlowDump.Rehearsal.Shell
