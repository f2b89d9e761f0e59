import FlowDump.Rehearsal.Format
import FlowDump.Rehearsal.Shell.Builtin.Basic

/-!
# Commands of the shell for what is around it

* `Builtin.cd`, `Builtin.pwd`, `Builtin.umask` — the directory and the rights of new files.
* `Builtin.kill`, `Builtin.trap` — signals.
-/

namespace FlowDump.Rehearsal.Shell.Builtin

/-! ### Directories -/

/-- Change the directory; after a dash it is the last one, and is written. -/
def cd (words : List Octets) : Act Nat := do
  let (_, words) ← options "LP" words
  let s ← get
  let (path, shown) := match words with
    | [] => (s.lookup "HOME", false)
    | ['-'] :: _ => (s.lookup "OLDPWD", true)
    | path :: _ => (path, false)
  let path := if path = [] then ['.'] else path
  let text := Octets.text path
  match s.system.files.find text, s.system.location text with
  | .ok .directory, .ok l =>
    let old := System.pathOf s.system.files.here
    modify fun s =>
      { s with system := { s.system with files := { s.system.files with here := l } } }
    Act.assign "OLDPWD".toList old
    Act.assign "PWD".toList (System.pathOf l)
    if shown then Act.say (System.pathOf l ++ ['\n'])
    return 0
  | _, _ => Act.refuse ("can't cd to ".toList ++ path)

/-- Write the directory. -/
def pwd (words : List Octets) : Act Nat := do
  let _ ← options "LP" words
  Act.say (System.pathOf (← get).system.files.here ++ ['\n'])
  return 0

/-! ### Rights of new files -/

/-- The digits of a number in base eight. -/
def octal (n : Nat) : Octets :=
  let digits := Nat.toDigits 8 n
  List.replicate (4 - digits.length) '0' ++ digits

/-- Rights as letters, for the owner, the group and the others. -/
def rights (mask : Nat) : Octets :=
  let of (who : Char) (shift : Nat) : Octets :=
    let held (bit : Nat) (c : Char) : Octets :=
      if mask >>> shift &&& bit = 0 then [c] else []
    who :: '=' :: held 4 'r' ++ held 2 'w' ++ held 1 'x'
  of 'u' 6 ++ ',' :: of 'g' 3 ++ ',' :: of 'o' 0

/-- The bits that letters stand for. -/
def bits (of : Char → Nat) (o : Octets) : Nat := o.foldl (fun n c => n ||| of c) 0

/-- A mask after a change that is written with letters. -/
def changedMask? (mask : Nat) (clause : Octets) : Option Nat :=
  let isWho (c : Char) : Bool := c ∈ ['u', 'g', 'o', 'a']
  let who := clause.takeWhile isWho
  let area := if who = [] then 0o777 else bits (fun c => match c with
    | 'u' => 0o700
    | 'g' => 0o070
    | 'o' => 0o007
    | _ => 0o777) who
  match clause.drop who.length with
  | operator :: rest =>
    if rest.all (· ∈ ['r', 'w', 'x', 'X', 's', 't']) then
      let asked := area &&& bits (fun c => match c with
        | 'r' => 0o444
        | 'w' => 0o222
        | 'x' => 0o111
        | _ => 0) rest
      match operator with
      | '+' => some (mask &&& (0o777 ^^^ asked))
      | '-' => some (mask ||| asked)
      | '=' => some ((mask ||| area) &&& (0o777 ^^^ asked))
      | _ => none
    else none
  | [] => none

/-- Change or write the rights that new files do not get. -/
def umask (words : List Octets) : Act Nat := do
  let (options, words) ← options "S" words
  let mask := (← get).mask
  match words with
  | [] => Act.say ((if options = [] then octal mask else rights mask) ++ ['\n'])
  | word :: _ =>
    if (word.headD ' ').isDigit then
      match Format.digits 8 word.length 0 0 word with
      | (_, n, []) => modify fun s => { s with mask := n % 0o1000 }
      | _ => Act.refuse ("Illegal number: ".toList ++ word)
    else
      match (word.splitOn ',').foldl (fun m? clause => m?.bind (changedMask? · clause)) (some mask)
      with
      | some n => modify fun s => { s with mask := n }
      | none => Act.refuse ("Illegal mode: ".toList ++ word)
  return 0

/-- Write a limit; there are none. -/
def ulimit (words : List Octets) : Act Nat := do
  let (options, words) ← options "HSatfdsmcnlpvwr" words
  if words = [] then Act.say (if options.any (·.1 = 'c') then "0\n" else "unlimited\n").toList
  return 0

/-- Write the time that was used. -/
def times : Act Nat := do
  Act.say "0m0.00s 0m0.00s\n0m0.00s 0m0.00s\n".toList
  return 0

/-! ### Signals -/

/-- What a shell does at a signal, if it does not end. -/
def takes? (s : State) (signal : Nat) : Option State :=
  match s.traps.find? fun t => t.1 = signal with
  | some (_, []) => if signal = 9 then none else some s
  | some _ => if signal = 9 then none else some { s with caught := s.caught ++ [signal] }
  | none => if (⟨signal⟩ : Signal).isHarmless then some s else none

/-- Send a signal to a program; the answer tells whether it is there. -/
def send (signal receiver : Nat) : Act Bool := do
  let s ← get
  let isJob := s.jobs.any fun j => j.number = receiver
  if signal = 0 then
    return receiver = 1 ∨ receiver = s.process ∨ receiver ∈ s.system.living ∨ isJob
  else if receiver = s.process then
    match takes? s signal with
    | some s => set s
    | none => throw (.killed ⟨signal⟩)
    return true
  else if receiver = 1 then
    set { s with system := { s.system with sent := s.system.sent ++ [Signal.mk signal] } }
    return true
  else if isJob then
    let kill (j : Job) : Job :=
      if j.number = receiver ∧ j.exit? = none then { j with exit? := some (.signal ⟨signal⟩) }
      else j
    set { s with jobs := s.jobs.map kill }
    return true
  else if receiver ∈ s.system.living then
    let pending := s.system.pending ++ [(receiver, Signal.mk signal)]
    set { s with system := { s.system with pending } }
    return true
  else return false

/-- How the command `kill` is used. -/
def killUsage : String :=
  "Usage: kill [-s sigspec | -signum | -sigspec] [pid | job]... or\nkill -l [exitstatus]"

/-- Write the names of signals, or the one that a status stands for. -/
def listSignals (words : List Octets) : Act Nat := do
  match words with
  | [] =>
    let names := (List.range maxSignal).flatMap fun n => signalName (n + 1) ++ ['\n']
    Act.say ('0' :: '\n' :: names)
  | word :: _ =>
    let n ← Act.count word
    let n := if 128 < n then n - 128 else n
    if 0 < n ∧ n ≤ maxSignal then Act.say (signalName n ++ ['\n'])
    else Act.refuse ("invalid signal number or exit status: ".toList ++ word)
  return 0

/-- Send a signal to some programs. -/
def sendAll (signal : Nat) : List Octets → Act Nat
  | [] => return 0
  | word :: rest => do
    match word with
    | '%' :: _ => Act.refuse ("No such job: ".toList ++ word)
    | _ =>
      let there ← match word with
        | '-' :: digits => do
          let _ ← Act.count digits
          pure false
        | _ => do send signal (← Act.count word)
      if !there then Act.complain "No such process\n".toList
      let status ← sendAll signal rest
      return if there then status else 1

/-- Send signals. -/
def kill (words : List Octets) : Act Nat := do
  let usage {α : Type} : Act α := Act.refuse killUsage.toList
  match words with
  | [] => usage
  | word :: rest =>
    let direct? := match word with
      | '-' :: name => signal? 1 name
      | _ => none
    let (signal?, listing, words) ← match direct?, word with
      | some n, _ => pure (some n, false, rest)
      | none, '-' :: _ => do
        let (options, words) ← options "ls:" words
        let mut signal? := none
        for (c, name) in options do
          if c = 's' then
            match Builtin.signal? 1 name with
            | some n => signal? := some n
            | none => Act.refuse ("invalid signal number or name: ".toList ++ name)
        pure (signal?, options.any (·.1 = 'l'), words)
      | none, _ => pure (none, false, words)
    if listing then
      if signal?.isSome then usage else listSignals words
    else if words = [] then usage
    else sendAll (signal?.getD 15) words

/-- Let an action be done at signals that are named, or the usual thing without one. -/
def setTraps (action? : Option Octets) : List Octets → Act Nat
  | [] => return 0
  | name :: names => do
    match signal? 0 name with
    | none =>
      Act.warn ("trap: ".toList ++ name ++ ": bad trap\n".toList)
      return 1
    | some n =>
      modify fun s =>
        let others := s.traps.filter fun t => t.1 ≠ n
        { s with traps := match action? with
          | some action => (n, action) :: others
          | none => others }
      setTraps action? names

/-- Say what is done at signals, or write it. -/
def trap (words : List Octets) : Act Nat := do
  let (_, words) ← options "" words
  match words with
  | [] =>
    let sorted := (← get).traps.mergeSort fun a b => decide (a.1 ≤ b.1)
    Act.say (sorted.flatMap fun t =>
      "trap -- ".toList ++ quoted t.2 ++ ' ' :: signalName t.1 ++ ['\n'])
    return 0
  | [first] => setTraps none [first]
  | first :: rest =>
    if first ≠ [] ∧ first.all Char.isDigit ∧ (signal? 0 first).isSome then setTraps none words
    else setTraps (if first = ['-'] then none else some first) rest

end FlowDump.Rehearsal.Shell.Builtin
