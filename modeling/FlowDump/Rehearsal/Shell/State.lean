import FlowDump.Decimal.Unsigned
import FlowDump.Rehearsal.Shell.Token
import FlowDump.Rehearsal.System

/-!
# The state of a shell

* `Shell.State` — what a shell knows between two commands.
* `Shell.Act` — what a command does: it changes the state, and may put an end to the script.
* `Act.say`, `Act.complain`, `Act.refuse` — output and complaints.
* `State.lookup?`, `Act.assign` — variables.
-/

namespace FlowDump.Rehearsal.Shell

/-! ### States -/

/-- A variable. -/
structure Variable where
  value? : Option Octets := none
  /-- Programs that are run get to know it. -/
  exported : Bool := false
  /-- It keeps its value. -/
  constant : Bool := false
  deriving Inhabited

/-- What is passed over until a loop or a function ends. -/
inductive Skip where
  | none
  /-- So many loops are left. -/
  | break (loops : Nat)
  /-- So many loops are left but one, which goes on. -/
  | continue (loops : Nat)
  /-- A function or file is left, with a status of its own or with the last one. -/
  | return (withStatus : Bool)
  deriving DecidableEq, Repr, Inhabited

/-- Where a descriptor is to lead. -/
inductive Target where
  | file (descriptor : Nat) (mode : OpenMode) (path : Octets)
  /-- Where another descriptor leads, or nowhere. -/
  | same (descriptor : Nat) (other? : Option Nat)
  | text (descriptor : Nat) (o : Octets)
  deriving Inhabited

/-- A command in the background. -/
structure Job where
  number : Nat
  /-- How it ended, once it has. -/
  exit? : Option Exit := none
  command : Command
  targets : List Target := []
  /-- The milliseconds that programs will have slept when it ends. -/
  time : Nat := 0
  deriving Inhabited

/-- What a shell knows between two commands. -/
structure State where
  system : System
  /-- The number by which the shell knows itself, and that of its caller. -/
  number : Nat
  callerNumber : Nat
  /-- The number of the program that the commands are part of. -/
  process : Nat
  name : Octets := ['s', 'h']
  parameters : List Octets := []
  bindings : List (Octets × Variable) := []
  functions : List (Octets × (Nat × Command)) := []
  aliases : List (Octets × Octets) := []
  documents : List (Nat × Word) := []
  nextDocument : Nat := 0
  /-- The letters of the options that are on. -/
  options : List Char := []
  status : Nat := 0
  /-- The status before the trap that is being run. -/
  saved? : Option Nat := none
  /-- The status of the last command whose output was asked for in the present one. -/
  outputStatus : Nat := 0
  /-- The line of the present command, and its name if it is one of the shell. -/
  line : Nat := 1
  /-- The line on which the function starts that is being run. -/
  functionLine? : Option Nat := none
  command? : Option Octets := none
  /-- What the descriptors stand for. -/
  descriptors : List (Nat × Nat) := [(0, 0), (1, 1), (2, 2)]
  /-- What is done at a signal; nothing is done at one with an empty action.  The number zero stands
      for the end of the script. -/
  traps : List (Nat × Octets) := []
  /-- The signals that have come and wait for their traps. -/
  caught : List Nat := []
  skip : Skip := .none
  /-- The loops around the present command. -/
  loops : Nat := 0
  /-- For each function that is being run, the variables as they were outside. -/
  hidden : List (List (Octets × Option Variable)) := []
  /-- Functions and files that are being run, which may be returned from. -/
  calls : Nat := 0
  jobs : List Job := []
  lastJob? : Option Nat := none
  /-- Where options are read, and within which word. -/
  optionPosition : Nat := 1
  optionOffset? : Option Nat := none
  /-- The command of the shell that is being run could not write its output. -/
  outputFailed : Bool := false
  mask : Nat := 0o22
  deriving Inhabited

/-- Why a script goes no further. -/
inductive Halt where
  /-- It has ended, with the status of the state. -/
  | ended
  /-- Something went wrong that ends a script, unless a command of the shell did it that may
      fail. -/
  | failed
  | killed (s : Signal)
  /-- It has taken all the steps it may. -/
  | spent
  deriving DecidableEq, Repr, Inhabited

/-- What a command does. -/
abbrev Act := ExceptT Halt (StateM State)

namespace State

/-- Whether an option is on. -/
def has (s : State) (option : Char) : Bool := option ∈ s.options

/-- What a descriptor stands for. -/
def descriptor? (s : State) (n : Nat) : Option Nat :=
  (s.descriptors.find? fun d => d.1 = n).map (·.2)

/-- Let a descriptor stand for something, or for nothing. -/
def setDescriptor (s : State) (n : Nat) (target? : Option Nat) : State :=
  let others := s.descriptors.filter fun d => d.1 ≠ n
  { s with descriptors := match target? with
    | some target => (n, target) :: others
    | none => others }

/-- A variable by its name. -/
def held? (s : State) (name : Octets) : Option Variable :=
  (s.bindings.find? fun v => v.1 = name).map (·.2)

/-- The value of a variable. -/
def lookup? (s : State) (name : Octets) : Option Octets :=
  (s.held? name).bind (·.value?)

/-- The value of a variable, empty if it has none. -/
def lookup (s : State) (name : String) : Octets := (s.lookup? name.toList).getD []

/-- Put a variable in place of one with the same name. -/
def setVariable (s : State) (name : Octets) (v : Variable) : State :=
  { s with bindings := (name, v) :: s.bindings.filter fun w => w.1 ≠ name }

/-- Take a variable away. -/
def removeVariable (s : State) (name : Octets) : State :=
  { s with bindings := s.bindings.filter fun w => w.1 ≠ name }

/-- What programs that are run get to know. -/
def environment (s : State) : List (Octets × Octets) :=
  s.bindings.filterMap fun v => if v.2.exported then v.2.value?.map (v.1, ·) else none

/-- The characters at which values are split into fields. -/
def separators (s : State) : Octets :=
  (s.lookup? ['I', 'F', 'S']).getD [' ', '\t', '\n']

end State

namespace State

/-- The line of the present command, counted from the start of the function. -/
def shownLine (s : State) : Nat :=
  match s.functionLine? with
  | some first => s.line + 1 - first
  | none => s.line

end State

namespace Act

/-! ### Output and complaints -/

/-- Write to a descriptor; the answer tells whether that could be done. -/
def write (descriptor : Nat) (o : Octets) : Act Bool := do
  let s ← get
  match s.descriptor? descriptor with
  | none => return false
  | some n =>
    match s.system.write n (Octets.bytes o) with
    | .ok system =>
      set { s with system }
      return true
    | .error _ => return false

/-- Write the output of a command of the shell. -/
def say (o : Octets) : Act Unit := do
  if o = [] then return
  if !(← write 1 o) then modify fun s => { s with outputFailed := true }

/-- Write a text to the error output. -/
def warn (o : Octets) : Act Unit := do
  let _ ← write 2 o

/-- Complain with the name of the script, the line, and the command if it is one of the shell. -/
def complain (message : Octets) : Act Unit := do
  let s ← get
  let command := match s.command? with
    | some c => c ++ ": ".toList
    | none => []
  warn (s.name ++ ": ".toList ++ Octets.ofNat s.line ++ ": ".toList ++ command ++ message ++ ['\n'])

/-- Complain and give up. -/
def refuse {α : Type} (message : Octets) : Act α := do
  modify fun s => { s with status := 2 }
  complain message
  throw .failed

/-- Do something and tell how it went. -/
def attempt {α : Type} (act : Act α) : Act (Except Halt α) := fun s =>
  let (result, s) := act s
  (.ok result, s)

/-- Do something and bring back a part of the state, however it goes. -/
def restoring {α : Type} (restore : State → State → State) (act : Act α) : Act α := do
  let before ← get
  try
    let a ← act
    modify (restore before)
    return a
  catch h =>
    modify (restore before)
    throw h

/-! ### Variables -/

/-- Give a variable a value. -/
def assign (name value : Octets) (exported : Bool := false) : Act Unit := do
  let s ← get
  let v := (s.held? name).getD {}
  if v.constant then refuse (name ++ ": is read only".toList)
  let exported := exported || v.exported || s.has 'a'
  let s := s.setVariable name { v with value? := some value, exported }
  -- options are read from the place that is assigned on
  if name = "OPTIND".toList then
    let position := max 1 ((Decimal.readDigits? (1 <<< 31) value).getD 1)
    set { s with optionPosition := position, optionOffset? := none }
  else set s

/-- Take the value of a variable away. -/
def unassign (name : Octets) : Act Unit := do
  let s ← get
  if ((s.held? name).map (·.constant)).getD false then refuse (name ++ ": is read only".toList)
  set (s.removeVariable name)

/-- Hide a variable until the present function ends. -/
def hide (name : Octets) : Act Unit :=
  modify fun s => match s.hidden with
    | frame :: frames =>
      if frame.any fun v => v.1 = name then s
      else { s with hidden := ((name, s.held? name) :: frame) :: frames }
    | [] => s

/-- Bring back the variables that a frame has hidden. -/
def unhide (frame : List (Octets × Option Variable)) (s : State) : State :=
  frame.foldl
    (fun s v => match v.2 with
      | some old => s.setVariable v.1 old
      | none => s.removeVariable v.1)
    s

/-- Do something with variables that are brought back afterwards. -/
def withFrame {α : Type} (act : Act α) : Act α := do
  modify fun s => { s with hidden := [] :: s.hidden }
  restoring (fun _ s => match s.hidden with
    | frame :: frames => unhide frame { s with hidden := frames }
    | [] => s) act

/-! ### Numbers -/

/-- The digits of a number in a base, in letters of either case, and what follows them. -/
def digitsIn (base : Nat) : (value : Nat) → (any : Bool) → Octets → Nat × Bool × Octets
  | value, any, [] => (value, any, [])
  | value, any, c :: rest =>
    let d? := if c.isDigit then some (c.toNat - 48)
      else if c.isLower then some (c.toNat - 87)
      else if c.isUpper then some (c.toNat - 55)
      else none
    match d? with
    | some d =>
      if d < base then digitsIn base (value * base + d) true rest else (value, any, c :: rest)
    | none => (value, any, c :: rest)

/-- The number at the front of a text, after blanks and a sign, and what follows; without a base a
    zero in front announces one.  There is none where there is no digit. -/
def leadingNumber? (base? : Option Nat) (o : Octets) : Option (Int × Octets) :=
  let o := o.dropWhile Octets.isBlank
  let (negative, o) := match o with
    | '-' :: rest => (true, rest)
    | '+' :: rest => (false, rest)
    | o => (false, o)
  let isHex (c : Char) : Bool := c.isDigit || ('a' ≤ c && c ≤ 'f') || ('A' ≤ c && c ≤ 'F')
  let (value, any, rest) := match base?, o with
    | none, '0' :: x :: d :: rest =>
      if (x = 'x' ∨ x = 'X') ∧ isHex d then digitsIn 16 0 false (d :: rest)
      else digitsIn 8 0 false o
    | none, '0' :: _ => digitsIn 8 0 false o
    | base?, _ => digitsIn (base?.getD 10) 0 false o
  if any then some (if negative then -(value : Int) else value, rest) else none

/-- The bounds of the numbers that a shell computes with. -/
def isInRange (n : Int) : Bool := -(1 <<< 63) ≤ n && n < 1 <<< 63

/-- The whole of a text as a number, with blanks around it. -/
def number? (base? : Option Nat) (o : Octets) : Option Int :=
  match leadingNumber? base? o with
  | some (n, rest) => if rest.all Octets.isBlank ∧ isInRange n then some n else none
  | none => none

/-- The number that a word has to be. -/
def number (o : Octets) : Act Int :=
  match number? (some 10) o with
  | some n => return n
  | none => refuse ("Illegal number: ".toList ++ o)

/-- The count that a word has to be. -/
def count (o : Octets) : Act Nat := do
  match number? (some 10) o with
  | some n =>
    if 0 ≤ n ∧ n < 1 <<< 31 then return n.toNat
    else refuse ("Illegal number: ".toList ++ o)
  | none => refuse ("Illegal number: ".toList ++ o)

end Act

end FlowDump.Rehearsal.Shell
