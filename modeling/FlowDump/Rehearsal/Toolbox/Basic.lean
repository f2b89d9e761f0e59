import FlowDump.Rehearsal.System

/-!
# What programs do

* `Toolbox.Work` — what a program does with the system that it was started in.
* `Toolbox.Tool` — a program by its name.
* `Work.say`, `Work.complain`, `Work.misused` — output and complaints.
* `Work.contents` — the bytes of a file or of the input.
* `Toolbox.quoted` — a name in a complaint.
-/

namespace FlowDump.Rehearsal.Toolbox

/-! ### Work -/

/-- What a program works with. -/
structure Bench where
  system : System
  /-- Why the output could not be written. -/
  fault? : Option SystemError := none
  deriving Inhabited

/-- What a program does.  It may end before its end. -/
abbrev Work := ExceptT Exit (ReaderT Call (StateM Bench))

/-- Do what a program does, to its end; without its output it has failed with a code. -/
def Work.run (trouble : UInt8) (work : Work UInt8) (call : Call) : StateM System Exit :=
  fun system =>
    let (result, bench) := work call { system }
    let exit := match result with
      | .ok code => .code code
      | .error exit => exit
    match bench.fault? with
    | none => (exit, bench.system)
    | some e =>
      let o := call.name ++ ": write error: ".toList ++ e.text.toList ++ ['\n']
      let system := match call.descriptors.find? fun d => d.1 = 2 with
        | some (_, n) => ((bench.system.write n (Octets.bytes o)).toOption).getD bench.system
        | none => bench.system
      (.code trouble, system)

/-- A program of the toolbox. -/
structure Tool where
  name : String
  /-- The code if the output could not be written. -/
  trouble : UInt8 := 1
  work : Launch → Work UInt8

/-- The error of the system behind a failure. -/
def cause : IoFailure → SystemError
  | .system e => e
  | _ => ⟨22⟩

namespace Work

/-! ### Output -/

/-- What a descriptor stands for. -/
def channel? (descriptor : Nat) : Work (Option Nat) := do
  return ((← read).descriptors.find? fun d => d.1 = descriptor).map (·.2)

/-- Write to a descriptor. -/
def write (descriptor : Nat) (o : Octets) : Work (Except SystemError Unit) := do
  match ← channel? descriptor with
  | none => return .error ⟨9⟩
  | some n =>
    let bench ← get
    match bench.system.write n (Octets.bytes o) with
    | .ok system =>
      set { bench with system }
      return .ok ()
    | .error e => return .error e

/-- Write to the output. -/
def say (o : Octets) : Work Unit := do
  if o ≠ [] then
    match ← write 1 o with
    | .ok () => pure ()
    | .error e => modify fun bench => { bench with fault? := bench.fault?.or (some e) }

/-- Write to the error output. -/
def warn (o : Octets) : Work Unit := do
  let _ ← write 2 o

/-- End with a code. -/
def leave {α : Type} (code : UInt8) : Work α := throw (.code code)

/-- Complain under the name of the program. -/
def complain (message : Octets) : Work Unit := do
  warn ((← read).name ++ ": ".toList ++ message ++ ['\n'])

/-- Point to what the program can tell about itself. -/
def hint : Work Unit := do
  warn ("Try '".toList ++ (← read).name ++ " --help' for more information.\n".toList)

/-- Complain about how the program was called, and end. -/
def misused {α : Type} (message : Octets) (code : UInt8 := 1) : Work α := do
  complain message
  hint
  leave code

/-- Complain and end. -/
def refuse {α : Type} (message : Octets) (code : UInt8 := 1) : Work α := do
  complain message
  leave code

/-- Do something with each of some operands; the answer is the greatest code. -/
def forEach {α : Type} (operands : List α) (step : α → Work UInt8) : Work UInt8 := do
  let mut code := 0
  for operand in operands do code := max code (← step operand)
  return code

/-! ### Files -/

/-- The files. -/
def files : Work Filesystem := do return (← get).system.files

/-- Put other files in place. -/
def setFiles (files : Filesystem) : Work Unit :=
  modify fun bench => { bench with system := { bench.system with files } }

/-- Make a change of files that may fail. -/
def change (f : Filesystem → Except IoFailure Filesystem) : Work (Except SystemError Unit) := do
  match f (← files) with
  | .ok fs =>
    setFiles fs
    return .ok ()
  | .error e => return .error (cause e)

/-- What stands at a path. -/
def look (path : Octets) : Work (Except SystemError Node) := do
  match (← files).find (Octets.text path) with
  | .ok node => return .ok node
  | .error e => return .error (cause e)

/-- Where a path leads. -/
def place (path : Octets) : Work (Except SystemError Location) := do
  match (← get).system.location (Octets.text path) with
  | .ok l => return .ok l
  | .error e => return .error (cause e)

/-- Read the input to its end. -/
def input : Work (Except SystemError Octets) := do
  match ← channel? 0 with
  | none => return .error ⟨9⟩
  | some n =>
    let bench ← get
    match bench.system.readAll n with
    | .error e => return .error e
    | .ok (bytes, system) =>
      set { bench with system }
      return .ok (Octets.ofBytes bytes)

/-- The bytes of a file, or of the input for a dash; the failure tells whether the file could be
    opened. -/
def contents (path : Octets) : Work (Except (Bool × SystemError) Octets) := do
  if path = ['-'] then
    match ← input with
    | .ok o => return .ok o
    | .error e => return .error (true, e)
  else
    let text := Octets.text path
    match System.standardPaths.find? fun p => p.1 = text with
    | some (_, 0) =>
      match ← input with
      | .ok o => return .ok o
      | .error e => return .error (true, e)
    | _ =>
      let bench ← get
      match bench.system.openToRead text with
      | .error e => return .error (false, cause e)
      | .ok o =>
        let (n, system) := bench.system.add o
        match system.readAll n with
        | .error e => return .error (true, e)
        | .ok (bytes, _) => return .ok (Octets.ofBytes bytes)

end Work

/-! ### Complaints -/

/-- What went wrong, after what it happened to. -/
def about (what : Octets) (e : SystemError) : Octets := what ++ ": ".toList ++ e.text.toList

/-- Whether a byte can be shown as it is. -/
def isShown (c : Char) : Bool := 0x20 ≤ c.toNat && c.toNat < 0x7F

/-- A byte that cannot be shown. -/
def escaped (c : Char) : Octets :=
  match c with
  | '\n' => ['\\', 'n']
  | '\t' => ['\\', 't']
  | '\r' => ['\\', 'r']
  | '\x07' => ['\\', 'a']
  | '\x08' => ['\\', 'b']
  | '\x0b' => ['\\', 'v']
  | '\x0c' => ['\\', 'f']
  | c =>
    let digits := Nat.toDigits 8 c.toNat
    '\\' :: List.replicate (3 - digits.length) '0' ++ digits

/-- The parts of a name between single quotes, the bytes that cannot be shown apart from the
    others; at most `fuel` parts. -/
def parts : (fuel : Nat) → Octets → Octets
  | 0, _ => []
  | _ + 1, [] => []
  | fuel + 1, o =>
    let part := o.takeWhile isShown
    let rest := o.drop part.length
    let hidden := rest.takeWhile (!isShown ·)
    let shown : Octets := part.flatMap fun c => if c = '\'' then "'\\''".toList else [c]
    let shown := '\'' :: shown ++ ['\'']
    if hidden = [] then shown
    else
      shown ++ "$'".toList ++ hidden.flatMap escaped ++ '\'' ::
        parts fuel (rest.drop hidden.length)

/-- A name between quotes: single ones, or double ones if a single quote is in it and nothing that
    means something between double ones. -/
def quoted (o : Octets) : Octets :=
  let isPlain (c : Char) : Bool := c.isAlphanum || c ∈ "%+,-./:]_@ #~\x7b\x7d'".toList
  if o = [] then "''".toList
  else if '\'' ∈ o ∧ o.all isPlain then '"' :: o ++ ['"']
  else parts (o.length + 1) o

/-- A name, between quotes if anything in it would mean something to a shell. -/
def quotedIfNeeded (o : Octets) : Octets :=
  let isMark (c : Char) : Bool := !isShown c || c ∈ " !\"$&'()*;<=>?[\\^`|".toList
  if o = [] ∨ o.any isMark ∨ o.head? = some '#' ∨ o.head? = some '~' ∨
      o = ['\x7b'] ∨ o = ['\x7d'] then quoted o
  else o

end FlowDump.Rehearsal.Toolbox
