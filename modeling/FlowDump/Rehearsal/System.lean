import FlowDump.Exit
import FlowDump.Files.Filesystem
import FlowDump.Rehearsal.Octets

/-!
# What the programs of a rehearsal share

Programs run one after the other: of two that are joined by a pipe the first one has ended when the
second one starts, and a program in the background has ended before the next command.

* `Rehearsal.Channel`, `Rehearsal.Opened` — what bytes are read from and written to.
* `Rehearsal.System` — the files, everything that was opened, and the signals under way.
* `System.pathOf` — the path of a location.
* `System.openToRead`, `System.openToWrite` — open a path.
* `System.write`, `System.readAll`, `System.readLine` — write and read.
* `System.sleep` — let time pass.
* `Rehearsal.Call`, `Rehearsal.Launch` — the start of a program.
-/

namespace FlowDump.Rehearsal

/-! ### Channels -/

/-- What bytes are read from and written to. -/
inductive Channel where
  | file (l : Location)
  | directory
  /-- A pipe, or a text that is kept. -/
  | memory (bytes : List UInt8)
  /-- What is written is lost, and nothing can be read. -/
  | sink
  /-- As many zeros as are read. -/
  | zeros
  /-- Nothing can be written. -/
  | full
  deriving Inhabited

/-- A channel that was opened, with the position in it. -/
structure Opened where
  channel : Channel
  position : Nat := 0
  /-- What is written goes to the end. -/
  appends : Bool := false
  deriving Inhabited

/-- A time at which programs are sent a signal, from one with a certain number on. -/
structure Deadline where
  /-- The milliseconds that programs will have slept. -/
  time : Nat
  first : Nat
  signal : Signal
  deriving Inhabited

/-- What the programs of a rehearsal share. -/
structure System where
  files : Filesystem
  opened : Array Opened := #[]
  /-- The files that may be run. -/
  runnable : List Location := []
  /-- The signals that were sent to the caller of the first program. -/
  sent : List Signal := []
  /-- The signals that programs sent to others that have not looked at them yet. -/
  pending : List (Nat × Signal) := []
  /-- The number of the next program. -/
  nextNumber : Nat := 3
  /-- The numbers of the programs that have not ended, innermost first. -/
  living : List Nat := []
  /-- The milliseconds that programs slept. -/
  slept : Nat := 0
  deadline? : Option Deadline := none
  deriving Inhabited

namespace System

/-- Add something that was opened. -/
def add (s : System) (o : Opened) : Nat × System :=
  (s.opened.size, { s with opened := s.opened.push o })

/-- What is behind a number. -/
def get (s : System) (n : Nat) : Opened := s.opened[n]?.getD { channel := .sink }

/-- Change what is behind a number. -/
def set (s : System) (n : Nat) (o : Opened) : System :=
  { s with opened := s.opened.setIfInBounds n o }

/-! ### Opening -/

/-- The paths that stand for something that is open already, by descriptor. -/
def standardPaths : List (String × Nat) :=
  [("/dev/stdin", 0), ("/dev/stdout", 1), ("/dev/stderr", 2), ("/dev/fd/0", 0), ("/dev/fd/1", 1),
    ("/dev/fd/2", 2)]

/-- The path of a location. -/
def pathOf (l : Location) : Octets :=
  if l = [] then ['/'] else Octets.ofText (String.join (l.map ("/" ++ ·)))

/-- The channel of a device. -/
def device? (l : Location) : Option Channel :=
  if l = ["dev", "null"] then some .sink
  else if l = ["dev", "zero"] then some .zeros
  else if l = ["dev", "full"] then some .full
  else none

/-- The location of a path, if it names an entry. -/
def location (s : System) (path : String) : Except IoFailure Location := do
  match ← s.files.locate path with
  | .directory l => return l
  | .entry parent name _ => return parent ++ [name]

/-- Open a file that is there for reading. -/
def openToRead (s : System) (path : String) : Except IoFailure Opened := do
  match ← s.files.find path with
  | .directory => return { channel := .directory }
  | .file _ =>
    let l ← s.location path
    return { channel := (device? l).getD (.file l) }

/-- Open a file for writing, and make it if it is not there; it keeps its contents if they are to be
    `kept`. -/
def openToWrite (s : System) (path : String) (kept appends : Bool) :
    Except IoFailure (Opened × System) := do
  let exists? := (s.files.find path).toOption
  let l ← s.location path
  match exists?, device? l with
  | some _, some channel => return ({ channel }, s)
  | some .directory, _ => Filesystem.refuse .isADirectory
  | found, none =>
    let files ← if kept ∧ found.isSome then pure s.files else s.files.create path
    return ({ channel := .file l, appends }, { s with files })
  | none, _ => Filesystem.refuse .notFound

/-! ### Conditions -/

/-- Whether what stands at a path is of the kind that a letter asks for. -/
def holds (s : System) (condition : Char) (path : String) : Bool :=
  match s.files.find path, s.location path with
  | .ok node, .ok l =>
    let isDevice := (device? l).isSome
    match condition, node with
    | 'e', _ | 'r', _ | 'w', _ | 'O', _ | 'G', _ => true
    | 'd', node => node = .directory
    | 'f', .file _ => !isDevice
    | 'c', .file _ => isDevice
    | 's', .file bytes => bytes ≠ []
    | 's', .directory => true
    | 'x', .directory => true
    | 'x', .file _ => l ∈ s.runnable
    | _, _ => false
  | _, _ => false

/-- Whether two paths lead to the same place. -/
def isSamePlace (s : System) (a b : String) : Bool :=
  match s.files.find a, s.files.find b, s.location a, s.location b with
  | .ok _, .ok _, .ok l, .ok m => l = m
  | _, _, _, _ => false

/-! ### Writing -/

/-- The bytes of a file; one that is gone has none. -/
def contentsAt (s : System) (l : Location) : List UInt8 :=
  match s.files.node? l with
  | some (.file bytes) => bytes
  | _ => []

/-- Write bytes. -/
def write (s : System) (n : Nat) (bytes : List UInt8) : Except SystemError System :=
  let o := s.get n
  match o.channel with
  | .sink | .zeros => .ok s
  | .full => .error ⟨28⟩
  | .directory => .error ⟨9⟩
  | .memory old => .ok (s.set n { o with channel := .memory (old ++ bytes) })
  | .file l =>
    match s.files.node? l with
    | some (.file old) =>
      let position := if o.appends then old.length else o.position
      let files := s.files.put l (.file (Filesystem.overwrite old position bytes))
      .ok ({ s with files }.set n { o with position := position + bytes.length })
    | _ => .ok s

/-! ### Reading -/

/-- What is left to be read. -/
def unread (s : System) (n : Nat) : List UInt8 :=
  let o := s.get n
  match o.channel with
  | .file l => (s.contentsAt l).drop o.position
  | .memory bytes => bytes.drop o.position
  | _ => []

/-- Go on by a number of bytes. -/
def advance (s : System) (n count : Nat) : System :=
  let o := s.get n
  s.set n { o with position := o.position + count }

/-- Read everything that is left. -/
def readAll (s : System) (n : Nat) : Except SystemError (List UInt8 × System) :=
  match (s.get n).channel with
  | .directory => .error .isADirectory
  | _ =>
    let bytes := s.unread n
    .ok (bytes, s.advance n bytes.length)

/-- Read up to the end of a line, which is part of it. -/
def readLine (s : System) (n : Nat) : List UInt8 × System :=
  let bytes := s.unread n
  let line := bytes.takeWhile (· ≠ 10)
  let line := line ++ (bytes.drop line.length).take 1
  (line, s.advance n line.length)

/-- What was written into the memory behind a number. -/
def kept (s : System) (n : Nat) : List UInt8 :=
  match (s.get n).channel with
  | .memory bytes => bytes
  | _ => []

/-! ### Time -/

/-- Let time pass, up to the deadline if it comes first; then it is over, and the answer is its
    signal. -/
def sleep (s : System) (millis : Nat) : Option Signal × System :=
  match s.deadline? with
  | some d =>
    if d.time < s.slept + millis then
      let reached := s.living.filter fun n => d.first ≤ n
      (some d.signal,
        { s with
          slept := max s.slept d.time
          deadline? := none
          pending := s.pending ++ reached.map (·, d.signal) })
    else (none, { s with slept := s.slept + millis })
  | none => (none, { s with slept := s.slept + millis })

/-! ### Numbers of programs -/

/-- Give a number to a program that starts. -/
def start (s : System) : Nat × System :=
  (s.nextNumber, { s with nextNumber := s.nextNumber + 1, living := s.nextNumber :: s.living })

/-- A program has ended. -/
def stop (s : System) (n : Nat) : System :=
  { s with living := s.living.erase n, pending := s.pending.filter fun p => p.1 ≠ n }

end System

/-! ### Calls -/

/-- The start of a program. -/
structure Call where
  /-- The name that the program was called by, and its arguments. -/
  name : Octets
  arguments : List Octets := []
  environment : List (Octets × Octets) := []
  /-- What the descriptors stand for. -/
  descriptors : List (Nat × Nat) := []
  /-- The number of the program, and that of its caller. -/
  number : Nat
  caller : Nat
  /-- The signals that do nothing. -/
  ignored : List Nat := []
  deriving Inhabited

/-- Start the program at a path and wait for its end. -/
abbrev Launch := (path : Octets) → Call → StateM System (Except SystemError Exit)

/-- A file is not in a form that can be run. -/
def wrongFormat : SystemError := ⟨8⟩

/-- Start the program at a path, or let the shell run a file that is no program. -/
def Launch.orScript (launch : Launch) : Launch := fun path call => do
  match ← launch path call with
  | .error e =>
    if e = wrongFormat then
      launch "/bin/sh".toList { call with arguments := path :: call.arguments }
    else return .error e
  | result => return result

end FlowDump.Rehearsal
