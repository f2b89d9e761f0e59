import FlowDump.Rehearsal.Files
import FlowDump.Rehearsal.Shell.Session
import FlowDump.Rehearsal.Stage
import FlowDump.Rehearsal.Toolbox

/-!
# Programs of a rehearsal

* `Rehearsal.launch` — start the program at a path: the shell, a small program or a script.
* `Rehearsal.perform` — run a program and keep its error output.
* `Rehearsal.platform` — the platform of a stage: its programs answer as they are told, or are
  performed.
-/

namespace FlowDump.Rehearsal

/-! ### Starting programs -/

/-- The path of the program that runs a script, and a word for it, as the first line says. -/
def interpreter? (bytes : List UInt8) : Option (Octets × List Octets) :=
  match Octets.ofBytes (bytes.take 256) with
  | '#' :: '!' :: rest =>
    let isGap (c : Char) : Bool := c = ' ' || c = '\t'
    let line := (rest.takeWhile (· ≠ '\n')).dropWhile isGap
    let path := line.takeWhile (!isGap ·)
    let word := ((line.drop path.length).reverse.dropWhile isGap).reverse.dropWhile isGap
    if path = [] then none else some (path, if word = [] then [] else [word])
  | _ => none

/-- How deep programs may start one another. -/
def maxDepth : Nat := 64

/-- Run a program that leaves the working directory of the others as it is. -/
def running (exit : StateM System Exit) : StateM System (Except SystemError Exit) := do
  let here := (← get).files.here
  let exit ← exit
  modify fun s => { s with files := { s.files with here } }
  return .ok exit

/-- Start the program at a path; at most `fuel` programs deep. -/
def launch : (fuel : Nat) → Launch
  | 0, _, _ => return .error .argumentsTooLong
  | fuel + 1, path, call => do
    let system ← get
    match system.files.find (Octets.text path), system.location (Octets.text path) with
    | .error e, _ | _, .error e => return .error (Toolbox.cause e)
    | .ok .directory, _ => return .error .permissionDenied
    | .ok (.file bytes), .ok l =>
      if l ∉ system.runnable then return .error .permissionDenied
      match interpreter? bytes, programOf? bytes with
      | some (interpreter, words), _ =>
        let arguments := words ++ path :: call.arguments
        launch fuel interpreter { call with name := interpreter, arguments }
      | none, none => return .error wrongFormat
      | none, some name =>
        match Toolbox.tool? name with
        | some tool => running ((tool.work (launch fuel)).run tool.trouble call)
        | none => running (Shell.Session.run (launch fuel) call)

/-! ### Performing programs -/

/-- What a program that was performed leaves behind. -/
structure Performed where
  files : Filesystem
  runnable : List Location
  outcome : CommandOutcome
  /-- The signals sent to the caller. -/
  sent : List Signal := []

/-- The environment of a program that is performed. -/
def environment : List (Octets × Octets) :=
  [("PATH".toList, Shell.Search.usualPath.toList), ("HOME".toList, "/root".toList)]

/-- How long an argument may be in bytes. -/
def maxArgument : Nat := 131071

/-- Start one of the programs at some paths. -/
def startAny (call : Call) : List Octets → SystemError → StateM System (Except SystemError Exit)
  | [], e => return .error e
  | path :: paths, e => do
    match ← launch maxDepth path call with
    | .error f =>
      if f = .notFound ∨ f = .notADirectory then startAny call paths e
      else if f = .permissionDenied then startAny call paths f
      else return .error f
    | result => return result

/-- Whether there is a program at one of some paths. -/
def isThere (s : System) (paths : List Octets) : Bool :=
  paths.any fun path => s.holds 'x' (Octets.text path) && !s.holds 'd' (Octets.text path)

/-- Perform a program. -/
def perform (files : Filesystem) (runnable : List Location) (program : String)
    (arguments : List String) : Except IoFailure Performed :=
  if (program :: arguments).any fun word => '\x00' ∈ word.toList then .error .zeroInArgument
  else
    let name := Octets.ofText program
    let system : System :=
      { files, runnable, opened := #[{ channel := .sink }, { channel := .memory [] },
          { channel := .memory [] }] }
    let isDirect := '/' ∈ name
    let paths := Toolbox.candidates environment name
    if name = [] then .error (.system .notFound)
    else if !isDirect ∧ Filesystem.maxName < name.length then .error (.system .nameTooLong)
    else if isThere system paths ∧ arguments.any fun word => maxArgument < word.utf8ByteSize then
      .error (.system .argumentsTooLong)
    else
      let (number, system) := system.start
      let call : Call :=
        { name, arguments := arguments.map Octets.ofText, environment
          descriptors := [(0, 0), (1, 1), (2, 2)], number, caller := 1 }
      let start := if isDirect then launch maxDepth name call else startAny call paths .notFound
      match start system with
      | (.error e, _) => .error (.system e)
      | (.ok exit, s) =>
        .ok { files := s.files, runnable := s.runnable, outcome := exit.outcome (s.kept 2)
              sent := s.sent }

/-! ### The platform of a stage -/

namespace Stage

/-- Take a call down. -/
def called (s : Stage) (call : ProgramCall) : Stage :=
  { s with programs := { s.programs with calls := call :: s.programs.calls } }

end Stage

/-- Run a program as the script says. -/
def runProgram (program : String) (arguments : List String) :
    StateM (Machine Stage) (Except IoFailure CommandOutcome) := fun m =>
  let answer? := nth? m.outside.programs.answers m.outside.programs.calls.length
  let request? := arguments.getLast?.bind fun path => (m.files.readFile path).toOption
  let m := { m with outside := m.outside.called { program, arguments, request? } }
  match answer? with
  | some (.outcome o) => (.ok o, m)
  | some (.failure e) => (.error e, m)
  | _ =>
    match perform m.files m.outside.runnable program arguments with
    | .error e => (.error e, m)
    | .ok done =>
      let interrupted := m.outside.interrupted || done.sent.any (· ∈ Signal.stopping)
      (.ok done.outcome,
        { files := done.files
          outside := { m.outside with interrupted, runnable := done.runnable } })

/-- The platform of a stage. -/
def platform : Platform Stage :=
  { now := fun s => (s.clock, s)
    interrupted := fun s => (s.interrupted, s)
    identity := fun s => (Stage.identity s.issued, { s with issued := s.issued + 1 })
    run := runProgram }

end FlowDump.Rehearsal
